import Buddy3dProxy.Supervisor.IdleTimer
import Buddy3dProxy.Supervisor.LiveOutbound
import Buddy3dProxy.Supervisor.Outcomes
import Buddy3dProxy.Supervisor.Payload
import Buddy3dProxy.Supervisor.Retired
import Buddy3dProxy.Supervisor.RetryBudget
import Buddy3dProxy.Supervisor.Grace
import Buddy3dProxy.Supervisor.Running
import Buddy3dProxy.Supervisor.Delivery
import Buddy3dProxy.Supervisor.Pacing
import Buddy3dProxy.Supervisor.AttemptLifecycle
import Buddy3dProxy.Supervisor.Informed
import Buddy3dProxy.ReconnectBudget.Eager
import Buddy3dProxy.ReconnectBudget.Window
import Buddy3dProxy.RateLimit.Polls
import Buddy3dProxy.RateLimit.Window
import Buddy3dProxy.Rtsp.Connection
import Buddy3dProxy.Rtsp.Framing
import Buddy3dProxy.Rtsp.Path
import Buddy3dProxy.Rtsp.SdpRoundTrip
import Buddy3dProxy.Rtsp.Forward
import Buddy3dProxy.Rtsp.HeaderExtension
import Buddy3dProxy.Rtsp.Client
import Buddy3dProxy.Rtsp.Playback
import Buddy3dProxy.Snapshot.Packetization
import Buddy3dProxy.Snapshot.Padding
import Buddy3dProxy.Snapshot.Worker
import Buddy3dProxy.Snapshot.Recovered
import Buddy3dProxy.WebRtc.Ice
import Buddy3dProxy.Signaling.Transport
import Buddy3dProxy.Signaling.Handshake
import Buddy3dProxy.Signaling.Translator
import Buddy3dProxy.Signaling.Received
import Buddy3dProxy.Signaling.TransportTask
import Buddy3dProxy.TokenStore.Crash
import Buddy3dProxy.Expiry
import Buddy3dProxy.Prusa.RefreshToken
import Buddy3dProxy.Prusa.AuthLatch
import Buddy3dProxy.Mqtt.State
import Buddy3dProxy.Mqtt.Hub
import Buddy3dProxy.Mqtt.Overtaking
import Buddy3dProxy.Mqtt.Subsystem
