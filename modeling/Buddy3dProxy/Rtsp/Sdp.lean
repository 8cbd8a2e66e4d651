/-!
# The SDP served to RTSP clients

The generator of `rtsp/sdp.rs`. The description is kept as a list of lines, each rendered as the
format string of the source writes it.
-/

namespace Buddy3dProxy.Rtsp

/-- The negotiated H.264 parameters. -/
structure H264Params where
  profileLevelId : String
  spropParameterSets : String
  packetizationMode : UInt8
  payloadType : UInt8
  deriving DecidableEq, Repr

/-- The lines of the description. -/
inductive SdpLine where
  | version
  | origin
  | sessionName (name : String)
  | connection
  | timing
  | media (pt : UInt8)
  | rtpmap (pt : UInt8)
  | fmtp (pt mode : UInt8) (pli sprop : String)
  | control
  deriving DecidableEq, Repr

/-- The text of a line, with its line end. An empty `sprop` omits its clause. -/
def SdpLine.render : SdpLine → String
  | .version => "v=0\r\n"
  | .origin => "o=- 0 0 IN IP4 0.0.0.0\r\n"
  | .sessionName name => "s=" ++ name ++ "\r\n"
  | .connection => "c=IN IP4 0.0.0.0\r\n"
  | .timing => "t=0 0\r\n"
  | .media pt => "m=video 0 RTP/AVP " ++ toString pt ++ "\r\n"
  | .rtpmap pt => "a=rtpmap:" ++ toString pt ++ " H264/90000\r\n"
  | .fmtp pt mode pli sprop =>
    "a=fmtp:" ++ toString pt ++ " packetization-mode=" ++ toString mode ++ ";profile-level-id=" ++
      pli ++ (if sprop.isEmpty then "" else ";sprop-parameter-sets=" ++ sprop) ++ "\r\n"
  | .control => "a=control:streamid=0\r\n"

/-- The lines `build_sdp` writes, in order. -/
def sdpLines (sessionName : String) (params : H264Params) : List SdpLine :=
  [.version, .origin, .sessionName sessionName, .connection, .timing, .media params.payloadType,
    .rtpmap params.payloadType,
    .fmtp params.payloadType params.packetizationMode params.profileLevelId
      params.spropParameterSets,
    .control]

def buildSdp (sessionName : String) (params : H264Params) : String :=
  String.join ((sdpLines sessionName params).map SdpLine.render)

/-- The payload types a description announces: the one of its media line and those of the lines that
describe it. -/
def SdpLine.payloadType? : SdpLine → Option UInt8
  | .media pt => some pt
  | .rtpmap pt => some pt
  | .fmtp pt _ _ _ => some pt
  | _ => none

/-- Every line of the description that names a payload type names the one of the parameters. -/
theorem payloadType_of_mem_sdpLines {name : String} {params : H264Params} {line : SdpLine}
    {pt : UInt8} (h : line ∈ sdpLines name params) (hpt : line.payloadType? = some pt) :
    pt = params.payloadType := by
  simp only [sdpLines, List.mem_cons, List.not_mem_nil, or_false] at h
  rcases h with rfl | rfl | rfl | rfl | rfl | rfl | rfl | rfl | rfl <;>
    simp_all [SdpLine.payloadType?]

end Buddy3dProxy.Rtsp
