import Buddy3dProxy.Rtsp.Client
import Buddy3dProxy.Supervisor.Delivery

/-!
# What a player plays

The way of the packets from the supervisor's channel through `forward_rtp` of `rtsp/server.rs` and the
connection to a player, which takes the frames on the channel it was told for RTP packets. At any time
it has played packets that were sent since its PLAY, each once and in order.
-/

namespace Buddy3dProxy.Rtsp

open Tokio Transition
open Supervisor (Sys Subscription SubscribePc system)

/-! ## The forwarding loop and its receiver -/

/-- What a turn takes from the receiver. -/
def ForwardEvent.recv? : ForwardEvent → Option (Recv RtpPacket)
  | packet p => some (.ok p)
  | lagged n => some (.lagged n)
  | _ => none

def taken (turns : List ForwardEvent) : List (Recv RtpPacket) := turns.filterMap ForwardEvent.recv?

/-- The loop ends at such a turn. -/
def ForwardEvent.ends : ForwardEvent → Bool
  | closed => true
  | readError => true
  | read n => n = 0
  | _ => false

/-- The loop forwards what it is given until it ends. -/
theorem forwarded_begins (turns : List ForwardEvent) :
    forwarded turns <+: Tokio.received (taken turns) := by
  induction turns with
  | nil => exact List.nil_prefix
  | cons turn turns ih =>
    cases turn with
    | packet p => exact List.cons_prefix_cons.mpr ⟨rfl, ih⟩
    | lagged n => exact ih
    | closed => exact List.nil_prefix
    | readError => exact List.nil_prefix
    | read n =>
      rw [forwarded]
      split
      · exact List.nil_prefix
      · exact ih

theorem forwarded_eq {turns : List ForwardEvent} (h : ∀ turn ∈ turns, turn.ends = false) :
    forwarded turns = Tokio.received (taken turns) := by
  induction turns with
  | nil => rfl
  | cons turn turns ih =>
    obtain ⟨hturn, hrest⟩ := List.forall_mem_cons.mp h
    cases turn with
    | packet p => exact congrArg (p :: ·) (ih hrest)
    | lagged n => exact ih hrest
    | closed => cases hturn
    | readError => cases hturn
    | read n =>
      rw [forwarded, if_neg (of_decide_eq_false hturn)]
      exact ih hrest

/-! ## The player -/

/-- The RTP packet of a frame on the channel. -/
def ClientMessage.rtp? (channel : UInt8) : ClientMessage → Option Received
  | frame c bytes => if c = channel then parseRtp bytes else none
  | response _ _ => none

/-- The packets a player has got from the messages it has read. -/
def played (seen : List ClientMessage) : List Received :=
  match channelOf seen with
  | some channel => seen.filterMap (ClientMessage.rtp? channel)
  | none => []

section Played

variable {channel : UInt8} {answers : List Response} {ps : List RtpPacket}

theorem filterMap_rtp_responses (channel : UInt8) (answers : List Response) :
    (answers.map Response.message).filterMap (ClientMessage.rtp? channel) = [] := by
  rw [List.filterMap_map, List.filterMap_eq_nil_iff]
  intro r _
  rfl

theorem played_responses (answers : List Response) : played (answers.map Response.message) = [] := by
  unfold played
  split
  · exact filterMap_rtp_responses _ answers
  · rfl

/-- Frames tell no channel. -/
theorem channelOf_append_frames (seen : List ClientMessage) (channel : UInt8) (ps : List RtpPacket) :
    channelOf (seen ++ ps.map (RtpPacket.message channel)) = channelOf seen := by
  have hframes : (ps.map (RtpPacket.message channel)).filterMap ClientMessage.rtpChannel? = [] := by
    rw [List.filterMap_map, List.filterMap_eq_nil_iff]
    intro p _
    rfl
  rw [channelOf, List.filterMap_append, hframes, List.append_nil, channelOf]

theorem filterMap_rtp_packets (channel : UInt8) (h : ∀ p ∈ ps, Plain p ∧ p.header.padding = false) :
    (ps.map (RtpPacket.message channel)).filterMap (ClientMessage.rtp? channel) =
      ps.map RtpPacket.received := by
  induction ps with
  | nil => rfl
  | cons p ps ih =>
    obtain ⟨⟨hplain, hpadding⟩, hrest⟩ := List.forall_mem_cons.mp h
    have hread : ClientMessage.rtp? channel (p.message channel) = some p.received := by
      rw [RtpPacket.message, ClientMessage.rtp?, if_pos rfl]
      exact (parseRtp_forward_iff hplain).mpr hpadding
    rw [List.map_cons, List.filterMap_cons_some hread, ih hrest, List.map_cons]

theorem played_packets (htold : channelOf (answers.map Response.message) = some channel)
    (h : ∀ p ∈ ps, Plain p ∧ p.header.padding = false) :
    played (answers.map Response.message ++ ps.map (RtpPacket.message channel)) =
      ps.map RtpPacket.received := by
  unfold played
  rw [channelOf_append_frames, htold]
  simp only [List.filterMap_append, filterMap_rtp_responses, filterMap_rtp_packets channel h,
    List.nil_append]

/-- What is read first are responses, after which nothing is played yet. -/
theorem played_of_begins (htold : channelOf (answers.map Response.message) = some channel)
    (h : ∀ p ∈ ps, Plain p ∧ p.header.padding = false) {seen : List ClientMessage}
    (hseen : seen <+: answers.map Response.message ++ ps.map (RtpPacket.message channel)) :
    played seen <+: ps.map RtpPacket.received := by
  rcases List.prefix_or_prefix_of_prefix hseen (List.prefix_append _ _) with hbefore | hafter
  · rw [List.prefix_iff_eq_take.mp hbefore, ← List.map_take, played_responses]
    exact List.nil_prefix
  · obtain ⟨frames, rfl⟩ := hafter
    have hframes := (List.prefix_append_right_inj _).mp hseen
    rw [List.prefix_iff_eq_take.mp hframes, ← List.map_take,
      played_packets htold fun p hp => h p (List.mem_of_mem_take hp), List.map_take]
    exact List.take_prefix _ _

end Played

/-- Packets are forwarded once at most. -/
theorem Tells.streamed_eq {seen : List ClientMessage} {log : List ConnEvent} (h : Tells seen log) :
    streamed log = [] ∨ ∃ channel, streamed log = [channel] := by
  induction h with
  | nil seen => exact .inl rfl
  | took req _ ih => exact ih
  | subscribing req _ ih => exact ih
  | answered _ _ ih => exact ih
  | @streaming seen channel _ => exact .inr ⟨channel, rfl⟩
  | closed _ ih => exact ih

/-- What a client of a connection has played is a beginning of the packets that were forwarded, and in
the end it has played them all. -/
theorem played_of_loop {source : StreamSource} {counter : UInt64} {chunks : List (List UInt8)}
    {turns : List ForwardEvent} {bytes : List UInt8} {log : List ConnEvent}
    (hlog : handleConnection source (sessionIdOf counter) chunks = log)
    (hbytes : written turns log = some bytes)
    (h : ∀ p ∈ forwarded turns, Plain p ∧ p.header.padding = false) {cuts : List (List UInt8)}
    (hcuts : cuts.flatten <+: bytes) :
    played (client.loop [] cuts).1 <+: (forwarded turns).map RtpPacket.received ∧
      (cuts.flatten = bytes → streamed log ≠ [] →
        played (client.loop [] cuts).1 = (forwarded turns).map RtpPacket.received) := by
  subst hlog
  have htells := handleConnection_tells source counter chunks
  have hseen := loop_written hbytes hcuts
  rcases htells.streamed_eq with hnone | ⟨channel, hstreamed⟩
  · rw [messages, hnone, List.flatMap_nil, List.append_nil] at hseen
    refine ⟨?_, fun _ hne => absurd hnone hne⟩
    rw [List.prefix_iff_eq_take.mp hseen, ← List.map_take, played_responses]
    exact List.nil_prefix
  · have htold := htells.channel channel (by simp [hstreamed])
    rw [List.nil_append] at htold
    rw [messages, hstreamed, List.flatMap_singleton] at hseen
    refine ⟨played_of_begins htold h hseen, ?_⟩
    intro hall _
    rw [loop_all hbytes hall, messages, hstreamed, List.flatMap_singleton]
    exact played_packets htold h

/-! ## From the supervisor's channel to the player -/

variable {idleTimeout : Nat} {failedRx : Option Bool} {s s' : Sys} {i : Nat} {sub sub' : Subscription}

/-- In every run from the PLAY of a viewer on in which the camera sends packets with no header extension
and no padding, whatever else happens: at any time its player has played packets that were sent on its
channel since then, each as it was sent, once and in order. Once it has read all that was written, those
it has not played are as many as the lag reports count. -/
theorem viewer_plays (hs : Transition.Reachable (system idleTimeout failedRx) s)
    (hi : s.calls[i]? = some (.live sub)) {turns : List ForwardEvent}
    (hp : Observed (system idleTimeout failedRx) (fun t a => t.keepsReceiver i a = true)
      (Sys.given · i) s (taken turns) s')
    (hi' : s'.calls[i]? = some (.live sub'))
    (hplain : ∀ p ∈ ((s'.channelOf sub).sent.take sub'.next).drop sub.next,
      Plain p ∧ p.header.padding = false)
    (source : StreamSource) (counter : UInt64) (chunks : List (List UInt8)) {bytes : List UInt8}
    (hbytes : written turns (handleConnection source (sessionIdOf counter) chunks) = some bytes)
    {cuts : List (List UInt8)} (hcuts : cuts.flatten <+: bytes) :
    let sent := ((s'.channelOf sub).sent.take sub'.next).drop sub.next
    let seen := (client.loop [] cuts).1
    (played seen).Sublist (sent.map RtpPacket.received) ∧
      (cuts.flatten = bytes →
        streamed (handleConnection source (sessionIdOf counter) chunks) ≠ [] →
        (∀ turn ∈ turns, turn.ends = false) →
        (played seen).length + missed (taken turns) = sent.length ∧
          (missed (taken turns) = 0 → played seen = sent.map RtpPacket.received)) := by
  intro sent seen
  obtain ⟨next, rfl, hreceipts⟩ := Supervisor.receipts_of_observed hs hi hp hi'
  have hforwarded : ∀ p ∈ forwarded turns, Plain p ∧ p.header.padding = false := by
    intro p hp
    have hgiven := (forwarded_begins turns).subset hp
    exact hplain p (hreceipts.sublist.subset hgiven)
  obtain ⟨hplayed, hall⟩ := played_of_loop rfl hbytes hforwarded hcuts
  refine ⟨?_, ?_⟩
  · have hgiven := ((forwarded_begins turns).sublist.trans hreceipts.sublist).map RtpPacket.received
    exact hplayed.sublist.trans hgiven
  · intro hwhole hstreamed hgoesOn
    have heq := hall hwhole hstreamed
    rw [forwarded_eq hgoesOn] at heq
    have hcount := hreceipts.count
    have hlen := hreceipts.le_length
    refine ⟨?_, ?_⟩
    · show (played (client.loop [] cuts).1).length + _ = (List.drop _ (List.take next _)).length
      rw [heq, List.length_map, List.length_drop, List.length_take]
      omega
    · intro hmissed
      rw [hreceipts.received_eq hmissed] at heq
      exact heq

/-- A player of two packets between which the session was replaced; the client sends 5 bytes of its own
in between. -/
theorem viewer_plays_reconnected :
    let source : StreamSource := ⟨"Camera", "cam", .ok defaultH264⟩
    let turns := [ForwardEvent.packet (Supervisor.numberedPacket 7), .read 5,
      .packet (Supervisor.numberedPacket 0)]
    ∃ bytes, written turns (handleConnection source (sessionIdOf 0)
        [Sample.setup.text, Sample.play.text]) = some bytes ∧
      played (client.loop [] [bytes.take 99, bytes.drop 99]).1 =
        [(Supervisor.numberedPacket 7).received, (Supervisor.numberedPacket 0).received] := by
  intro source turns
  obtain ⟨s, s', hs, hi, hp, hi', hsent⟩ := Supervisor.exists_given_reconnected
  have hlog := Sample.handleConnection_play source (sessionIdOf 0)
  have hsome : (written turns (handleConnection source (sessionIdOf 0)
      [Sample.setup.text, Sample.play.text])).isSome = true := by
    rw [hlog]
    decide +kernel
  have hstreamed : streamed (handleConnection source (sessionIdOf 0)
      [Sample.setup.text, Sample.play.text]) = [2] := by
    rw [hlog]
    decide +kernel
  obtain ⟨bytes, hbytes⟩ := Option.isSome_iff_exists.mp hsome
  have hcuts : [bytes.take 99, bytes.drop 99].flatten = bytes := by simp
  have hbegins : [bytes.take 99, bytes.drop 99].flatten <+: bytes := by
    rw [hcuts]
  have hrange : ((s'.channelOf (Supervisor.firstViewer 0)).sent.take 2).drop 0 =
      [Supervisor.numberedPacket 7, Supervisor.numberedPacket 0] := by
    rw [hsent]
    rfl
  have hplain : ∀ p ∈ ((s'.channelOf (Supervisor.firstViewer 0)).sent.take 2).drop 0,
      Plain p ∧ p.header.padding = false := by
    rw [hrange]
    intro p hp
    rcases List.mem_pair.mp hp with rfl | rfl
    · exact ⟨⟨rfl, rfl, by decide, by decide, by decide⟩, rfl⟩
    · exact ⟨⟨rfl, rfl, by decide, by decide, by decide⟩, rfl⟩
  have hturns : Observed (system 60 none) (fun t a => t.keepsReceiver 0 a = true) (Sys.given · 0) s
      (taken turns) s' := hp
  obtain ⟨-, hall⟩ := viewer_plays hs hi hturns hi' hplain source 0
    [Sample.setup.text, Sample.play.text] hbytes hbegins
  obtain ⟨-, hplayed⟩ := hall hcuts (by rw [hstreamed]; decide) (by decide)
  refine ⟨bytes, hbytes, ?_⟩
  rw [hplayed rfl]
  exact congrArg (List.map RtpPacket.received) hrange

end Buddy3dProxy.Rtsp
