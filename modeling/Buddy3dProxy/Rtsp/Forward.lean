import Buddy3dProxy.Rtsp.Interleaved
import Buddy3dProxy.Rtsp.Packet

/-!
# Forwarding RTP to an RTSP client

`forward_rtp` of `rtsp/server.rs`, and what a client reads from the bytes it writes.
-/

namespace Buddy3dProxy.Rtsp

/-- What one turn of the forwarding loop takes up. -/
inductive ForwardEvent where
  | packet (p : RtpPacket)
  | lagged (n : Nat)
  | closed
  /-- A read of `n` bytes from the client; 0 at the end of its stream. -/
  | read (n : Nat)
  | readError
  deriving DecidableEq, Repr

/-- The bytes written over a sequence of turns, up to the one that ends the loop; `none` is a
panic. -/
def forwardRtp (channel : UInt8) : List ForwardEvent → Option (List UInt8)
  | [] => some []
  | .packet p :: rest => do
    let frame ← encodeFrame channel (headerToBytes p.header ++ p.payload)
    let more ← forwardRtp channel rest
    return frame ++ more
  | .lagged _ :: rest => forwardRtp channel rest
  | .closed :: _ => some []
  | .read n :: rest => if n = 0 then some [] else forwardRtp channel rest
  | .readError :: _ => some []

/-- The packets taken up before the loop ends. -/
def forwarded : List ForwardEvent → List RtpPacket
  | [] => []
  | .packet p :: rest => p :: forwarded rest
  | .lagged _ :: rest => forwarded rest
  | .closed :: _ => []
  | .read n :: rest => if n = 0 then [] else forwarded rest
  | .readError :: _ => []

/-! ## The receiver -/

/-- What an RTP receiver reads from a packet. -/
structure Received where
  marker : Bool
  payloadType : Nat
  sequenceNumber : Nat
  timestamp : Nat
  ssrc : Nat
  csrc : List Nat
  payload : List UInt8
  deriving DecidableEq, Repr

/-- The first `n` CSRCs and the bytes after them. -/
def readCsrc : Nat → List UInt8 → Option (List Nat × List UInt8)
  | 0, bytes => some ([], bytes)
  | n + 1, a :: b :: c :: d :: rest =>
    (readCsrc n rest).map fun p => (Rust.u32FromBe a b c d :: p.1, p.2)
  | _ + 1, _ => none

/-- The bytes after a header extension: its profile, its length in words and that many words. -/
def skipExtension : List UInt8 → Option (List UInt8)
  | _ :: _ :: a :: b :: rest =>
    if 4 * Rust.u16FromBe a b ≤ rest.length then some (rest.drop (4 * Rust.u16FromBe a b)) else none
  | _ => none

/-- The payload before the padding. The last octet counts the padding octets, itself included. -/
def removePadding (bytes : List UInt8) : Option (List UInt8) :=
  match bytes.getLast? with
  | none => none
  | some n =>
    if 1 ≤ n.toNat ∧ n.toNat ≤ bytes.length then some (bytes.take (bytes.length - n.toNat)) else none

/-- Read a packet as RFC 3550 lays it out. -/
def parseRtp : List UInt8 → Option Received
  | b0 :: b1 :: s0 :: s1 :: t0 :: t1 :: t2 :: t3 :: x0 :: x1 :: x2 :: x3 :: rest =>
    if b0 >>> 6 = 2 then do
      let (csrc, rest) ← readCsrc (b0 &&& 0x0F).toNat rest
      let rest ← (if b0 &&& 0x10 ≠ 0 then skipExtension rest else some rest : Option (List UInt8))
      let payload ← (if b0 &&& 0x20 ≠ 0 then removePadding rest else some rest : Option (List UInt8))
      return {
        marker := b1 &&& 0x80 ≠ 0
        payloadType := (b1 &&& 0x7F).toNat
        sequenceNumber := Rust.u16FromBe s0 s1
        timestamp := Rust.u32FromBe t0 t1 t2 t3
        ssrc := Rust.u32FromBe x0 x1 x2 x3
        csrc := csrc
        payload := payload }
    else none
  | _ => none

/-- A packet as its receiver should read it. -/
def RtpPacket.received (p : RtpPacket) : Received where
  marker := p.header.marker
  payloadType := p.header.payloadType.toNat
  sequenceNumber := p.header.sequenceNumber.toNat
  timestamp := p.header.timestamp.toNat
  ssrc := p.header.ssrc.toNat
  csrc := p.header.csrc.map UInt32.toNat
  payload := p.payload

/-- What a client reads from the bytes written over a sequence of turns: the frames on the channel,
each a packet. -/
def clientReads (channel : UInt8) (events : List ForwardEvent) : Option (List Received) := do
  let bytes ← forwardRtp channel events
  let frames ← splitFrames bytes
  frames.mapM fun frame => if frame.1 = channel then parseRtp frame.2 else none

/-- A packet as the RTP library delivers it, without header extension. -/
structure Plain (p : RtpPacket) : Prop where
  version : p.header.version = 2
  extension : p.header.extension = false
  payloadType : p.header.payloadType < 128
  csrc : p.header.csrc.length ≤ 15
  size : (headerToBytes p.header ++ p.payload).length ≤ 65535

/-! ## What the receiver reads of one packet -/

/-- The numbers `be16` and `be32` write are read back. -/
theorem u16FromBe_be16 (x : UInt16) :
    Rust.u16FromBe (x >>> 8).toUInt8 x.toUInt8 = x.toNat := by
  have hx := x.toNat_lt
  simp only [Rust.u16FromBe, UInt16.toNat_toUInt8, UInt16.toNat_shiftRight,
    Nat.shiftRight_eq_div_pow]
  simp
  omega

theorem u32FromBe_be32 (x : UInt32) :
    Rust.u32FromBe (x >>> 24).toUInt8 (x >>> 16).toUInt8 (x >>> 8).toUInt8 x.toUInt8 = x.toNat := by
  have hx := x.toNat_lt
  simp only [Rust.u32FromBe, Rust.u16FromBe, UInt32.toNat_toUInt8, UInt32.toNat_shiftRight,
    Nat.shiftRight_eq_div_pow]
  simp
  omega

theorem readCsrc_be32 (csrc : List UInt32) (rest : List UInt8) :
    readCsrc csrc.length (csrc.flatMap be32 ++ rest) = some (csrc.map UInt32.toNat, rest) := by
  induction csrc with
  | nil => simp [readCsrc]
  | cons x xs ih => simp [readCsrc, be32, ih, u32FromBe_be32]

theorem firstByte_fields {h : Header} (hv : h.version = 2) (hx : h.extension = false)
    (hc : h.csrc.length ≤ 15) :
    firstByte h >>> 6 = 2 ∧ (firstByte h &&& 0x0F).toNat = h.csrc.length ∧
      firstByte h &&& 0x10 = 0 ∧ (firstByte h &&& 0x20 ≠ 0 ↔ h.padding = true) := by
  have key : ∀ n : Fin 16, ∀ padding : Bool,
      let b := (((2 : UInt8) &&& 0x3) <<< 6) ||| (if padding then (0x20 : UInt8) else 0) ||| 0 |||
        (UInt8.ofNat n &&& 0x0F)
      b >>> 6 = 2 ∧ (b &&& 0x0F).toNat = n ∧ b &&& 0x10 = 0 ∧ (b &&& 0x20 ≠ 0 ↔ padding = true) := by
    decide
  simpa [firstByte, hv, hx] using key ⟨h.csrc.length, by omega⟩ h.padding

theorem secondByte_fields {h : Header} (hp : h.payloadType < 128) :
    (secondByte h &&& 0x7F).toNat = h.payloadType.toNat ∧
      (secondByte h &&& 0x80 ≠ 0 ↔ h.marker = true) := by
  have key : ∀ x : UInt8, ∀ marker : Bool,
      (((x &&& 0x7F) ||| (if marker then 0x80 else 0)) &&& 0x80 ≠ 0 ↔ marker = true) := by
    intro x marker
    exact Rust.forall_uint8 (p := fun x =>
      ∀ marker : Bool, (((x &&& 0x7F) ||| (if marker then 0x80 else 0)) &&& 0x80 ≠ 0 ↔ marker = true))
      (by decide) x marker
  refine ⟨?_, key h.payloadType h.marker⟩
  rw [secondByte_and, and_0x7F_of_lt hp]

/-- The receiver reads every field as it was; of the payload it takes off what the padding flag
announces. -/
theorem parseRtp_forward {p : RtpPacket} (h : Plain p) :
    parseRtp (headerToBytes p.header ++ p.payload) =
      (if p.header.padding then removePadding p.payload else some p.payload).map
        fun payload => { p.received with payload := payload } := by
  obtain ⟨hversion, hcount, hext, hpadding⟩ := firstByte_fields h.version h.extension h.csrc
  obtain ⟨htype, hmarker⟩ := secondByte_fields h.payloadType
  simp only [headerToBytes, h.extension, Bool.false_eq_true, if_false, be16, be32, List.cons_append,
    List.nil_append, List.append_assoc, parseRtp]
  simp only [hversion, hcount, hext, readCsrc_be32, hpadding, htype, hmarker, u16FromBe_be16,
    u32FromBe_be32, RtpPacket.received]
  by_cases hpad : p.header.padding = true
  · cases hrest : removePadding p.payload <;> simp [hpad, hrest]
  · simp [hpad]

theorem removePadding_ne (bytes : List UInt8) : removePadding bytes ≠ some bytes := by
  intro h
  unfold removePadding at h
  cases hlast : bytes.getLast? with
  | none => simp [hlast] at h
  | some n =>
    simp only [hlast] at h
    by_cases hn : 1 ≤ n.toNat ∧ n.toNat ≤ bytes.length
    · rw [if_pos hn, Option.some.injEq] at h
      have hlen := congrArg List.length h
      rw [List.length_take] at hlen
      omega
    · simp [hn] at h

/-- A packet is read back exactly when its padding flag is off: with the flag on, the receiver takes
the end of the payload for padding. -/
theorem parseRtp_forward_iff {p : RtpPacket} (h : Plain p) :
    parseRtp (headerToBytes p.header ++ p.payload) = some p.received ↔ p.header.padding = false := by
  rw [parseRtp_forward h]
  cases hpad : p.header.padding with
  | false => simp [RtpPacket.received]
  | true =>
    have hne := removePadding_ne p.payload
    simpa [RtpPacket.received] using hne

/-! ## Whole streams -/

theorem clientReads_packet (channel : UInt8) {p : RtpPacket} (h : Plain p)
    (rest : List ForwardEvent) :
    clientReads channel (.packet p :: rest) =
      (parseRtp (headerToBytes p.header ++ p.payload)).bind fun r =>
        (clientReads channel rest).map (r :: ·) := by
  obtain ⟨frame, hframe, hsplit⟩ := encodeFrame_of_le channel h.size
  unfold clientReads
  simp only [forwardRtp, hframe]
  cases hmore : forwardRtp channel rest with
  | none => cases parseRtp (headerToBytes p.header ++ p.payload) <;> simp
  | some more =>
    cases hframes : splitFrames more with
    | none => cases parseRtp (headerToBytes p.header ++ p.payload) <;> simp [hsplit, hframes]
    | some frames =>
      cases hparse : parseRtp (headerToBytes p.header ++ p.payload) <;>
        simp [hsplit, hframes, hparse, Option.map_eq_bind]

/-- The client reads back every packet that is forwarded to it, with all its fields and its payload,
exactly when none of them carries the padding flag. -/
theorem clientReads_iff (channel : UInt8) (events : List ForwardEvent)
    (h : ∀ p ∈ forwarded events, Plain p) :
    clientReads channel events = some ((forwarded events).map RtpPacket.received) ↔
      ∀ p ∈ forwarded events, p.header.padding = false := by
  induction events with
  | nil => simp [clientReads, forwardRtp, forwarded, splitFrames]
  | cons event rest ih =>
    cases event with
    | packet p =>
      have hp : Plain p := h p (by simp [forwarded])
      have hrest := ih fun q hq => h q (by simp [forwarded, hq])
      rw [clientReads_packet channel hp]
      simp only [forwarded, List.map_cons, List.forall_mem_cons, ← parseRtp_forward_iff hp, ← hrest]
      cases parseRtp (headerToBytes p.header ++ p.payload) <;> cases clientReads channel rest <;>
        simp
    | lagged n => exact ih h
    | closed => simp [clientReads, forwardRtp, forwarded, splitFrames]
    | read n =>
      by_cases hn : n = 0
      · simp [clientReads, forwardRtp, forwarded, splitFrames, hn]
      · simp only [forwarded, hn, if_false] at h ⊢
        simpa [clientReads, forwardRtp, hn] using ih h
    | readError => simp [clientReads, forwardRtp, forwarded, splitFrames]

/-- Two packets without the flag, one of them with a CSRC, and a turn that dropped packets between
them. -/
theorem clientReads_iff_two :
    let first : RtpPacket := ⟨⟨2, false, false, false, 96, 65535, 90000, 7, [5], 0, []⟩, [0xAA, 0]⟩
    let second : RtpPacket := ⟨⟨2, false, false, true, 96, 0, 93000, 7, [], 0, []⟩, []⟩
    clientReads 3 [.packet first, .lagged 2, .packet second, .closed] =
      some [first.received, second.received] := by
  intro first second
  refine (clientReads_iff 3 [.packet first, .lagged 2, .packet second, .closed] ?_).mpr ?_
  · intro p hp
    simp only [forwarded, List.mem_cons, List.not_mem_nil, or_false] at hp
    rcases hp with rfl | rfl
    · exact ⟨rfl, rfl, by decide, by decide, by decide⟩
    · exact ⟨rfl, rfl, by decide, by decide, by decide⟩
  · intro p hp
    simp only [forwarded, List.mem_cons, List.not_mem_nil, or_false] at hp
    rcases hp with rfl | rfl <;> rfl

/-- A packet whose flag is on and whose padding is gone: the client takes the last payload octet for
the padding. -/
theorem clientReads_padded :
    let p : RtpPacket := ⟨⟨2, true, false, true, 96, 1, 90000, 7, [], 0, []⟩, [0xAA, 1]⟩
    Plain p ∧ clientReads 0 [.packet p] = some [{ p.received with payload := [0xAA] }] ∧
      clientReads 0 [.packet p] ≠ some [p.received] := by
  intro p
  have hp : Plain p := ⟨rfl, rfl, by decide, by decide, by decide⟩
  have hread : clientReads 0 [.packet p] = some [{ p.received with payload := [0xAA] }] := by
    rw [clientReads_packet 0 hp, parseRtp_forward hp]
    simp [clientReads, forwardRtp, splitFrames, p, removePadding]
  refine ⟨hp, hread, ?_⟩
  rw [hread]
  decide

end Buddy3dProxy.Rtsp
