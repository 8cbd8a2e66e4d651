import Buddy3dProxy.Rust.Bytes

/-!
# Interleaved framing

`encode_frame` of `rtsp/interleaved.rs`, and the frames an RTSP client reads from the bytes
(RFC 2326 §10.12).
-/

namespace Buddy3dProxy.Rtsp

/-- A frame: `$`, the channel, the length and the payload. Encoding a payload of more than 65535
bytes panics. -/
def encodeFrame (channel : UInt8) (payload : List UInt8) : Option (List UInt8) :=
  if payload.length ≤ 65535 then
    some (0x24 :: channel :: UInt8.ofNat (payload.length / 256) :: UInt8.ofNat payload.length ::
      payload)
  else none

/-- The frames of a byte stream: their channels and payloads. A stream that is not made of whole
frames has none. -/
def splitFrames : List UInt8 → Option (List (UInt8 × List UInt8))
  | [] => some []
  | dollar :: channel :: a :: b :: rest =>
    if dollar = 0x24 ∧ Rust.u16FromBe a b ≤ rest.length then
      (splitFrames (rest.drop (Rust.u16FromBe a b))).map
        ((channel, rest.take (Rust.u16FromBe a b)) :: ·)
    else none
  | _ => none
termination_by bytes => bytes.length
decreasing_by simp only [List.length_drop, List.length_cons]; omega

theorem encodeFrame_of_le (channel : UInt8) {payload : List UInt8} (h : payload.length ≤ 65535) :
    ∃ frame, encodeFrame channel payload = some frame ∧
      ∀ rest, splitFrames (frame ++ rest) = (splitFrames rest).map ((channel, payload) :: ·) := by
  refine ⟨_, if_pos h, ?_⟩
  intro rest
  have hlen := Rust.u16FromBe_ofNat (n := payload.length) (by omega)
  simp only [List.cons_append, splitFrames, hlen, List.length_append]
  simp

end Buddy3dProxy.Rtsp
