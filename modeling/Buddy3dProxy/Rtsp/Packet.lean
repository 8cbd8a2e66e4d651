import Mathlib.Algebra.Order.Ring.Nat

/-!
# RTP packets as the server forwards them

`header_to_bytes` of `rtsp/server.rs`, on the header fields of the RTP library.
-/

namespace Buddy3dProxy.Rtsp

/-- One element of an RTP header extension. -/
structure Extension where
  id : UInt8
  payload : List UInt8
  deriving DecidableEq, Repr

/-- An RTP header. -/
structure Header where
  version : UInt8
  padding : Bool
  extension : Bool
  marker : Bool
  payloadType : UInt8
  sequenceNumber : UInt16
  timestamp : UInt32
  ssrc : UInt32
  csrc : List UInt32
  extensionProfile : UInt16
  extensions : List Extension
  deriving DecidableEq, Repr

/-- An RTP packet. -/
structure RtpPacket where
  header : Header
  payload : List UInt8
  deriving DecidableEq, Repr

/-- `u16::to_be_bytes`. -/
def be16 (x : UInt16) : List UInt8 := [(x >>> 8).toUInt8, x.toUInt8]

/-- `u32::to_be_bytes`. -/
def be32 (x : UInt32) : List UInt8 :=
  [(x >>> 24).toUInt8, (x >>> 16).toUInt8, (x >>> 8).toUInt8, x.toUInt8]

/-- The first byte: version, padding and extension flags, number of CSRCs. -/
def firstByte (h : Header) : UInt8 :=
  ((h.version &&& 0x3) <<< 6) ||| (if h.padding then 0x20 else 0) |||
    (if h.extension then 0x10 else 0) ||| (UInt8.ofNat h.csrc.length &&& 0x0F)

/-- The second byte: marker and payload type. -/
def secondByte (h : Header) : UInt8 :=
  (h.payloadType &&& 0x7F) ||| (if h.marker then 0x80 else 0)

/-- Pad with zero bytes to a multiple of four. -/
def padTo4 (buf : List UInt8) : List UInt8 := buf ++ List.replicate ((4 - buf.length % 4) % 4) 0

/-- Append one extension element, padding the buffer written so far. -/
def pushExtension (buf : List UInt8) (e : Extension) : List UInt8 :=
  padTo4 (buf ++ [e.id, UInt8.ofNat e.payload.length] ++ e.payload)

/-- Serialize a header to its wire format. -/
def headerToBytes (h : Header) : List UInt8 :=
  let buf := [firstByte h, secondByte h] ++ be16 h.sequenceNumber ++ be32 h.timestamp ++
    be32 h.ssrc ++ h.csrc.flatMap be32
  if h.extension then
    let words := UInt16.ofNat (h.extensions.map fun e => (e.payload.length + 1 + 3) / 4).sum
    h.extensions.foldl pushExtension (buf ++ be16 h.extensionProfile ++ be16 words)
  else buf

/-- The payload type an RTP receiver reads from the bytes of a packet. -/
def wirePayloadType (bytes : List UInt8) : Option UInt8 := bytes[1]?.map (· &&& 0x7F)

theorem getElem?_pushExtension (buf : List UInt8) (e : Extension) {i : Nat} (h : i < buf.length) :
    (pushExtension buf e)[i]? = buf[i]? := by
  unfold pushExtension padTo4
  rw [List.append_assoc, List.append_assoc, List.getElem?_append_left h]

theorem getElem?_foldl_pushExtension (es : List Extension) (buf : List UInt8) {i : Nat}
    (h : i < buf.length) : (es.foldl pushExtension buf)[i]? = buf[i]? := by
  induction es generalizing buf with
  | nil => rfl
  | cons e es ih =>
    have hlen : buf.length ≤ (pushExtension buf e).length := by
      simp [pushExtension, padTo4]
    rw [List.foldl_cons, ih _ (by omega), getElem?_pushExtension buf e h]

theorem getElem?_one_headerToBytes (h : Header) : (headerToBytes h)[1]? = some (secondByte h) := by
  unfold headerToBytes
  split
  · rw [getElem?_foldl_pushExtension _ _ (by simp)]
    simp
  · simp

theorem secondByte_and (h : Header) : secondByte h &&& 0x7F = h.payloadType &&& 0x7F := by
  have key : ∀ b : BitVec 8, (b &&& 0x7F#8 ||| 0x80#8) &&& 0x7F#8 = b &&& 0x7F#8 := by decide
  have key' : ∀ b : BitVec 8, (b &&& 0x7F#8 ||| 0#8) &&& 0x7F#8 = b &&& 0x7F#8 := by decide
  apply UInt8.toBitVec_inj.mp
  unfold secondByte
  cases h.marker
  · exact key' h.payloadType.toBitVec
  · exact key h.payloadType.toBitVec

/-- The receiver of a forwarded packet reads the low seven bits of its payload type, whatever the
other fields are. -/
theorem wirePayloadType_forward (p : RtpPacket) :
    wirePayloadType (headerToBytes p.header ++ p.payload) = some (p.header.payloadType &&& 0x7F) := by
  have hone := getElem?_one_headerToBytes p.header
  have hlen : 1 < (headerToBytes p.header).length := (List.getElem?_eq_some_iff.mp hone).1
  unfold wirePayloadType
  rw [List.getElem?_append_left hlen, hone, Option.map_some, secondByte_and]

/-- A payload type that fits its seven bits is the one read. -/
theorem and_0x7F_of_lt {b : UInt8} (h : b < 128) : b &&& 0x7F = b := by
  have key : ∀ c : BitVec 8, c < 128#8 → c &&& 0x7F#8 = c := by decide
  apply UInt8.toBitVec_inj.mp
  exact key b.toBitVec h

end Buddy3dProxy.Rtsp
