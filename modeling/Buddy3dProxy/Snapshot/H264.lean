import Buddy3dProxy.Rust.Bytes

/-!
# NAL unit reassembly

The `Reassembler` of `snapshot/h264.rs`: RTP payloads in, H.264 NAL units out.
-/

namespace Buddy3dProxy.Snapshot

/-- A reassembled NAL unit, without start code. -/
structure Nal where
  data : List UInt8
  deriving DecidableEq, Repr

structure Reassembler where
  /-- In-progress FU-A payload (after the first fragment, before the last). -/
  fuABuf : Option (List UInt8)
  fuANalHeader : UInt8
  /-- Last sequence number observed. -/
  lastSeq : Option UInt16
  deriving DecidableEq, Repr

/-- The elements of a STAP-A payload, from the bytes after its header: a length and that many bytes
each, up to the first one that does not fit. -/
def stapAUnits : List UInt8 → List Nal
  | a :: b :: rest =>
    if rest.length < Rust.u16FromBe a b then []
    else ⟨rest.take (Rust.u16FromBe a b)⟩ :: stapAUnits (rest.drop (Rust.u16FromBe a b))
  | _ => []
termination_by bytes => bytes.length
decreasing_by simp only [List.length_drop, List.length_cons]; omega

namespace Reassembler

def new : Reassembler := ⟨none, 0, none⟩

/-- A gap before `seq` discards the fragments gathered so far. -/
def detectGap (r : Reassembler) (seq : UInt16) : Reassembler :=
  match r.lastSeq with
  | some prev => if seq ≠ prev + 1 ∧ r.fuABuf.isSome then { r with fuABuf := none } else r
  | none => r

/-- One fragment of a FU-A run, after the FU indicator `nalHeader`. -/
def pushFuA (r : Reassembler) (nalHeader fuHeader : UInt8) (fragment : List UInt8) :
    Reassembler × List Nal :=
  if fuHeader &&& 0x80 ≠ 0 then
    let header := (nalHeader &&& 0xE0) ||| (fuHeader &&& 0x1F)
    ({ r with fuANalHeader := header, fuABuf := some (header :: fragment) }, [])
  else
    match r.fuABuf with
    | some buf =>
      if fuHeader &&& 0x40 ≠ 0 then ({ r with fuABuf := none }, [⟨buf ++ fragment⟩])
      else ({ r with fuABuf := some (buf ++ fragment) }, [])
    | none => (r, [])

/-- Feed one RTP payload: the reassembler after it and the NAL units it completes. -/
def push (r : Reassembler) (payload : List UInt8) (seq : UInt16) : Reassembler × List Nal :=
  match payload with
  | [] => (r, [])
  | nalHeader :: rest =>
    let r := { r.detectGap seq with lastSeq := some seq }
    let unitType := nalHeader &&& 0x1F
    if 1 ≤ unitType ∧ unitType ≤ 23 then (r, [⟨payload⟩])
    else if unitType = 24 then (r, stapAUnits rest)
    else if unitType = 28 then
      match rest with
      | [] => (r, [])
      | fuHeader :: fragment => r.pushFuA nalHeader fuHeader fragment
    else (r, [])

/-- Feed payloads in order, each with its sequence number. -/
def pushAll (r : Reassembler) : List (List UInt8 × UInt16) → Reassembler × List Nal
  | [] => (r, [])
  | (payload, seq) :: rest =>
    let (r, nals) := r.push payload seq
    let (r, more) := r.pushAll rest
    (r, nals ++ more)

end Reassembler

/-! ## The effect of a payload on the gathered fragments -/

/-- The fragments that survive the gap detection before `seq`. -/
def Reassembler.kept (r : Reassembler) (seq : UInt16) : Option (List UInt8) :=
  (r.detectGap seq).fuABuf

/-- What a payload makes of the gathered fragments, and the NAL units it completes. -/
def accept (buf : Option (List UInt8)) (payload : List UInt8) : Option (List UInt8) × List Nal :=
  let (r, nals) := (⟨buf, 0, none⟩ : Reassembler).push payload 0
  (r.fuABuf, nals)

theorem Reassembler.kept_of_next {r : Reassembler} {prev : UInt16} (h : r.lastSeq = some prev) :
    r.kept (prev + 1) = r.fuABuf := by
  simp [kept, detectGap, h]

/-- Fragments survive only if no packet was seen before or the sequence number is the next one. -/
theorem Reassembler.kept_eq (r : Reassembler) (seq : UInt16) :
    r.kept seq = none ∨
      r.kept seq = r.fuABuf ∧ ∀ prev, r.lastSeq = some prev → seq = prev + 1 := by
  unfold kept detectGap
  cases hl : r.lastSeq with
  | none => exact .inr ⟨rfl, by simp⟩
  | some prev =>
    by_cases hgap : seq = prev + 1
    · right
      simp [hgap]
    · left
      cases hb : r.fuABuf <;> simp [hgap, hb]

theorem Reassembler.push_eq (r : Reassembler) {payload : List UInt8} (seq : UInt16)
    (hne : payload ≠ []) :
    (r.push payload seq).1.fuABuf = (accept (r.kept seq) payload).1 ∧
      (r.push payload seq).1.lastSeq = some seq ∧
      (r.push payload seq).2 = (accept (r.kept seq) payload).2 := by
  cases payload with
  | nil => exact absurd rfl hne
  | cons nalHeader rest =>
    simp only [push, accept, kept]
    by_cases hs : 1 ≤ nalHeader &&& 0x1F ∧ nalHeader &&& 0x1F ≤ 23
    · simp [hs, detectGap]
    by_cases h24 : nalHeader &&& 0x1F = 24
    · simp [h24, detectGap]
    by_cases h28 : nalHeader &&& 0x1F = 28
    · cases rest with
      | nil => simp [h28, detectGap]
      | cons fuHeader fragment =>
        simp only [h28, pushFuA]
        by_cases hstart : fuHeader &&& 0x80 ≠ 0
        · simp [hstart]
        · cases (r.detectGap seq).fuABuf with
          | none => simp [hstart, detectGap]
          | some buf => by_cases hend : fuHeader &&& 0x40 ≠ 0 <;> simp [hstart, hend, detectGap]
    · simp [hs, h24, h28, detectGap]

section Accept

variable {nalHeader fuHeader : UInt8} {rest fragment buf : List UInt8}
  (gathered : Option (List UInt8))

theorem accept_single (h : 1 ≤ nalHeader &&& 0x1F ∧ nalHeader &&& 0x1F ≤ 23) :
    accept gathered (nalHeader :: rest) = (gathered, [⟨nalHeader :: rest⟩]) := by
  simp [accept, Reassembler.push, Reassembler.detectGap, h]

theorem accept_stapA (h : nalHeader &&& 0x1F = 24) :
    accept gathered (nalHeader :: rest) = (gathered, stapAUnits rest) := by
  simp [accept, Reassembler.push, Reassembler.detectGap, h]

theorem accept_start (h : nalHeader &&& 0x1F = 28) (hs : fuHeader &&& 0x80 ≠ 0) :
    accept gathered (nalHeader :: fuHeader :: fragment) =
      (some (((nalHeader &&& 0xE0) ||| (fuHeader &&& 0x1F)) :: fragment), []) := by
  simp [accept, Reassembler.push, Reassembler.pushFuA, h, hs]

theorem accept_middle (h : nalHeader &&& 0x1F = 28) (hs : fuHeader &&& 0x80 = 0)
    (he : fuHeader &&& 0x40 = 0) :
    accept (some buf) (nalHeader :: fuHeader :: fragment) = (some (buf ++ fragment), []) := by
  simp [accept, Reassembler.push, Reassembler.detectGap, Reassembler.pushFuA, h, hs, he]

theorem accept_end (h : nalHeader &&& 0x1F = 28) (hs : fuHeader &&& 0x80 = 0)
    (he : fuHeader &&& 0x40 ≠ 0) :
    accept (some buf) (nalHeader :: fuHeader :: fragment) = (none, [⟨buf ++ fragment⟩]) := by
  simp [accept, Reassembler.push, Reassembler.detectGap, Reassembler.pushFuA, h, hs, he]

/-- With nothing gathered, a payload does at most what it does with fragments gathered. -/
theorem accept_none (payload : List UInt8) :
    ((accept none payload).1 = none ∨ (accept none payload).1 = (accept gathered payload).1) ∧
      (accept none payload).2 ⊆ (accept gathered payload).2 := by
  cases payload with
  | nil => simp [accept, Reassembler.push]
  | cons nalHeader rest =>
    by_cases hs : 1 ≤ nalHeader &&& 0x1F ∧ nalHeader &&& 0x1F ≤ 23
    · simp [accept_single _ hs]
    by_cases h24 : nalHeader &&& 0x1F = 24
    · simp [accept_stapA _ h24]
    by_cases h28 : nalHeader &&& 0x1F = 28
    · cases rest with
      | nil => simp [accept, Reassembler.push, Reassembler.detectGap, h28]
      | cons fuHeader fragment =>
        by_cases hstart : fuHeader &&& 0x80 = 0
        · simp [accept, Reassembler.push, Reassembler.detectGap, Reassembler.pushFuA, h28, hstart]
        · simp [accept_start _ h28 hstart]
    · simp [accept, Reassembler.push, Reassembler.detectGap, hs, h24, h28]

end Accept

end Buddy3dProxy.Snapshot
