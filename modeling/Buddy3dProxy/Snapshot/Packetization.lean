import Buddy3dProxy.Snapshot.H264

/-!
# Packetization of NAL units

How a sender packs NAL units into RTP payloads (single NAL units, STAP-A, FU-A), and what the
reassembler makes of them: the original units when the packets arrive in order, and never anything
but an original unit, whatever is lost, repeated or reordered.
-/

namespace Buddy3dProxy.Snapshot

/-- A NAL unit of a type from 1 to 23: its header byte and the bytes after it. -/
structure NalUnit where
  header : UInt8
  payload : List UInt8
  unitType : 1 ≤ header &&& 0x1F ∧ header &&& 0x1F ≤ 23

def NalUnit.nal (u : NalUnit) : Nal := ⟨u.header :: u.payload⟩

/-- The packets that carry one unit, or several in one packet. -/
inductive PacketGroup where
  | single (unit : NalUnit)
  /-- An aggregation packet; the size of an element is a 16-bit number. -/
  | stapA (indicator : UInt8) (units : List NalUnit) (isStapA : indicator &&& 0x1F = 24)
      (fits : ∀ u ∈ units, u.nal.data.length ≤ 65535)
  /-- A run of at least two fragments. -/
  | fuA (unit : NalUnit) (first : List UInt8) (middle : List (List UInt8)) (last : List UInt8)
      (parts : first ++ middle.flatten ++ last = unit.payload)

/-- The size of an aggregated unit and its bytes. -/
def stapAElement (u : NalUnit) : List UInt8 :=
  UInt8.ofNat (u.nal.data.length / 256) :: UInt8.ofNat u.nal.data.length :: u.nal.data

/-- A fragment: F and NRI of the unit in the FU indicator, the bits and its type in the FU header. -/
def fuAPayload (u : NalUnit) (bits : UInt8) (fragment : List UInt8) : List UInt8 :=
  ((u.header &&& 0xE0) ||| 28) :: (bits ||| (u.header &&& 0x1F)) :: fragment

namespace PacketGroup

def units : PacketGroup → List NalUnit
  | single unit => [unit]
  | stapA _ units _ _ => units
  | fuA unit _ _ _ _ => [unit]

def payloads : PacketGroup → List (List UInt8)
  | single unit => [unit.nal.data]
  | stapA indicator units _ _ => [indicator :: units.flatMap stapAElement]
  | fuA unit first middle last _ =>
    fuAPayload unit 0x80 first :: middle.map (fuAPayload unit 0) ++ [fuAPayload unit 0x40 last]

end PacketGroup

/-- Consecutive sequence numbers from `seq` on. -/
def number (seq : UInt16) : List (List UInt8) → List (List UInt8 × UInt16)
  | [] => []
  | payload :: rest => (payload, seq) :: number (seq + 1) rest

/-- The NAL units of a stream. -/
def nals (groups : List PacketGroup) : List Nal :=
  (groups.flatMap PacketGroup.units).map NalUnit.nal

/-- The packets of a stream whose first one has the number `seq`. -/
def packets (groups : List PacketGroup) (seq : UInt16) : List (List UInt8 × UInt16) :=
  number seq (groups.flatMap PacketGroup.payloads)

/-! ## In order -/

/-- What payloads that arrive without a gap make of the fragments gathered before. -/
def acceptAll (gathered : Option (List UInt8)) :
    List (List UInt8) → Option (List UInt8) × List Nal
  | [] => (gathered, [])
  | payload :: rest =>
    let next := acceptAll (accept gathered payload).1 rest
    (next.1, (accept gathered payload).2 ++ next.2)

theorem acceptAll_append (gathered : Option (List UInt8)) (xs ys : List (List UInt8)) :
    acceptAll gathered (xs ++ ys) =
      ((acceptAll (acceptAll gathered xs).1 ys).1,
        (acceptAll gathered xs).2 ++ (acceptAll (acceptAll gathered xs).1 ys).2) := by
  induction xs generalizing gathered with
  | nil => simp [acceptAll]
  | cons payload rest ih => simp [acceptAll, ih]

theorem stapAUnits_element (u : NalUnit) (h : u.nal.data.length ≤ 65535) (rest : List UInt8) :
    stapAUnits (stapAElement u ++ rest) = u.nal :: stapAUnits rest := by
  have hlen : Rust.u16FromBe (UInt8.ofNat (u.nal.data.length / 256))
      (UInt8.ofNat u.nal.data.length) = u.nal.data.length := Rust.u16FromBe_ofNat (by omega)
  simp only [stapAElement, List.cons_append, stapAUnits, hlen, List.length_append]
  simp

theorem stapAUnits_elements (units : List NalUnit) (h : ∀ u ∈ units, u.nal.data.length ≤ 65535) :
    stapAUnits (units.flatMap stapAElement) = units.map NalUnit.nal := by
  induction units with
  | nil => simp [stapAUnits]
  | cons u rest ih =>
    have hrest : ∀ v ∈ rest, v.nal.data.length ≤ 65535 := by
      intro v hv
      exact h v (List.mem_cons_of_mem _ hv)
    rw [List.flatMap_cons, stapAUnits_element u (h u List.mem_cons_self), ih hrest, List.map_cons]

theorem fuAPayload_indicator (x : UInt8) : ((x &&& 0xE0) ||| 28) &&& 0x1F = 28 :=
  Rust.forall_uint8 (p := fun x => ((x &&& 0xE0) ||| 28) &&& 0x1F = 28) (by decide) x

/-- The reassembler restores the header of the unit from the first fragment. -/
theorem fuAPayload_header (x : UInt8) :
    ((((x &&& 0xE0) ||| 28) &&& 0xE0) ||| ((0x80 ||| (x &&& 0x1F)) &&& 0x1F)) = x :=
  Rust.forall_uint8
    (p := fun x => ((((x &&& 0xE0) ||| 28) &&& 0xE0) ||| ((0x80 ||| (x &&& 0x1F)) &&& 0x1F)) = x)
    (by decide) x

theorem accept_first (gathered : Option (List UInt8)) (u : NalUnit) (fragment : List UInt8) :
    accept gathered (fuAPayload u 0x80 fragment) = (some (u.header :: fragment), []) := by
  have hstart : (0x80 ||| (u.header &&& 0x1F)) &&& 0x80 ≠ 0 :=
    Rust.forall_uint8 (p := fun x => (0x80 ||| (x &&& 0x1F)) &&& 0x80 ≠ 0) (by decide) u.header
  rw [fuAPayload, accept_start _ (fuAPayload_indicator _) hstart, fuAPayload_header]

theorem accept_inner (u : NalUnit) (buf fragment : List UInt8) :
    accept (some buf) (fuAPayload u 0 fragment) = (some (buf ++ fragment), []) := by
  have hbits : (0 ||| (u.header &&& 0x1F)) &&& 0x80 = 0 ∧ (0 ||| (u.header &&& 0x1F)) &&& 0x40 = 0 :=
    Rust.forall_uint8
      (p := fun x => (0 ||| (x &&& 0x1F)) &&& 0x80 = 0 ∧ (0 ||| (x &&& 0x1F)) &&& 0x40 = 0)
      (by decide) u.header
  rw [fuAPayload, accept_middle (fuAPayload_indicator _) hbits.1 hbits.2]

theorem accept_last (u : NalUnit) (buf fragment : List UInt8) :
    accept (some buf) (fuAPayload u 0x40 fragment) = (none, [⟨buf ++ fragment⟩]) := by
  have hbits :
      (0x40 ||| (u.header &&& 0x1F)) &&& 0x80 = 0 ∧ (0x40 ||| (u.header &&& 0x1F)) &&& 0x40 ≠ 0 :=
    Rust.forall_uint8
      (p := fun x => (0x40 ||| (x &&& 0x1F)) &&& 0x80 = 0 ∧ (0x40 ||| (x &&& 0x1F)) &&& 0x40 ≠ 0)
      (by decide) u.header
  rw [fuAPayload, accept_end (fuAPayload_indicator _) hbits.1 hbits.2]

/-- The fragments between the first and the last one are gathered in order. -/
theorem acceptAll_inner (u : NalUnit) (buf : List UInt8) (middle : List (List UInt8)) :
    acceptAll (some buf) (middle.map (fuAPayload u 0)) = (some (buf ++ middle.flatten), []) := by
  induction middle generalizing buf with
  | nil => simp [acceptAll]
  | cons fragment rest ih => simp [acceptAll, accept_inner, ih]

/-- A group gives its units whatever was gathered before, and leaves no fragments of its own. -/
theorem acceptAll_payloads (gathered : Option (List UInt8)) (g : PacketGroup) :
    (acceptAll gathered g.payloads).2 = g.units.map NalUnit.nal ∧
      ((acceptAll gathered g.payloads).1 = none ∨
        (acceptAll gathered g.payloads).1 = gathered) := by
  cases g with
  | single unit =>
    simp only [PacketGroup.payloads, NalUnit.nal, acceptAll, accept_single gathered unit.unitType]
    simp [PacketGroup.units, NalUnit.nal]
  | stapA indicator units isStapA fits =>
    simp only [PacketGroup.payloads, acceptAll, accept_stapA gathered isStapA]
    simp [PacketGroup.units, stapAUnits_elements units fits]
  | fuA unit first middle last parts =>
    simp only [PacketGroup.payloads, List.cons_append, acceptAll, accept_first, acceptAll_append,
      acceptAll_inner, accept_last, List.nil_append, List.append_nil]
    simp [PacketGroup.units, NalUnit.nal, ← parts]

theorem acceptAll_groups (gathered : Option (List UInt8)) (groups : List PacketGroup) :
    (acceptAll gathered (groups.flatMap PacketGroup.payloads)).2 = nals groups ∧
      ((acceptAll gathered (groups.flatMap PacketGroup.payloads)).1 = none ∨
        (acceptAll gathered (groups.flatMap PacketGroup.payloads)).1 = gathered) := by
  induction groups generalizing gathered with
  | nil => exact ⟨rfl, .inr rfl⟩
  | cons g rest ih =>
    obtain ⟨hnals, hbuf⟩ := acceptAll_payloads gathered g
    obtain ⟨ihnals, ihbuf⟩ := ih (acceptAll gathered g.payloads).1
    rw [List.flatMap_cons, acceptAll_append]
    refine ⟨?_, ?_⟩
    · simp only [hnals, ihnals]
      simp [nals]
    · rcases ihbuf with hrest | hrest
      · exact .inl hrest
      · simp only [hrest]
        exact hbuf

theorem ne_nil_of_mem_payloads {groups : List PacketGroup} {payload : List UInt8}
    (h : payload ∈ groups.flatMap PacketGroup.payloads) : payload ≠ [] := by
  obtain ⟨g, -, hg⟩ := List.mem_flatMap.mp h
  cases g with
  | single unit => simp_all [PacketGroup.payloads, NalUnit.nal]
  | stapA indicator units => simp_all [PacketGroup.payloads]
  | fuA unit first middle last =>
    simp only [PacketGroup.payloads, List.cons_append, List.mem_cons, List.mem_append, List.mem_map,
      List.not_mem_nil, or_false] at hg
    rcases hg with rfl | ⟨_, -, rfl⟩ | rfl <;> simp [fuAPayload]

/-- Numbered without gaps, payloads act on what survives the first gap detection. -/
theorem pushAll_number (r : Reassembler) (seq : UInt16) (payloads : List (List UInt8))
    (h : ∀ payload ∈ payloads, payload ≠ []) :
    (r.pushAll (number seq payloads)).2 = (acceptAll (r.kept seq) payloads).2 := by
  induction payloads generalizing r seq with
  | nil => simp [number, Reassembler.pushAll, acceptAll]
  | cons payload rest ih =>
    obtain ⟨hbuf, hseq, hout⟩ := r.push_eq seq (h payload List.mem_cons_self)
    have hrest : ∀ p ∈ rest, p ≠ [] := by
      intro p hp
      exact h p (List.mem_cons_of_mem _ hp)
    simp only [number, Reassembler.pushAll, acceptAll, ih _ _ hrest, hout]
    rw [Reassembler.kept_of_next hseq, hbuf]

/-- Packets that arrive in order give back the original units, from any state and any starting
sequence number. -/
theorem pushAll_packets (groups : List PacketGroup) (r : Reassembler) (seq : UInt16) :
    (r.pushAll (packets groups seq)).2 = (groups.flatMap PacketGroup.units).map NalUnit.nal := by
  rw [packets, pushAll_number _ _ _ fun _ => ne_nil_of_mem_payloads]
  exact (acceptAll_groups _ groups).1

/-! ## Lost, repeated and reordered packets -/

theorem mem_number {payloads : List (List UInt8)} {seq : UInt16} {packet : List UInt8 × UInt16}
    (h : packet ∈ number seq payloads) :
    ∃ pre post, payloads = pre ++ packet.1 :: post ∧ packet.2 = seq + UInt16.ofNat pre.length := by
  induction payloads generalizing seq with
  | nil => simp [number] at h
  | cons payload rest ih =>
    rcases List.mem_cons.mp h with rfl | h
    · exact ⟨[], rest, by simp⟩
    · obtain ⟨pre, post, rfl, hseq⟩ := ih h
      refine ⟨payload :: pre, post, rfl, ?_⟩
      rw [hseq, List.length_cons, UInt16.ofNat_add]
      simp [UInt16.add_assoc, UInt16.add_comm]

/-- Among fewer than 2^16 positions, the number after that of position `i` is the number of position
`i + 1`, or position `i` is the last possible one. -/
theorem next_position {seq : UInt16} {i j : Nat} (hi : i < 65536) (hj : j < 65536)
    (h : seq + UInt16.ofNat j = seq + UInt16.ofNat i + 1) : j = i + 1 ∨ i = 65535 := by
  have hnat := congrArg UInt16.toNat h
  have hs := seq.toNat_lt
  simp only [UInt16.toNat_add, UInt16.toNat_ofNat', UInt16.toNat_one] at hnat
  omega

/-- The fragments gathered so far, if any, are what the stream leaves gathered up to the last packet
seen. -/
def Gathered (payloads : List (List UInt8)) (seq : UInt16) (r : Reassembler) : Prop :=
  ∀ buf, r.fuABuf = some buf → ∃ pre payload post, payloads = pre ++ payload :: post ∧
    r.lastSeq = some (seq + UInt16.ofNat pre.length) ∧
    (acceptAll none (pre ++ [payload])).1 = some buf

namespace Gathered

variable {payloads : List (List UInt8)} {seq : UInt16} {r : Reassembler}

theorem new : Gathered payloads seq .new := by
  intro buf h
  simp [Reassembler.new] at h

/-- Before the packet at a position of the stream, either nothing gathered survives, or exactly what
the stream before that position leaves gathered. -/
theorem kept (h : Gathered payloads seq r) (hlen : payloads.length ≤ 65536)
    (hend : (acceptAll none payloads).1 = none) {pre post : List (List UInt8)}
    {payload : List UInt8} (hpos : payloads = pre ++ payload :: post) :
    r.kept (seq + UInt16.ofNat pre.length) = none ∨
      r.kept (seq + UInt16.ofNat pre.length) = (acceptAll none pre).1 := by
  rcases r.kept_eq (seq + UInt16.ofNat pre.length) with hnone | ⟨hkept, hnext⟩
  · exact .inl hnone
  rw [hkept]
  cases hb : r.fuABuf with
  | none => exact .inl rfl
  | some buf =>
    right
    obtain ⟨pre', payload', post', hpos', hlast, hbuf⟩ := h buf hb
    have hlen' : payloads.length = pre'.length + 1 + post'.length := by
      rw [hpos']
      simp
      omega
    have hlt : pre.length < payloads.length := by simp [hpos]
    rcases next_position (by omega) (by omega) (hnext _ hlast) with hnum | hnum
    · -- the packet follows the last one of the stream that was seen
      have heq : pre = pre' ++ [payload'] := by
        have hsplit : pre ++ payload :: post = (pre' ++ [payload']) ++ post' := by
          rw [← hpos, hpos']
          simp
        exact (List.append_inj hsplit (by simp [hnum])).1
      rw [heq, hbuf]
    · -- the numbers wrap around only after the last packet, which leaves nothing gathered
      have hpost : post' = [] := List.eq_nil_of_length_eq_zero (by omega)
      rw [hpos', hpost, hbuf] at hend
      exact absurd hend (by simp)

/-- A packet of the stream keeps the invariant, and what it completes are units of the stream. -/
theorem push (h : Gathered payloads seq r) (hlen : payloads.length ≤ 65536)
    (hend : (acceptAll none payloads).1 = none) (hne : ∀ payload ∈ payloads, payload ≠ [])
    {packet : List UInt8 × UInt16} (hp : packet ∈ number seq payloads) :
    Gathered payloads seq (r.push packet.1 packet.2).1 ∧
      (r.push packet.1 packet.2).2 ⊆ (acceptAll none payloads).2 := by
  obtain ⟨pre, post, hpos, hnum⟩ := mem_number hp
  obtain ⟨hbuf, hseq, hout⟩ := r.push_eq packet.2 (hne packet.1 (by simp [hpos]))
  have hstep : acceptAll none (pre ++ [packet.1]) =
      ((accept (acceptAll none pre).1 packet.1).1,
        (acceptAll none pre).2 ++ (accept (acceptAll none pre).1 packet.1).2) := by
    simp [acceptAll_append, acceptAll]
  have hsub : (accept (acceptAll none pre).1 packet.1).2 ⊆ (acceptAll none payloads).2 := by
    intro nal hnal
    rw [hpos, acceptAll_append]
    simp [acceptAll, hnal]
  have hle : ((accept (r.kept packet.2) packet.1).1 = none ∨
        (accept (r.kept packet.2) packet.1).1 = (accept (acceptAll none pre).1 packet.1).1) ∧
      (accept (r.kept packet.2) packet.1).2 ⊆ (accept (acceptAll none pre).1 packet.1).2 := by
    rw [hnum]
    rcases h.kept hlen hend hpos with hkept | hkept
    · rw [hkept]
      exact accept_none _ _
    · rw [hkept]
      exact ⟨.inr rfl, fun _ hnal => hnal⟩
  refine ⟨?_, ?_⟩
  · intro buf hsome
    refine ⟨pre, packet.1, post, hpos, by rw [hseq, hnum], ?_⟩
    rw [hstep, ← hsome, hbuf]
    rcases hle.1 with hnone | hsame
    · rw [hbuf, hnone] at hsome
      exact absurd hsome (by simp)
    · exact hsame.symm
  · rw [hout]
    exact fun _ hnal => hsub (hle.2 hnal)

theorem pushAll (h : Gathered payloads seq r) (hlen : payloads.length ≤ 65536)
    (hend : (acceptAll none payloads).1 = none) (hne : ∀ payload ∈ payloads, payload ≠ [])
    {arrivals : List (List UInt8 × UInt16)} (ha : ∀ p ∈ arrivals, p ∈ number seq payloads) :
    (r.pushAll arrivals).2 ⊆ (acceptAll none payloads).2 := by
  induction arrivals generalizing r with
  | nil => simp [Reassembler.pushAll]
  | cons packet rest ih =>
    obtain ⟨hnext, hout⟩ := h.push hlen hend hne (ha packet List.mem_cons_self)
    have hrest := ih hnext fun p hp => ha p (List.mem_cons_of_mem _ hp)
    intro nal hnal
    rcases List.mem_append.mp hnal with hnal | hnal
    · exact hout hnal
    · exact hrest hnal

end Gathered

/-- Whatever packets of a stream of at most 2^16 packets arrive, in whatever order and however often,
each unit a new reassembler emits is one of the stream. -/
theorem mem_of_pushAll_arrivals (groups : List PacketGroup) (seq : UInt16)
    (hlen : (packets groups seq).length ≤ 65536) (arrivals : List (List UInt8 × UInt16))
    (ha : ∀ p ∈ arrivals, p ∈ packets groups seq) :
    ∀ nal ∈ (Reassembler.new.pushAll arrivals).2,
      nal ∈ (groups.flatMap PacketGroup.units).map NalUnit.nal := by
  obtain ⟨hnals, hend⟩ := acceptAll_groups none groups
  have hnumber : ∀ (s : UInt16) (ps : List (List UInt8)), (number s ps).length = ps.length := by
    intro s ps
    induction ps generalizing s with
    | nil => rfl
    | cons p rest ih => simp [number, ih]
  intro nal hnal
  rw [packets, hnumber] at hlen
  have hsub := Gathered.new.pushAll hlen (or_self_iff.mp hend) (fun _ => ne_nil_of_mem_payloads) ha
  rw [hnals] at hsub
  exact hsub hnal

/-- Three fragments numbered across the wrap-around, the first of them twice and the last one late,
and a single unit between them. -/
theorem mem_of_pushAll_arrivals_wrapped :
    let idr : NalUnit := ⟨0x65, [1, 2, 3], by decide⟩
    let slice : NalUnit := ⟨0x41, [9], by decide⟩
    let run := [fuAPayload idr 0x80 [1], fuAPayload idr 0 [2], fuAPayload idr 0x40 [3]]
    let arrivals : List (List UInt8 × UInt16) := [(run[0], 65534), (run[0], 65534),
      (run[1], 65535), (slice.nal.data, 1), (run[2], 0), (run[0], 65534), (run[1], 65535),
      (run[2], 0)]
    ∀ nal ∈ (Reassembler.new.pushAll arrivals).2, nal ∈ [idr.nal, slice.nal] := by
  intro idr slice run arrivals
  exact mem_of_pushAll_arrivals [.fuA idr [1] [[2]] [3] (by decide), .single slice] 65534
    (by decide) arrivals (by decide)

end Buddy3dProxy.Snapshot
