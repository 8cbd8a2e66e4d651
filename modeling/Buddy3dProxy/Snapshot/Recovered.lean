import Buddy3dProxy.Codec.ByteStream
import Buddy3dProxy.Snapshot.Packetization
import Buddy3dProxy.Snapshot.Worker
import Buddy3dProxy.Transition.Observed
import Mathlib.Logic.Function.Basic

/-!
# From the camera to the decoder

The packets that the consumers of the snapshot worker receive are those of the camera's streams, one
for each session, as far as they arrive. A decoder reads the units of a byte stream. What it reads at
a tick are units that the camera sent, however the packets are lost, repeated and reordered, and a
keyframe that arrives whole is what it reads next.
-/

namespace Buddy3dProxy.Snapshot

open Transition Codec

/-- The packets of a session, numbered from `seq` on. Some may be padding only, and the units are such
that an encoder can give. -/
structure Stream where
  packets : List (List UInt8)
  seq : UInt16
  groups : List PacketGroup
  carries : packets.filter (· ≠ []) = groups.flatMap PacketGroup.payloads
  plain : ∀ u ∈ nals groups, ByteStream.Plain u.data

/-- The packet at a place of a stream. -/
structure Arrival where
  stream : Nat
  pos : Nat
  deriving DecidableEq, Repr

variable (streams : Nat → Stream)

namespace Arrival

def payload? (a : Arrival) : Option (List UInt8) := (streams a.stream).packets[a.pos]?

def number (a : Arrival) : UInt16 := (streams a.stream).seq + UInt16.ofNat a.pos

/-- If the number of `a` is the one after that of `b`, then `a` is the packet after `b`. -/
def Follows (a b : Arrival) : Prop :=
  a.number streams = b.number streams + 1 → a.stream = b.stream ∧ a.pos = b.pos + 1

instance (a b : Arrival) : Decidable (a.Follows streams b) := inferInstanceAs (Decidable (_ → _))

end Arrival

/-- The worker, and for each consumer the last packet that its reassembler took. -/
structure Fed where
  worker : Worker
  last : Nat → Option Arrival

inductive FedStep where
  /-- A packet of the camera arrives. -/
  | packet (i : Nat) (a : Arrival)
  /-- Any other step of the worker. -/
  | other (e : WorkerStep)
  deriving DecidableEq, Repr

def WorkerStep.isPacket : WorkerStep → Bool
  | packet _ _ _ => true
  | _ => false

def FedStep.workerStep : FedStep → Option WorkerStep
  | packet i a => (a.payload? streams).map fun payload => .packet i payload (a.number streams)
  | other e => if e.isPacket then none else some e

namespace Fed

def new : Fed := ⟨.new, fun _ => none⟩

/-- A packet without a payload is no matter to the reassembler, and after a lag it is a new one. -/
def lastAfter (s : Fed) : FedStep → Nat → Option Arrival
  | .packet i a => if a.payload? streams = some [] then s.last else Function.update s.last i (some a)
  | .other (.lagged i) => Function.update s.last i none
  | .other _ => s.last

def step (s : Fed) (e : FedStep) : Option Fed :=
  (e.workerStep streams).bind fun e' => (s.worker.step e').map fun w => ⟨w, s.lastAfter streams e⟩

/-- The 16 bits of a sequence number tell a packet that follows the last one from others. -/
def Distinct (s : Fed) : FedStep → Prop
  | .packet i a => ∀ b ∈ s.last i, a.Follows streams b
  | .other _ => True

instance (s : Fed) (e : FedStep) : Decidable (s.Distinct streams e) :=
  match e with
  | .packet i a => inferInstanceAs (Decidable (∀ b ∈ s.last i, a.Follows streams b))
  | .other _ => .isTrue trivial

end Fed

/-- The runs of a worker on the packets of the streams. -/
def fedSystem : System Fed FedStep := ⟨.new, Fed.step streams⟩

variable {streams}

theorem Fed.exists_of_step {s s' : Fed} {e : FedStep} (h : s.step streams e = some s') :
    ∃ e', e.workerStep streams = some e' ∧ s.worker.step e' = some s'.worker ∧
      s'.last = s.lastAfter streams e := by
  obtain ⟨e', he, hs⟩ := Option.bind_eq_some_iff.mp h
  obtain ⟨w, hw, rfl⟩ := Option.map_eq_some_iff.mp hs
  exact ⟨e', he, hw, rfl⟩

/-- They are runs of the worker. -/
theorem Fed.reachable_worker {ok : Fed → FedStep → Prop} {s : Fed}
    (h : ReachableWhere (fedSystem streams) ok s) : Reachable workerSystem s.worker := by
  induction h with
  | init => exact .init
  | step _ _ hs ih =>
    obtain ⟨e', -, hw, -⟩ := Fed.exists_of_step hs
    exact .step ih trivial hw

/-! ## What a reassembler has gathered -/

theorem acceptAll_filter (gathered : Option (List UInt8)) (payloads : List (List UInt8)) :
    acceptAll gathered (payloads.filter (· ≠ [])) = acceptAll gathered payloads := by
  induction payloads generalizing gathered with
  | nil => rfl
  | cons payload rest ih =>
    cases payload with
    | nil => exact ih gathered
    | cons b bs =>
      rw [List.filter_cons_of_pos (by simp), acceptAll, acceptAll, ih]

namespace Stream

variable (stream : Stream)

theorem acceptAll_packets : (acceptAll none stream.packets).2 = nals stream.groups := by
  rw [← acceptAll_filter, stream.carries]
  exact (acceptAll_groups none stream.groups).1

/-- What is gathered after the packets before `pos`. -/
def gatheredTo (pos : Nat) : Option (List UInt8) := (acceptAll none (stream.packets.take pos)).1

variable {stream} {pos : Nat} {payload : List UInt8}

theorem gatheredTo_succ (h : stream.packets[pos]? = some payload) :
    stream.gatheredTo (pos + 1) = (accept (stream.gatheredTo pos) payload).1 := by
  rw [gatheredTo, List.take_add_one, h, acceptAll_append]
  rfl

/-- A packet in its place completes units of the stream. -/
theorem mem_nals_of_accept (h : stream.packets[pos]? = some payload) {u : Nal}
    (hu : u ∈ (accept (stream.gatheredTo pos) payload).2) : u ∈ nals stream.groups := by
  have hsplit : stream.packets = stream.packets.take pos ++ payload :: stream.packets.drop (pos + 1) := by
    obtain ⟨hlt, rfl⟩ := List.getElem?_eq_some_iff.mp h
    rw [List.getElem_cons_drop, List.take_append_drop]
  rw [← acceptAll_packets, hsplit, acceptAll_append, acceptAll]
  exact List.mem_append_right _ (List.mem_append_left _ hu)

end Stream

/-- Fragments that a reassembler has gathered are those that the stream has given up to the packet it
took last. -/
def Gathers (streams : Nat → Stream) (r : Reassembler) (last : Option Arrival) : Prop :=
  ∀ buf, r.fuABuf = some buf → ∃ a, last = some a ∧ r.lastSeq = some (a.number streams) ∧
    (streams a.stream).gatheredTo (a.pos + 1) = some buf

namespace Gathers

variable {r : Reassembler} {last : Option Arrival} {a : Arrival} {payload : List UInt8}

theorem new : Gathers streams .new last := by
  intro buf hbuf
  cases hbuf

/-- Fragments that the gap detection keeps are those of the stream before the packet. -/
theorem kept (h : Gathers streams r last) (hfollows : ∀ b ∈ last, a.Follows streams b) :
    r.kept (a.number streams) = none ∨
      r.kept (a.number streams) = (streams a.stream).gatheredTo a.pos := by
  rcases r.kept_eq (a.number streams) with hnone | ⟨hkept, hnext⟩
  · exact .inl hnone
  · rw [hkept]
    cases hbuf : r.fuABuf with
    | none => exact .inl rfl
    | some buf =>
      right
      obtain ⟨b, hlast, hseq, hb⟩ := h buf hbuf
      obtain ⟨hstream, hpos⟩ := hfollows b hlast (hnext _ hseq)
      rw [hstream, hpos, hb]

theorem push (h : Gathers streams r last) (hfollows : ∀ b ∈ last, a.Follows streams b)
    (hpayload : a.payload? streams = some payload) (hne : payload ≠ []) :
    Gathers streams (r.push payload (a.number streams)).1 (some a) ∧
      ∀ u ∈ (r.push payload (a.number streams)).2, u ∈ nals (streams a.stream).groups := by
  obtain ⟨hbuf, hseq, hout⟩ := r.push_eq (a.number streams) hne
  have hnext := Stream.gatheredTo_succ hpayload
  obtain ⟨hleft, hsub⟩ := accept_none ((streams a.stream).gatheredTo a.pos) payload
  rw [Gathers, hbuf, hout]
  rcases h.kept hfollows with hkept | hkept
  · rw [hkept]
    refine ⟨?_, fun u hu => Stream.mem_nals_of_accept hpayload (hsub hu)⟩
    intro buf hsome
    refine ⟨a, rfl, hseq, ?_⟩
    rcases hleft with hnone | hsame
    · rw [hnone] at hsome
      cases hsome
    · rw [hnext, ← hsame, hsome]
  · rw [hkept]
    refine ⟨?_, fun u hu => Stream.mem_nals_of_accept hpayload hu⟩
    intro buf hsome
    exact ⟨a, rfl, hseq, hnext.trans hsome⟩

end Gathers

/-! ## Runs -/

section Steps

variable {w w' : Worker} {i j : Nat} {c c' : Consumer}

theorem Worker.running_of_consumerStep {next : Consumer → Option Worker}
    (h : w.consumerStep i next = some w') : ∃ c, w.consumers[i]? = some c ∧ next c = some w' := by
  unfold Worker.consumerStep at h
  split at h
  next c hc =>
    split at h
    · cases h
    · exact ⟨c, hc, h⟩
  · cases h

theorem Worker.consumer_of_setConsumer (h : (w.setConsumer i c).consumers[j]? = some c') :
    j = i ∧ c' = c ∨ j ≠ i ∧ w.consumers[j]? = some c' := by
  by_cases hj : j = i
  · subst hj
    left
    refine ⟨rfl, ?_⟩
    rw [Worker.setConsumer, List.getElem?_set_self'] at h
    obtain ⟨_, -, rfl⟩ := Option.map_eq_some_iff.mp h
    rfl
  · right
    rw [Worker.setConsumer, List.getElem?_set_ne (Ne.symm hj)] at h
    exact ⟨hj, h⟩

/-- At the head of the loop of `run`, reassemblers are new or as they were. -/
theorem Worker.reassembler_of_observe {streaming rxAvailable : Bool}
    (h : (w.observe streaming rxAvailable).consumers[j]? = some c') :
    c'.reassembler = .new ∨ ∃ c, w.consumers[j]? = some c ∧ c'.reassembler = c.reassembler := by
  unfold Worker.observe at h
  split at h
  · split at h
    · rw [Worker.spawn, List.getElem?_append] at h
      split at h
      · exact .inr ⟨c', h, rfl⟩
      · obtain rfl := List.mem_singleton.mp (List.mem_of_getElem? h)
        exact .inl rfl
    · exact .inr ⟨c', h, rfl⟩
  · right
    split at h
    next i _ =>
      rw [Worker.endSession, List.getElem?_modify] at h
      obtain ⟨c, hc, rfl⟩ := Option.map_eq_some_iff.mp h
      refine ⟨c, hc, ?_⟩
      split <;> rfl
    · exact ⟨c', h, rfl⟩

theorem Worker.stored_observe (streaming rxAvailable : Bool) :
    (w.observe streaming rxAvailable).stored ⊆ w.stored := by
  unfold Worker.observe
  split
  · split
    · exact List.Subset.refl _
    · exact List.Subset.refl _
  · split
    · exact List.nil_subset _
    · exact List.Subset.refl _

end Steps

namespace Fed

variable {s s' : Fed}

/-- Every unit that is stored was sent by the camera. -/
structure Inv (streams : Nat → Stream) (s : Fed) : Prop where
  gathers : ∀ i c, s.worker.consumers[i]? = some c → Gathers streams c.reassembler (s.last i)
  sent : ∀ u ∈ s.worker.stored, ∃ k, u ∈ nals (streams k).groups

/-- Consumer `i` goes on with what `r` has gathered. -/
theorem Inv.setConsumer (h : s.Inv streams) {i : Nat} {c : Consumer} {last : Option Arrival}
    (hc : Gathers streams c.reassembler last) :
    Inv streams ⟨s.worker.setConsumer i c, Function.update s.last i last⟩ where
  gathers j c' hj := by
    rcases Worker.consumer_of_setConsumer hj with ⟨rfl, rfl⟩ | ⟨hne, hj⟩
    · show Gathers streams c'.reassembler (Function.update s.last j last j)
      rw [Function.update_self]
      exact hc
    · show Gathers streams c'.reassembler (Function.update s.last i last j)
      rw [Function.update_of_ne hne]
      exact h.gathers j c' hj
  sent := h.sent

theorem Inv.receive (h : s.Inv streams) {i : Nat} {c : Consumer} (hc : s.worker.consumers[i]? = some c)
    {a : Arrival} {payload : List UInt8} (hpayload : a.payload? streams = some payload)
    (hdistinct : ∀ b ∈ s.last i, a.Follows streams b) :
    Inv streams ⟨s.worker.receive i c payload (a.number streams),
      s.lastAfter streams (.packet i a)⟩ := by
  rw [lastAfter, hpayload]
  by_cases hne : payload = []
  · subst hne
    have hset := h.setConsumer (i := i) (h.gathers i c hc)
    rw [Function.update_eq_self] at hset
    rw [if_pos rfl]
    refine ⟨hset.gathers, ?_⟩
    simpa [Worker.receive, Reassembler.push] using h.sent
  · obtain ⟨hgathers, hsent⟩ := (h.gathers i c hc).push hdistinct hpayload hne
    rw [if_neg (by simpa using hne)]
    refine ⟨(h.setConsumer (c := ⟨_, _, _⟩) hgathers).gathers, ?_⟩
    intro u hu
    rcases List.mem_append.mp hu with hu | hu
    · exact h.sent u hu
    · exact ⟨a.stream, hsent u hu⟩

/-- A consumer that finishes keeps its reassembler. -/
theorem Inv.finish (h : s.Inv streams) {i : Nat} {c : Consumer} (hc : s.worker.consumers[i]? = some c) :
    Inv streams ⟨s.worker.setConsumer i { c with finished := true }, s.last⟩ := by
  have hset := h.setConsumer (i := i) (c := { c with finished := true }) (h.gathers i c hc)
  rwa [Function.update_eq_self] at hset

theorem Inv.step (h : s.Inv streams) {e : FedStep} (hok : s.Distinct streams e)
    (hs : s.step streams e = some s') : s'.Inv streams := by
  obtain ⟨e', he, hw, hlast⟩ := exists_of_step hs
  obtain ⟨w', last'⟩ := s'
  obtain rfl : last' = _ := hlast
  cases e with
  | packet i a =>
    obtain ⟨payload, hpayload, rfl⟩ := Option.map_eq_some_iff.mp he
    obtain ⟨c, hc, hnext⟩ := Worker.running_of_consumerStep hw
    obtain rfl := Option.some.inj hnext
    exact h.receive hc hpayload hok
  | other e =>
    cases e with
    | packet i payload seq => cases he
    | observe streaming rxAvailable =>
      obtain rfl := Option.some.inj he
      obtain rfl := Option.some.inj hw
      refine ⟨?_, fun u hu => h.sent u (Worker.stored_observe streaming rxAvailable hu)⟩
      intro j c' hj
      rcases Worker.reassembler_of_observe hj with hnew | ⟨c, hc, hsame⟩
      · rw [hnew]
        exact .new
      · rw [hsame]
        exact h.gathers j c hc
    | lagged i =>
      obtain rfl := Option.some.inj he
      obtain ⟨c, hc, hnext⟩ := Worker.running_of_consumerStep hw
      obtain rfl := Option.some.inj hnext
      exact h.setConsumer .new
    | closed i =>
      obtain rfl := Option.some.inj he
      obtain ⟨c, hc, hnext⟩ := Worker.running_of_consumerStep hw
      obtain rfl := Option.some.inj hnext
      exact h.finish hc
    | cancelled i =>
      obtain rfl := Option.some.inj he
      obtain ⟨c, hc, hnext⟩ := Worker.running_of_consumerStep hw
      split at hnext
      · obtain rfl := Option.some.inj hnext
        exact h.finish hc
      · cases hnext

theorem inv_of_reachable (h : ReachableWhere (fedSystem streams) (Distinct streams) s) :
    s.Inv streams := by
  apply h.induct (P := Inv streams)
  · refine ⟨?_, ?_⟩
    · intro i c hc
      cases hc
    · intro u hu
      cases hu
  · intro s e s' _ hok hs hinv
    exact hinv.step hok hs

end Fed

/-- The bytes of `buildAnnexB` are read as the units they were made of. -/
theorem units_buildAnnexB {sps pps idr : List UInt8} (hsps : ByteStream.Plain sps)
    (hpps : ByteStream.Plain pps) (hidr : ByteStream.Plain idr) :
    ByteStream.units (buildAnnexB sps pps idr) = [sps, pps, idr] := by
  have hunits : ByteStream.units ([sps, pps, idr].flatMap (ByteStream.startCode ++ ·)) = [sps, pps, idr] :=
    ByteStream.units_flatMap (by simp [hsps, hpps, hidr])
  simpa [buildAnnexB, startCode, ByteStream.startCode] using hunits

theorem exists_of_lastOf {t : UInt8} {us : List Nal} {data : List UInt8} (h : lastOf t us = some data) :
    ∃ u ∈ us, u.unitType = t ∧ u.data = data := by
  obtain ⟨u, hu, rfl⟩ := Option.map_eq_some_iff.mp h
  exact ⟨u, List.mem_reverse.mp (List.mem_of_find?_eq_some hu), by simpa using List.find?_some hu, rfl⟩

/-- Whatever packets of the streams a consumer gets, in whatever order and however often: what a decoder
reads from the bytes of a tick is an SPS, a PPS and an IDR, each of them a unit that the camera sent. -/
theorem tick_recovers {s : Fed} (h : ReachableWhere (fedSystem streams) (Fed.Distinct streams) s)
    {streaming : Bool} {bytes : List UInt8} (htick : s.worker.tick streaming = some bytes) :
    ∃ sps pps idr : Nal,
      ByteStream.units bytes = [sps.data, pps.data, idr.data] ∧
      sps.unitType = 7 ∧ pps.unitType = 8 ∧ idr.unitType = 5 ∧
      ∀ u ∈ [sps, pps, idr], ∃ k, u ∈ nals (streams k).groups := by
  have hinv := Fed.inv_of_reachable h
  have hplain : ∀ u ∈ s.worker.stored, ByteStream.Plain u.data := by
    intro u hu
    obtain ⟨k, hk⟩ := hinv.sent u hu
    exact (streams k).plain u hk
  obtain ⟨_, _, _, rfl, -, hlast7, hlast8, hlast5⟩ := exists_of_tick (Fed.reachable_worker h) htick
  obtain ⟨sps, hsps, hsps7, rfl⟩ := exists_of_lastOf hlast7
  obtain ⟨pps, hpps, hpps8, rfl⟩ := exists_of_lastOf hlast8
  obtain ⟨idr, hidr, hidr5, rfl⟩ := exists_of_lastOf hlast5
  refine ⟨sps, pps, idr, ?_, hsps7, hpps8, hidr5, ?_⟩
  · exact units_buildAnnexB (hplain sps hsps) (hplain pps hpps) (hplain idr hidr)
  · simp only [List.forall_mem_cons, List.not_mem_nil, false_imp_iff, implies_true, and_true]
    exact ⟨hinv.sent sps hsps, hinv.sent pps hpps, hinv.sent idr hidr⟩

namespace Sample

/-- A keyframe in an aggregation packet, one that is padding only, and three fragments whose numbers
wrap around. -/
def keyframeStream (b : UInt8) (hb : b ≠ 0) : Stream where
  packets :=
    [[0x78, 0, 2, 0x67, 1, 0, 2, 0x68, 1], [], [0x7C, 0x85, 4], [0x7C, 0x05, 5], [0x7C, 0x45, b]]
  seq := 65533
  groups :=
    [.stapA 0x78 [⟨0x67, [1], by decide⟩, ⟨0x68, [1], by decide⟩] (by decide) (by decide),
      .fuA ⟨0x65, [4, 5, b], by decide⟩ [4] [[5]] [b] rfl]
  carries := by
    simp [PacketGroup.payloads, fuAPayload, stapAElement, NalUnit.nal]
    decide
  plain := by
    have hparams : ByteStream.Plain [0x67, 1] ∧ ByteStream.Plain [0x68, 1] := by decide
    have hidr : ByteStream.Plain [0x65, 4, 5, b] := ⟨by simp [ByteStream.ends], by simpa using hb⟩
    simpa [nals, PacketGroup.units, NalUnit.nal, hidr] using hparams

def sessions (k : Nat) : Stream :=
  if k = 0 then keyframeStream 6 (by decide) else keyframeStream 7 (by decide)

/-- A fragment comes twice, the last one is lost at first, and what comes then is of the next session. -/
def losses : List FedStep :=
  [.other (.observe true true), .packet 0 ⟨0, 0⟩, .packet 0 ⟨0, 1⟩, .packet 0 ⟨0, 2⟩,
    .packet 0 ⟨0, 2⟩, .packet 0 ⟨0, 3⟩, .packet 0 ⟨0, 4⟩, .packet 0 ⟨0, 2⟩, .packet 0 ⟨0, 3⟩,
    .other (.lagged 0), .packet 0 ⟨1, 4⟩]

end Sample

/-- The IDR of the first session stays the one that is decoded. -/
theorem tick_recovers_losses : ∃ (s : Fed) (sps pps idr : Nal),
    ReachableWhere (fedSystem Sample.sessions) (Fed.Distinct Sample.sessions) s ∧
      ByteStream.units (buildAnnexB [0x67, 1] [0x68, 1] [0x65, 4, 5, 6]) =
        [sps.data, pps.data, idr.data] ∧
      ∀ u ∈ [sps, pps, idr], ∃ k, u ∈ nals (Sample.sessions k).groups := by
  obtain ⟨s, hreach, htick⟩ := exists_reachableWhere_of_runWhere (fedSystem Sample.sessions)
    (fun s e => decide (s.Distinct Sample.sessions e)) Sample.losses
    (fun s => s.worker.tick true = some (buildAnnexB [0x67, 1] [0x68, 1] [0x65, 4, 5, 6]))
    (by decide +kernel)
  have hwhere := hreach.mono fun s e he => of_decide_eq_true he
  obtain ⟨sps, pps, idr, hunits, -, -, -, hsent⟩ := tick_recovers hwhere (of_decide_eq_true htick)
  exact ⟨s, sps, pps, idr, hwhere, hunits, hsent⟩

/-! ## A keyframe that arrives whole -/

/-- What consumer `i` receives at a step. -/
def received (i : Nat) (_ : Worker) : WorkerStep → List (List UInt8 × UInt16)
  | .packet j payload seq => if j = i then [(payload, seq)] else []
  | _ => []

/-- The session goes on, consumer `i` does not lag, and no other one receives packets. -/
def undisturbed (i : Nat) (_ : Worker) : WorkerStep → Bool
  | .observe streaming _ => streaming
  | .packet j _ _ => j = i
  | .lagged j => j ≠ i
  | .closed _ => true
  | .cancelled _ => true

theorem Reassembler.pushAll_cons (r : Reassembler) (x : List UInt8 × UInt16)
    (xs : List (List UInt8 × UInt16)) :
    r.pushAll (x :: xs) = (((r.push x.1 x.2).1.pushAll xs).1,
      (r.push x.1 x.2).2 ++ ((r.push x.1 x.2).1.pushAll xs).2) := rfl

theorem Reassembler.pushAll_append (r : Reassembler) (xs ys : List (List UInt8 × UInt16)) :
    r.pushAll (xs ++ ys) =
      (((r.pushAll xs).1.pushAll ys).1, (r.pushAll xs).2 ++ ((r.pushAll xs).1.pushAll ys).2) := by
  induction xs generalizing r with
  | nil => rfl
  | cons x xs ih =>
    rw [List.cons_append, pushAll_cons, pushAll_cons, ih, List.append_assoc]

theorem Reassembler.pushAll_singleton (r : Reassembler) (payload : List UInt8) (seq : UInt16) :
    r.pushAll [(payload, seq)] = r.push payload seq := by
  simp [Reassembler.pushAll]

namespace Worker

variable {w w' : Worker} {i j : Nat} {c d : Consumer}

/-- Consumer `i` has made of `out` what `r` makes of it, and has stored the units. -/
def Took (w : Worker) (i : Nat) (r : Reassembler) (before : List Nal)
    (out : List (List UInt8 × UInt16)) : Prop :=
  (∃ c, w.consumers[i]? = some c ∧ c.reassembler = (r.pushAll out).1) ∧
    w.stored = before ++ (r.pushAll out).2

theorem took_nil (hc : w.consumers[i]? = some c) : w.Took i c.reassembler w.stored [] :=
  ⟨⟨c, hc, rfl⟩, by simp [Reassembler.pushAll]⟩

/-- A consumer goes on with the reassembler it had, or it is another one. -/
theorem took_setConsumer (hc : w.consumers[i]? = some c) (hd : w.consumers[j]? = some d)
    {d' : Consumer} (hsame : j = i → d'.reassembler = d.reassembler) :
    (w.setConsumer j d').Took i c.reassembler w.stored [] := by
  refine ⟨?_, by simp [setConsumer, Reassembler.pushAll]⟩
  by_cases hj : j = i
  · subst hj
    refine ⟨d', ?_, ?_⟩
    · rw [setConsumer, List.getElem?_set_self', hc]
      rfl
    · obtain rfl := Option.some.inj (hc.symm.trans hd)
      exact hsame rfl
  · refine ⟨c, ?_, rfl⟩
    rw [setConsumer, List.getElem?_set_ne hj, hc]

theorem took_step {e : WorkerStep} (hok : undisturbed i w e = true) (hs : w.step e = some w')
    (hc : w.consumers[i]? = some c) : w'.Took i c.reassembler w.stored (received i w e) := by
  cases e with
  | observe streaming rxAvailable =>
    obtain rfl : streaming = true := hok
    obtain rfl := Option.some.inj hs
    rw [observe, if_pos rfl]
    split
    · refine ⟨⟨c, ?_, rfl⟩, (took_nil hc).2⟩
      obtain ⟨hlt, -⟩ := List.getElem?_eq_some_iff.mp hc
      rw [spawn, List.getElem?_append_left hlt, hc]
    · exact took_nil hc
  | packet j payload seq =>
    obtain rfl : j = i := of_decide_eq_true hok
    obtain ⟨d, hd, hnext⟩ := running_of_consumerStep hs
    obtain rfl := Option.some.inj hnext
    obtain rfl := Option.some.inj (hc.symm.trans hd)
    rw [received, if_pos rfl, Took, Reassembler.pushAll_singleton]
    refine ⟨⟨{ c with reassembler := (c.reassembler.push payload seq).1 }, ?_, rfl⟩, rfl⟩
    show (w.consumers.set j _)[j]? = _
    rw [List.getElem?_set_self', hc]
    rfl
  | lagged j =>
    obtain ⟨d, hd, hnext⟩ := running_of_consumerStep hs
    obtain rfl := Option.some.inj hnext
    exact took_setConsumer hc hd fun hj => absurd hj (of_decide_eq_true hok)
  | closed j =>
    obtain ⟨d, hd, hnext⟩ := running_of_consumerStep hs
    obtain rfl := Option.some.inj hnext
    exact took_setConsumer hc hd fun _ => rfl
  | cancelled j =>
    obtain ⟨d, hd, hnext⟩ := running_of_consumerStep hs
    split at hnext
    · obtain rfl := Option.some.inj hnext
      exact took_setConsumer hc hd fun _ => rfl
    · cases hnext

theorem Took.append {r : Reassembler} {before : List Nal} {out more : List (List UInt8 × UInt16)}
    (h : w.Took i r before out)
    (hmore : ∀ c, w.consumers[i]? = some c → w'.Took i c.reassembler w.stored more) :
    w'.Took i r before (out ++ more) := by
  obtain ⟨⟨c, hc, hr⟩, hstored⟩ := h
  have hnext := hmore c hc
  rw [hr, hstored] at hnext
  rw [Took, Reassembler.pushAll_append, ← List.append_assoc]
  exact hnext

theorem took_of_observed {out : List (List UInt8 × UInt16)} (hw : Reachable workerSystem w)
    (hc : w.consumers[i]? = some c)
    (h : Observed workerSystem (fun w e => undisturbed i w e) (received i) w out w') :
    w'.Took i c.reassembler w.stored out := by
  apply h.induct (P := fun out w' => w'.Took i c.reassembler w.stored out) hw (took_nil hc)
  intro t e t' out _ hok hs ht
  exact ht.append fun d hd => took_step hok hs hd

end Worker

/-- Once a consumer has got all packets of a keyframe in order, whatever was stored and gathered before,
what a decoder reads at the next tick is the keyframe, with the parameter sets that came with it. -/
theorem keyframe_decoded {w w' : Worker} (hw : Reachable workerSystem w) {i : Nat} {c : Consumer}
    (hc : w.consumers[i]? = some c) {groups : List PacketGroup} {seq : UInt16}
    (h : Observed workerSystem (fun w e => undisturbed i w e) (received i) w (packets groups seq) w')
    (hplain : ∀ u ∈ nals groups, ByteStream.Plain u.data) {sps pps idr : List UInt8}
    (hsps : lastOf 7 (nals groups) = some sps) (hpps : lastOf 8 (nals groups) = some pps)
    (hidr : lastOf 5 (nals groups) = some idr) :
    ∃ bytes, w'.tick true = some bytes ∧ ByteStream.units bytes = [sps, pps, idr] := by
  have hstored : w'.stored = w.stored ++ nals groups := by
    have htook := (Worker.took_of_observed hw hc h).2
    rwa [packets, pushAll_number _ _ _ fun _ => ne_nil_of_mem_payloads,
      (acceptAll_groups _ groups).1] at htook
  have hlatest := (inv_reachable (h.reachable hw)).trans (foldl_store w'.stored)
  rw [hstored, lastOf_append, lastOf_append, lastOf_append, hsps, hpps, hidr] at hlatest
  refine ⟨buildAnnexB sps pps idr, ?_, ?_⟩
  · unfold Worker.tick
    rw [hlatest]
    rfl
  · obtain ⟨_, husps, -, rfl⟩ := exists_of_lastOf hsps
    obtain ⟨_, hupps, -, rfl⟩ := exists_of_lastOf hpps
    obtain ⟨_, huidr, -, rfl⟩ := exists_of_lastOf hidr
    exact units_buildAnnexB (hplain _ husps) (hplain _ hupps) (hplain _ huidr)

namespace Sample

/-- A keyframe as two single units and two fragments. -/
def keyframeGroups : List PacketGroup :=
  [.single ⟨0x67, [2], by decide⟩, .single ⟨0x68, [2], by decide⟩,
    .fuA ⟨0x65, [8, 9], by decide⟩ [8] [] [9] rfl]

/-- The parameter sets of a keyframe, and a fragment of its IDR. -/
def begun : List WorkerStep :=
  [.observe true true, .packet 0 [0x67, 1] 7, .packet 0 [0x68, 1] 8, .packet 0 [0x7C, 0x85, 4] 9]

/-- The next keyframe, across the wrap-around of the numbers. -/
def whole : List WorkerStep :=
  [.packet 0 [0x67, 2] 65534, .observe true false, .packet 0 [0x68, 2] 65535,
    .packet 0 [0x7C, 0x85, 8] 0, .packet 0 [0x7C, 0x45, 9] 1]

end Sample

/-- A keyframe after one that was cut off. -/
theorem keyframe_decoded_next : ∃ w, Reachable workerSystem w ∧ ∃ bytes, w.tick true = some bytes ∧
    ByteStream.units bytes = [[0x67, 2], [0x68, 2], [0x65, 8, 9]] := by
  obtain ⟨w, hw, hp⟩ := exists_reachable_of_run workerSystem Sample.begun
    (fun w : Worker => w.consumers[0]?.isSome &&
      (observe workerSystem (undisturbed 0) (received 0) w Sample.whole).any
        fun x : List (List UInt8 × UInt16) × Worker =>
          decide (x.1 = packets Sample.keyframeGroups 65534)) (by decide +kernel)
  obtain ⟨hsome, hrun⟩ := Bool.and_eq_true_iff.mp hp
  obtain ⟨c, hc⟩ := Option.isSome_iff_exists.mp hsome
  obtain ⟨⟨out, w'⟩, hobserve, hseen⟩ := (Option.any_eq_true _ _).mp hrun
  obtain rfl : out = packets Sample.keyframeGroups 65534 := of_decide_eq_true hseen
  have hpath := observed_of_observe (.nil w) hobserve
  refine ⟨w', hpath.reachable hw, ?_⟩
  exact keyframe_decoded hw hc hpath (by decide) (by decide) (by decide) (by decide)

end Buddy3dProxy.Snapshot
