import Buddy3dProxy.Snapshot.H264
import Buddy3dProxy.Transition.System
import Mathlib.Data.List.Basic
import Mathlib.Data.List.Induction

/-!
# The snapshot worker

`snapshot/mod.rs`: consumers of the RTP stream store the NAL units a decoder needs, and a timer reads
them. What the supervisor says of its state, and whether it has a receiver to give, comes with each
step. The units of a packet are stored under one lock, so that a tick never sees some of them only. An
aborted consumer may run on until it is cancelled.
-/

namespace Buddy3dProxy.Snapshot

open Transition

def Nal.unitType (u : Nal) : UInt8 := u.data.head?.getD 0 &&& 0x1F

/-- Latest decoder-relevant NAL units. -/
structure LatestParams where
  sps : Option (List UInt8)
  pps : Option (List UInt8)
  idr : Option (List UInt8)
  deriving DecidableEq, Repr

namespace LatestParams

def default : LatestParams := ⟨none, none, none⟩

def store (latest : LatestParams) (u : Nal) : LatestParams :=
  if u.unitType = 7 then { latest with sps := some u.data }
  else if u.unitType = 8 then { latest with pps := some u.data }
  else if u.unitType = 5 then { latest with idr := some u.data }
  else latest

end LatestParams

def startCode : List UInt8 := [0, 0, 0, 1]

/-- What is decoded. -/
def buildAnnexB (sps pps idr : List UInt8) : List UInt8 :=
  startCode ++ sps ++ startCode ++ pps ++ startCode ++ idr

/-- A `consume_rtp` task. -/
structure Consumer where
  reassembler : Reassembler
  aborted : Bool
  finished : Bool
  deriving DecidableEq, Repr

structure Worker where
  latest : LatestParams
  consumers : List Consumer
  /-- The consumer whose handle `run` holds. -/
  currentSession : Option Nat
  /-- The units stored since `latest` was empty, oldest first. -/
  stored : List Nal
  deriving DecidableEq, Repr

inductive WorkerStep where
  /-- The head of the loop of `run`. -/
  | observe (streaming rxAvailable : Bool)
  /-- A consumer receives a packet. -/
  | packet (i : Nat) (payload : List UInt8) (seq : UInt16)
  | lagged (i : Nat)
  | closed (i : Nat)
  | cancelled (i : Nat)
  deriving DecidableEq, Repr

namespace Worker

def new : Worker := ⟨.default, [], none, []⟩

/-- `is_finished` of the handle, or there is none. -/
def needsConsumer (w : Worker) : Bool :=
  match w.currentSession with
  | none => true
  | some i => w.consumers[i]?.any Consumer.finished

def spawn (w : Worker) : Worker :=
  { w with
    consumers := w.consumers ++ [⟨.new, false, false⟩]
    currentSession := some w.consumers.length }

/-- Abort the consumer and forget its units. -/
def endSession (w : Worker) (i : Nat) : Worker :=
  { latest := .default
    consumers := w.consumers.modify i fun c => { c with aborted := true }
    currentSession := none
    stored := [] }

def observe (w : Worker) (streaming rxAvailable : Bool) : Worker :=
  if streaming then
    if w.needsConsumer && rxAvailable then w.spawn else w
  else
    match w.currentSession with
    | some i => w.endSession i
    | none => w

/-- Consumer `i` goes on as `c`. -/
def setConsumer (w : Worker) (i : Nat) (c : Consumer) : Worker :=
  { w with consumers := w.consumers.set i c }

def receive (w : Worker) (i : Nat) (c : Consumer) (payload : List UInt8) (seq : UInt16) : Worker :=
  let (reassembler, nals) := c.reassembler.push payload seq
  { w.setConsumer i { c with reassembler } with
    latest := nals.foldl LatestParams.store w.latest
    stored := w.stored ++ nals }

/-- A step of a consumer that has not finished. -/
def consumerStep (w : Worker) (i : Nat) (next : Consumer → Option Worker) : Option Worker :=
  match w.consumers[i]? with
  | some c => if c.finished then none else next c
  | none => none

def step (w : Worker) : WorkerStep → Option Worker
  | .observe streaming rxAvailable => some (w.observe streaming rxAvailable)
  | .packet i payload seq => w.consumerStep i fun c => some (w.receive i c payload seq)
  | .lagged i => w.consumerStep i fun c => some (w.setConsumer i { c with reassembler := .new })
  | .closed i => w.consumerStep i fun c => some (w.setConsumer i { c with finished := true })
  | .cancelled i => w.consumerStep i fun c =>
      if c.aborted then some (w.setConsumer i { c with finished := true }) else none

/-- What is decoded at a tick. -/
def tick (w : Worker) (streaming : Bool) : Option (List UInt8) :=
  match streaming, w.latest with
  | true, ⟨some sps, some pps, some idr⟩ => some (buildAnnexB sps pps idr)
  | _, _ => none

end Worker

/-- The runs of the worker. -/
def workerSystem : System Worker WorkerStep := ⟨.new, Worker.step⟩

/-! ## The last unit of a type -/

def lastOf (unitType : UInt8) (units : List Nal) : Option (List UInt8) :=
  (units.reverse.find? (·.unitType = unitType)).map Nal.data

theorem lastOf_append (t : UInt8) (xs ys : List Nal) :
    lastOf t (xs ++ ys) = (lastOf t ys).or (lastOf t xs) := by
  rw [lastOf, List.reverse_append, List.find?_append, Option.map_or]
  rfl

theorem lastOf_singleton (t : UInt8) (u : Nal) :
    lastOf t [u] = if u.unitType = t then some u.data else none := by
  by_cases h : u.unitType = t <;> simp [lastOf, h]

theorem lastOf_eq_none {t : UInt8} {units : List Nal} (h : ∀ u ∈ units, u.unitType ≠ t) :
    lastOf t units = none := by
  rw [lastOf, Option.map_eq_none_iff, List.find?_eq_none]
  intro u hu
  simpa using h u (List.mem_reverse.mp hu)

/-- The slots hold the last units of their types. -/
theorem foldl_store (units : List Nal) :
    units.foldl LatestParams.store .default = ⟨lastOf 7 units, lastOf 8 units, lastOf 5 units⟩ := by
  induction units using List.reverseRecOn with
  | nil => rfl
  | append_singleton units u ih =>
    rw [List.foldl_concat, ih, lastOf_append, lastOf_append, lastOf_append, lastOf_singleton,
      lastOf_singleton, lastOf_singleton, LatestParams.store]
    by_cases hsps : u.unitType = 7
    · simp [hsps]
    · by_cases hpps : u.unitType = 8
      · simp [hpps]
      · by_cases hidr : u.unitType = 5 <;> simp [hsps, hpps, hidr]

/-! ## Runs -/

section Runs

variable {w w' : Worker}

theorem Worker.exists_of_consumerStep {i : Nat} {next : Consumer → Option Worker}
    (h : w.consumerStep i next = some w') : ∃ c, next c = some w' := by
  unfold Worker.consumerStep at h
  split at h
  · split at h
    · cases h
    · exact ⟨_, h⟩
  · cases h

/-- The slots hold what the units stored since they were empty leave there. -/
def Worker.Inv (w : Worker) : Prop := w.latest = w.stored.foldl LatestParams.store .default

theorem Worker.Inv.observe (h : w.Inv) (streaming rxAvailable : Bool) :
    (w.observe streaming rxAvailable).Inv := by
  unfold Worker.observe
  split
  · split
    · exact h
    · exact h
  · split
    · rfl
    · exact h

theorem Worker.Inv.receive (h : w.Inv) (i : Nat) (c : Consumer) (payload : List UInt8) (seq : UInt16) :
    (w.receive i c payload seq).Inv := by
  unfold Worker.receive Worker.Inv
  rw [List.foldl_append, ← h]

theorem Worker.Inv.step {a : WorkerStep} (h : w.Inv) (hs : w.step a = some w') : w'.Inv := by
  cases a with
  | observe streaming rxAvailable =>
    obtain rfl := Option.some.inj hs
    exact h.observe streaming rxAvailable
  | packet i payload seq =>
    obtain ⟨c, hnext⟩ := Worker.exists_of_consumerStep hs
    obtain rfl := Option.some.inj hnext
    exact h.receive i c payload seq
  | lagged i =>
    obtain ⟨c, hnext⟩ := Worker.exists_of_consumerStep hs
    obtain rfl := Option.some.inj hnext
    exact h
  | closed i =>
    obtain ⟨c, hnext⟩ := Worker.exists_of_consumerStep hs
    obtain rfl := Option.some.inj hnext
    exact h
  | cancelled i =>
    obtain ⟨c, hnext⟩ := Worker.exists_of_consumerStep hs
    split at hnext
    · obtain rfl := Option.some.inj hnext
      exact h
    · cases hnext

theorem inv_reachable (h : Reachable workerSystem w) : w.Inv := by
  apply h.induct (P := Worker.Inv)
  · rfl
  · intro w a w' _ _ hs hw
    exact hw.step hs

/-- At a tick, what is decoded is the last SPS, PPS and IDR. -/
theorem exists_of_tick (h : Reachable workerSystem w) {streaming : Bool} {bytes : List UInt8}
    (htick : w.tick streaming = some bytes) :
    ∃ sps pps idr, bytes = buildAnnexB sps pps idr ∧ w.latest = ⟨some sps, some pps, some idr⟩ ∧
      lastOf 7 w.stored = some sps ∧ lastOf 8 w.stored = some pps ∧ lastOf 5 w.stored = some idr := by
  have hlatest := (inv_reachable h).trans (foldl_store w.stored)
  unfold Worker.tick at htick
  split at htick
  next sps pps idr hslots =>
    rw [hslots, LatestParams.mk.injEq] at hlatest
    obtain ⟨hsps, hpps, hidr⟩ := hlatest
    exact ⟨sps, pps, idr, (Option.some.inj htick).symm, hslots, hsps.symm, hpps.symm, hidr.symm⟩
  · cases htick

end Runs

/-! ## Parameter sets and pictures -/

/-- The last IDR among `units` stands between `pre` and `post`. -/
structure LastIdr (units pre : List Nal) (idr : Nal) (post : List Nal) : Prop where
  split : units = pre ++ idr :: post
  isIdr : idr.unitType = 5
  last : ∀ u ∈ post, u.unitType ≠ 5

/-- `sps` and `pps` are the most recent ones before the last IDR, which is `idr`. -/
def Consistent (units : List Nal) (sps pps idr : List UInt8) : Prop :=
  ∃ pre u post, LastIdr units pre u post ∧ u.data = idr ∧ lastOf 7 pre = some sps ∧
    lastOf 8 pre = some pps

/-- An SPS and a PPS come before the last IDR, and the last ones after it, if there are any, are the
same. -/
def ParamsKept (units : List Nal) : Prop :=
  ∃ pre u post, LastIdr units pre u post ∧ ∀ t ∈ [7, 8], ∃ data, lastOf t pre = some data ∧
    ∀ data', lastOf t post = some data' → data' = data

section Params

variable {units pre post : List Nal} {u : Nal} {t : UInt8} {data : List UInt8}

/-- The last IDR stands in one place only. -/
theorem LastIdr.pre_eq {pre' post' : List Nal} {u' : Nal} (h : LastIdr units pre u post)
    (h' : LastIdr units pre' u' post') : pre = pre' := by
  rcases List.append_eq_append_iff.mp (h.split.symm.trans h'.split) with
    ⟨between, hpre, hrest⟩ | ⟨between, hpre, hrest⟩
  · cases between with
    | nil => rw [hpre, List.append_nil]
    | cons x between =>
      have hlater : u' ∈ post := by
        rw [(List.cons.inj hrest).2]
        simp
      exact absurd h'.isIdr (h.last u' hlater)
  · cases between with
    | nil => rw [hpre, List.append_nil]
    | cons x between =>
      have hlater : u ∈ post' := by
        rw [(List.cons.inj hrest).2]
        simp
      exact absurd h.isIdr (h'.last u hlater)

theorem LastIdr.lastOf_idr (h : LastIdr units pre u post) : lastOf 5 units = some u.data := by
  rw [h.split, lastOf_append, ← List.singleton_append, lastOf_append, lastOf_singleton,
    if_pos h.isIdr, lastOf_eq_none h.last]
  rfl

theorem LastIdr.lastOf_of_ne (h : LastIdr units pre u post) (ht : t ≠ 5) :
    lastOf t units = (lastOf t post).or (lastOf t pre) := by
  have hidr : u.unitType ≠ t := by
    rw [h.isIdr]
    exact ht.symm
  rw [h.split, lastOf_append, ← List.singleton_append, lastOf_append, lastOf_singleton, if_neg hidr,
    Option.or_none]

/-- The last unit of a type is the one before the IDR just if nothing after the IDR differs from it. -/
theorem LastIdr.lastOf_pre_iff (h : LastIdr units pre u post) (ht : t ≠ 5)
    (hlast : lastOf t units = some data) :
    lastOf t pre = some data ↔ ∃ found, lastOf t pre = some found ∧
      ∀ data', lastOf t post = some data' → data' = found := by
  rw [h.lastOf_of_ne ht] at hlast
  constructor
  · intro hpre
    refine ⟨data, hpre, ?_⟩
    intro data' hpost
    rw [hpost, Option.some_or] at hlast
    exact Option.some.inj hlast
  · rintro ⟨found, hpre, hpost⟩
    cases hafter : lastOf t post with
    | none =>
      rw [hafter, Option.none_or] at hlast
      exact hlast
    | some data' =>
      rw [hafter, Option.some_or] at hlast
      rw [hpre, ← hpost data' hafter]
      exact hlast

theorem consistent_iff {sps pps idr : List UInt8} (hsps : lastOf 7 units = some sps)
    (hpps : lastOf 8 units = some pps) (hidr : lastOf 5 units = some idr) :
    Consistent units sps pps idr ↔ ParamsKept units := by
  constructor
  · rintro ⟨pre, u, post, hu, -, hpre7, hpre8⟩
    refine ⟨pre, u, post, hu, ?_⟩
    simp only [List.forall_mem_cons, List.not_mem_nil, false_imp_iff, implies_true, and_true]
    exact ⟨(hu.lastOf_pre_iff (by decide) hsps).mp hpre7, (hu.lastOf_pre_iff (by decide) hpps).mp hpre8⟩
  · rintro ⟨pre, u, post, hu, hkept⟩
    refine ⟨pre, u, post, hu, ?_, ?_, ?_⟩
    · rw [hu.lastOf_idr] at hidr
      exact Option.some.inj hidr
    · exact (hu.lastOf_pre_iff (by decide) hsps).mpr (hkept 7 (by simp))
    · exact (hu.lastOf_pre_iff (by decide) hpps).mpr (hkept 8 (by simp))

end Params

/-- At any tick, the SPS and PPS that are decoded with the last IDR are the most recent ones before it
just if there were some and none that differ came after it. -/
theorem tick_consistent_iff {w : Worker} (h : Reachable workerSystem w) {streaming : Bool}
    {bytes : List UInt8} (htick : w.tick streaming = some bytes) :
    ∃ sps pps idr, bytes = buildAnnexB sps pps idr ∧ w.latest = ⟨some sps, some pps, some idr⟩ ∧
      (Consistent w.stored sps pps idr ↔ ParamsKept w.stored) := by
  obtain ⟨sps, pps, idr, hbytes, hlatest, hsps, hpps, hidr⟩ := exists_of_tick h htick
  exact ⟨sps, pps, idr, hbytes, hlatest, consistent_iff hsps hpps hidr⟩

namespace Sample

def keyframe : List WorkerStep :=
  [.observe true true, .packet 0 [0x67, 1] 1, .packet 0 [0x68, 1] 2, .packet 0 [0x65, 1] 3]

/-- The parameter sets of the next keyframe are there, and its IDR is not. -/
def nextParams : List WorkerStep := keyframe ++ [.packet 0 [0x67, 2] 4, .packet 0 [0x68, 2] 5]

end Sample

/-- A tick between two keyframes. -/
theorem tick_consistent_keyframe :
    ∃ w, Reachable workerSystem w ∧ ∃ sps pps idr, w.tick true = some (buildAnnexB sps pps idr) ∧
      Consistent w.stored sps pps idr := by
  obtain ⟨w, hreach, hw⟩ := exists_reachable_of_run workerSystem Sample.keyframe
    (fun w => w.tick true = some (buildAnnexB [0x67, 1] [0x68, 1] [0x65, 1]) &&
      w.stored = [⟨[0x67, 1]⟩, ⟨[0x68, 1]⟩, ⟨[0x65, 1]⟩]) (by decide +kernel)
  obtain ⟨htick, hstored⟩ : w.tick true = some (buildAnnexB [0x67, 1] [0x68, 1] [0x65, 1]) ∧
      w.stored = [⟨[0x67, 1]⟩, ⟨[0x68, 1]⟩, ⟨[0x65, 1]⟩] := by
    simpa using hw
  obtain ⟨sps, pps, idr, hbytes, -, hiff⟩ := tick_consistent_iff hreach htick
  refine ⟨w, hreach, sps, pps, idr, hbytes ▸ htick, hiff.mpr ?_⟩
  have hidr : LastIdr w.stored [⟨[0x67, 1]⟩, ⟨[0x68, 1]⟩] ⟨[0x65, 1]⟩ [] :=
    ⟨hstored, by decide, by simp⟩
  refine ⟨_, _, _, hidr, ?_⟩
  intro t ht
  rcases List.mem_pair.mp ht with rfl | rfl
  · exact ⟨[0x67, 1], by decide, by simp [lastOf]⟩
  · exact ⟨[0x68, 1], by decide, by simp [lastOf]⟩

/-- A tick between the parameter sets of a keyframe and its IDR: the IDR before is decoded with them. -/
theorem not_tick_consistent_nextParams :
    ∃ w, Reachable workerSystem w ∧ w.tick true = some (buildAnnexB [0x67, 2] [0x68, 2] [0x65, 1]) ∧
      w.latest = ⟨some [0x67, 2], some [0x68, 2], some [0x65, 1]⟩ ∧
      ¬ Consistent w.stored [0x67, 2] [0x68, 2] [0x65, 1] := by
  obtain ⟨w, hreach, hw⟩ := exists_reachable_of_run workerSystem Sample.nextParams
    (fun w => w.latest = ⟨some [0x67, 2], some [0x68, 2], some [0x65, 1]⟩ &&
      w.stored = [⟨[0x67, 1]⟩, ⟨[0x68, 1]⟩, ⟨[0x65, 1]⟩, ⟨[0x67, 2]⟩, ⟨[0x68, 2]⟩]) (by decide +kernel)
  obtain ⟨hlatest, hstored⟩ : w.latest = ⟨some [0x67, 2], some [0x68, 2], some [0x65, 1]⟩ ∧
      w.stored = [⟨[0x67, 1]⟩, ⟨[0x68, 1]⟩, ⟨[0x65, 1]⟩, ⟨[0x67, 2]⟩, ⟨[0x68, 2]⟩] := by
    simpa using hw
  have htick : w.tick true = some (buildAnnexB [0x67, 2] [0x68, 2] [0x65, 1]) := by
    unfold Worker.tick
    rw [hlatest]
  refine ⟨w, hreach, htick, hlatest, ?_⟩
  rintro ⟨pre, u, post, hu, -, hsps, -⟩
  have hidr : LastIdr w.stored [⟨[0x67, 1]⟩, ⟨[0x68, 1]⟩] ⟨[0x65, 1]⟩ [⟨[0x67, 2]⟩, ⟨[0x68, 2]⟩] :=
    ⟨hstored, by decide, by decide⟩
  rw [hu.pre_eq hidr] at hsps
  exact absurd hsps (by decide)

end Buddy3dProxy.Snapshot
