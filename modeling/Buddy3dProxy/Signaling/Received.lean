import Buddy3dProxy.Rust.Numbered
import Buddy3dProxy.Signaling.Correlation

/-!
# The map of received attachments

The correlator of `prusa/signaling/socketio.rs` with its hash map: the attachments of a pending event
are kept under the numbers counted from the size of the map, and every call has the state it leaves
behind, also when it fails. It implements the correlator that keeps them in a list.
-/

namespace Buddy3dProxy.Signaling.Keyed

open SocketIo (Serde Event CorrelatorError)
open Rust (Numbered)

structure PendingBinaryEvent where
  name : String
  expected : UInt32
  received : Std.HashMap UInt32 (List UInt8)

structure Correlator where
  pending : Option PendingBinaryEvent

/-- What the map has under the numbers of the attachments, in their order. -/
def PendingBinaryEvent.lookups (p : PendingBinaryEvent) : List (Option (List UInt8)) :=
  (List.range p.expected.toNat).map fun i => p.received[UInt32.ofNat i]?

/-- The attachments of an event: empty where one is missing. -/
def PendingBinaryEvent.attachments (p : PendingBinaryEvent) : List (List UInt8) :=
  p.lookups.map fun found => found.getD []

/-- The event with one more attachment. -/
def PendingBinaryEvent.receive (p : PendingBinaryEvent) (payload : List UInt8) : PendingBinaryEvent :=
  { p with received := p.received.insert (Rust.len p.received) payload }

namespace Correlator

def new : Correlator := ⟨none⟩

def feedText (serde : Serde) (c : Correlator) (frame : String) :
    Correlator × Except CorrelatorError (Option Event) :=
  match c.pending with
  | some p => (c, .error (.interleavedText (Rust.len p.received) p.expected))
  | none =>
    match SocketIo.parseText serde frame with
    | .error e => (c, .error (.parse e))
    | .ok (.connect auth) => (c, .ok (some (.connected auth)))
    | .ok .disconnect => (c, .ok (some .disconnected))
    | .ok (.event _ name args) => (c, .ok (some (.text name args)))
    | .ok (.ack id args) => (c, .ok (some (.ack id args)))
    | .ok (.binaryEventHeader attachmentCount _ name _) =>
      if attachmentCount = 0 then (c, .ok (some (.binary name [])))
      else (⟨some ⟨name, attachmentCount, ∅⟩⟩, .ok none)

def feedBinary (c : Correlator) (payload : List UInt8) :
    Correlator × Except CorrelatorError (Option Event) :=
  match c.pending with
  | none => (c, .error .unexpectedBinary)
  | some p =>
    let nextNum := Rust.len p.received
    if p.expected ≤ nextNum then (c, .error (.tooManyBinaries (nextNum + 1) p.expected))
    else if Rust.len (p.receive payload).received = p.expected then
      (⟨none⟩, .ok (some (.binary p.name (p.receive payload).attachments)))
    else (⟨some (p.receive payload)⟩, .ok none)

end Correlator

section Feed

variable (serde : Serde)

def feed (c : Correlator) : Fed → Correlator × Except CorrelatorError (Option Event)
  | .text packet => c.feedText serde packet
  | .binary payload => c.feedBinary payload

/-- The correlator after frames that were fed to a new one. -/
def afterFrames (frames : List Fed) : Correlator := frames.foldl (fun c f => (feed serde c f).1) .new

end Feed

/-! ## One frame -/

/-- What a packet can do. -/
inductive FedText (c : Correlator) : Correlator × Except CorrelatorError (Option Event) → Prop where
  | interleaved (received expected : UInt32) : FedText c (c, .error (.interleavedText received expected))
  | parse (e : SocketIo.ParseError) : FedText c (c, .error (.parse e))
  | event (event : Event) : (∀ name attachments, event = .binary name attachments → attachments = []) →
      FedText c (c, .ok (some event))
  | header (name : String) (expected : UInt32) : FedText c (⟨some ⟨name, expected, ∅⟩⟩, .ok none)

theorem feedText_fedText (serde : Serde) (c : Correlator) (packet : String) :
    FedText c (c.feedText serde packet) := by
  unfold Correlator.feedText
  cases c.pending with
  | some p => exact .interleaved _ _
  | none =>
    cases SocketIo.parseText serde packet with
    | error e => exact .parse e
    | ok parsed =>
      cases parsed with
      | binaryEventHeader count id name placeholders =>
        by_cases hcount : count = 0
        · simp only [if_pos hcount]
          refine .event _ ?_
          rintro _ _ ⟨rfl, rfl⟩
          rfl
        · simp only [if_neg hcount]
          exact .header name count
      | _ => exact .event _ (by simp)

/-- A call that fails changes nothing. -/
theorem feed_of_error {serde : Serde} {c : Correlator} {f : Fed} {e : CorrelatorError}
    (h : (feed serde c f).2 = .error e) : (feed serde c f).1 = c := by
  cases f with
  | text packet =>
    have hfed := feedText_fedText serde c packet
    rw [feed] at h ⊢
    generalize c.feedText serde packet = result at h hfed
    cases hfed with
    | interleaved received expected => rfl
    | parse e => rfl
    | event event hevent => cases h
    | header name expected => cases h
  | binary payload =>
    cases hp : c.pending with
    | none => simp only [feed, Correlator.feedBinary, hp]
    | some p =>
      by_cases hfull : p.expected ≤ Rust.len p.received
      · simp only [feed, Correlator.feedBinary, hp, if_pos hfull]
      · by_cases hlast : Rust.len (p.receive payload).received = p.expected <;>
          simp [feed, Correlator.feedBinary, hp, hfull, hlast] at h

/-- The same event is pending, its attachments numbered as in the list. -/
structure Holds (p : PendingBinaryEvent) (q : SocketIo.PendingBinaryEvent) : Prop where
  name : p.name = q.name
  expected : p.expected = q.expected
  received : Numbered p.received q.received
  missing : q.received.length < q.expected.toNat

def Implements (k : Correlator) (c : SocketIo.Correlator) : Prop :=
  Option.Rel Holds k.pending c.pending

section Frame

variable {p : PendingBinaryEvent} {q : SocketIo.PendingBinaryEvent}

theorem Holds.toNat_len (h : Holds p q) : (Rust.len p.received).toNat = q.received.length :=
  h.received.toNat_len (h.missing.trans q.expected.toNat_lt)

theorem Holds.received_receive (h : Holds p q) (payload : List UInt8) :
    Numbered (p.receive payload).received (q.received ++ [payload]) :=
  h.received.insert (h.missing.trans q.expected.toNat_lt) payload

/-- The last attachment completes the list, and none is looked up in vain. -/
theorem Holds.lookups_receive (h : Holds p q) {payload : List UInt8}
    (hlast : q.received.length + 1 = q.expected.toNat) :
    (p.receive payload).lookups = (q.received ++ [payload]).map some := by
  have hlen : p.expected.toNat = (q.received ++ [payload]).length := by
    rw [h.expected, ← hlast, List.length_append, List.length_singleton]
  have hsize : (q.received ++ [payload]).length < 4294967296 := by
    rw [← hlen]
    exact p.expected.toNat_lt
  have hlookups := (h.received_receive payload).map_getElem? hsize
  rw [← hlen] at hlookups
  exact hlookups

theorem Holds.attachments_receive (h : Holds p q) {payload : List UInt8}
    (hlast : q.received.length + 1 = q.expected.toNat) :
    (p.receive payload).attachments = q.received ++ [payload] := by
  rw [PendingBinaryEvent.attachments, h.lookups_receive hlast, List.map_map]
  exact List.map_id _

/-- A pending event takes a binary frame as its next attachment. -/
theorem feedBinary_of_holds {k : Correlator} (hp : k.pending = some p) (h : Holds p q)
    (payload : List UInt8) :
    k.feedBinary payload =
      if q.received.length + 1 = q.expected.toNat then
        (⟨none⟩, .ok (some (.binary p.name (p.receive payload).attachments)))
      else (⟨some (p.receive payload)⟩, .ok none) := by
  have hroom : ¬ p.expected ≤ Rust.len p.received := by
    rw [UInt32.le_iff_toNat_le, h.toNat_len, h.expected]
    exact Nat.not_le_of_lt h.missing
  have hlast : Rust.len (p.receive payload).received = p.expected ↔
      q.received.length + 1 = q.expected.toNat := by
    have hsize := q.expected.toNat_lt
    have hmissing := h.missing
    rw [← UInt32.toNat_inj, Rust.len, (h.received_receive payload).size, UInt32.toNat_ofNat', h.expected,
      List.length_append, List.length_singleton]
    omega
  unfold Correlator.feedBinary
  rw [hp]
  simp only [if_neg hroom, hlast]

end Frame

/-! ## Implementation of the list -/

section Runs

variable {serde : Serde} {k : Correlator} {c : SocketIo.Correlator}

/-- While nothing is pending, both take a packet alike. -/
theorem text_implements (hk : k.pending = none) (hc : c.pending = none) (packet : String) :
    Implements (feed serde k (.text packet)).1 (afterFrame serde c (.text packet)) ∧
      (feed serde k (.text packet)).2 = (Signaling.feed serde c (.text packet)).map Prod.snd := by
  have hidle : Implements k c := by
    rw [Implements, hk, hc]
    exact .none
  cases hparse : SocketIo.parseText serde packet with
  | error e =>
    simp only [feed, Correlator.feedText, hk, hparse, afterFrame, Signaling.feed,
      SocketIo.Correlator.feedText, hc]
    exact ⟨hidle, rfl⟩
  | ok parsed =>
    cases parsed with
    | binaryEventHeader count id name placeholders =>
      by_cases hzero : count = 0
      · simp only [feed, Correlator.feedText, hk, hparse, afterFrame, Signaling.feed,
          SocketIo.Correlator.feedText, hc, if_pos hzero]
        exact ⟨hidle, rfl⟩
      · have hpos : 0 < count.toNat := by
          have hne : count.toNat ≠ (0 : UInt32).toNat := fun h => hzero (UInt32.toNat_inj.mp h)
          exact Nat.pos_of_ne_zero hne
        simp only [feed, Correlator.feedText, hk, hparse, afterFrame, Signaling.feed,
          SocketIo.Correlator.feedText, hc, if_neg hzero]
        exact ⟨.some ⟨rfl, rfl, .empty, hpos⟩, rfl⟩
    | _ =>
      simp only [feed, Correlator.feedText, hk, hparse, afterFrame, Signaling.feed,
        SocketIo.Correlator.feedText, hc]
      exact ⟨hidle, rfl⟩

/-- One frame does to the map what it does to the list, with the same result. -/
theorem feed_implements (h : Implements k c) (f : Fed) :
    Implements (feed serde k f).1 (afterFrame serde c f) ∧
      (feed serde k f).2 = (Signaling.feed serde c f).map Prod.snd := by
  have hsame := h
  rw [Implements] at h
  cases hk : k.pending with
  | none =>
    cases hc : c.pending with
    | none =>
      cases f with
      | text packet => exact text_implements hk hc packet
      | binary payload =>
        simp only [feed, Correlator.feedBinary, hk, afterFrame, Signaling.feed,
          SocketIo.Correlator.feedBinary, hc]
        exact ⟨hsame, rfl⟩
    | some q =>
      rw [hk, hc] at h
      cases h
  | some p =>
    cases hc : c.pending with
    | none =>
      rw [hk, hc] at h
      cases h
    | some q =>
      rw [hk, hc] at h
      have hholds : Holds p q := by
        cases h with
        | some hholds => exact hholds
      cases f with
      | text packet =>
        have hlen : Rust.len p.received = UInt32.ofNat q.received.length := by
          rw [Rust.len, hholds.received.size]
        simp only [feed, Correlator.feedText, hk, afterFrame, Signaling.feed,
          SocketIo.Correlator.feedText, hc, hlen, hholds.expected]
        exact ⟨hsame, rfl⟩
      | binary payload =>
        have hmissing := hholds.missing
        simp only [feed, feedBinary_of_holds hk hholds, afterFrame, Signaling.feed,
          feedBinary_of_pending hc hmissing]
        by_cases hlast : q.received.length + 1 = q.expected.toNat
        · rw [if_pos hlast, if_pos hlast, hholds.attachments_receive hlast, hholds.name]
          exact ⟨.none, rfl⟩
        · have hmore : (q.received ++ [payload]).length < q.expected.toNat := by
            rw [List.length_append, List.length_singleton]
            omega
          rw [if_neg hlast, if_neg hlast]
          exact ⟨.some ⟨hholds.name, hholds.expected, hholds.received_receive payload, hmore⟩, rfl⟩

theorem afterFrames_implements (serde : Serde) (frames : List Fed) :
    Implements (afterFrames serde frames) (Signaling.afterFrames serde frames) := by
  induction frames using List.reverseRecOn with
  | nil => exact .none
  | append_singleton frames f ih =>
    rw [afterFrames, List.foldl_concat, Signaling.afterFrames_snoc]
    exact (feed_implements ih f).1

/-- A pending event stands for one of the list. -/
theorem exists_holds {frames : List Fed} {p : PendingBinaryEvent}
    (hp : (afterFrames serde frames).pending = some p) : ∃ q, Holds p q := by
  have himpl := afterFrames_implements serde frames
  rw [Implements, hp] at himpl
  cases hq : (Signaling.afterFrames serde frames).pending with
  | none =>
    rw [hq] at himpl
    cases himpl
  | some q =>
    rw [hq] at himpl
    cases himpl with
    | some hholds => exact ⟨q, hholds⟩

/-- No binary frame is one too many. -/
theorem feed_ne_tooManyBinaries (h : ∀ p, k.pending = some p → ∃ q, Holds p q) (f : Fed)
    (n expected : UInt32) : (feed serde k f).2 ≠ .error (.tooManyBinaries n expected) := by
  intro herror
  cases f with
  | text packet =>
    have hfed := feedText_fedText serde k packet
    rw [feed] at herror
    generalize k.feedText serde packet = result at herror hfed
    cases hfed <;> cases herror
  | binary payload =>
    cases hk : k.pending with
    | none => simp [feed, Correlator.feedBinary, hk] at herror
    | some p =>
      obtain ⟨q, hholds⟩ := h p hk
      rw [feed, feedBinary_of_holds hk hholds] at herror
      split at herror <;> cases herror

/-- A delivered event has no attachments, or each of them was found in the map. -/
theorem lookups_of_feed (h : ∀ p, k.pending = some p → ∃ q, Holds p q) {f : Fed} {name : String}
    {attachments : List (List UInt8)}
    (hdelivered : (feed serde k f).2 = .ok (some (.binary name attachments))) :
    attachments = [] ∨ ∃ p payload, k.pending = some p ∧ f = .binary payload ∧
      (p.receive payload).lookups = attachments.map some := by
  cases f with
  | text packet =>
    left
    have hfed := feedText_fedText serde k packet
    rw [feed] at hdelivered
    generalize k.feedText serde packet = result at hdelivered hfed
    cases hfed with
    | interleaved received expected => cases hdelivered
    | parse e => cases hdelivered
    | event event hevent =>
      cases hdelivered
      exact hevent name attachments rfl
    | header name expected => cases hdelivered
  | binary payload =>
    right
    cases hk : k.pending with
    | none => simp [feed, Correlator.feedBinary, hk] at hdelivered
    | some p =>
      obtain ⟨q, hholds⟩ := h p hk
      rw [feed, feedBinary_of_holds hk hholds] at hdelivered
      split at hdelivered
      next hlast =>
        cases hdelivered
        refine ⟨p, payload, rfl, rfl, ?_⟩
        rw [hholds.attachments_receive hlast, hholds.lookups_receive hlast]
      · cases hdelivered

/-- After any frames: a pending event lacks attachments, those it has are numbered from 0, no binary
frame is one too many, each attachment of a delivered event was found in the map, and a call that fails
changes nothing. -/
theorem received_numbered (serde : Serde) (frames : List Fed) :
    (∀ p, (afterFrames serde frames).pending = some p → p.received.size < p.expected.toNat ∧
      ∀ number : UInt32, number ∈ p.received ↔ number.toNat < p.received.size) ∧
    ∀ f, (∀ n expected, (feed serde (afterFrames serde frames) f).2 ≠
        .error (.tooManyBinaries n expected)) ∧
      (∀ name attachments, (feed serde (afterFrames serde frames) f).2 =
          .ok (some (.binary name attachments)) →
        attachments = [] ∨ ∃ p payload, (afterFrames serde frames).pending = some p ∧
          f = .binary payload ∧ (p.receive payload).lookups = attachments.map some) ∧
      ∀ e, (feed serde (afterFrames serde frames) f).2 = .error e →
        (feed serde (afterFrames serde frames) f).1 = afterFrames serde frames := by
  have hholds : ∀ p, (afterFrames serde frames).pending = some p → ∃ q, Holds p q := by
    intro p hp
    exact exists_holds hp
  refine ⟨?_, ?_⟩
  · intro p hp
    obtain ⟨q, hpq⟩ := hholds p hp
    refine ⟨?_, hpq.received.mem_iff⟩
    rw [hpq.received.size, hpq.expected]
    exact hpq.missing
  · intro f
    refine ⟨feed_ne_tooManyBinaries hholds f, ?_, ?_⟩
    · intro name attachments hevent
      exact lookups_of_feed hholds hevent
    · intro e herror
      exact feed_of_error herror

end Runs

end Buddy3dProxy.Signaling.Keyed
