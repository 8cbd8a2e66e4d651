import Buddy3dProxy.Signaling.Transport

/-!
# Headers and their attachments

The driver of `prusa/signaling/client.rs` feeds its correlator whatever arrives and only logs the
errors. Which binary frames end up with which event header when frames are lost or out of place.
-/

namespace Buddy3dProxy.Signaling

open SocketIo (Serde Correlator Event CorrelatorError PendingBinaryEvent)

/-- What is fed to a correlator: the packet of a text frame, or a binary frame. -/
inductive Fed where
  | text (packet : String)
  | binary (payload : List UInt8)
  deriving DecidableEq, Repr

section Feed

variable (serde : Serde)

def feed (c : Correlator) : Fed → Except CorrelatorError (Correlator × Option Event)
  | .text packet => c.feedText serde packet
  | .binary payload => c.feedBinary payload

/-- The correlator after a frame; an error leaves it as it was. -/
def afterFrame (c : Correlator) (f : Fed) : Correlator :=
  match feed serde c f with
  | .ok (c, _) => c
  | .error _ => c

/-- The event that a frame delivers. -/
def delivered (c : Correlator) (f : Fed) : Option Event :=
  match feed serde c f with
  | .ok (_, event) => event
  | .error _ => none

/-- The correlator after frames that were fed to a new one. -/
def afterFrames (frames : List Fed) : Correlator := frames.foldl (afterFrame serde) .new

end Feed

def binaries : List Fed → List (List UInt8)
  | [] => []
  | .text _ :: rest => binaries rest
  | .binary payload :: rest => payload :: binaries rest

/-- `header` is the header of the event for which the correlator waits along `frames`: it came when
nothing was pending, and its event is pending before each of `frames`. -/
structure OwnHeader (serde : Serde) (pre : List Fed) (header : String) (frames : List Fed) : Prop where
  idle : (afterFrames serde pre).pending = none
  pending : ∀ front f rest, frames = front ++ f :: rest →
    (afterFrames serde (pre ++ .text header :: front)).pending ≠ none

/-- Each binary event that is delivered has the name in its own header, and its attachments are the
frames after that header. -/
def Paired (serde : Serde) (frames : List Fed) : Prop :=
  ∀ front f rest name attachments, frames = front ++ f :: rest →
    delivered serde (afterFrames serde front) f = some (.binary name attachments) →
      ∃ pre header, front ++ [f] = pre ++ .text header :: attachments.map .binary ∧
        OwnHeader serde pre header (attachments.map .binary) ∧
        ∃ count id placeholders, SocketIo.parseText serde header =
          .ok (.binaryEventHeader count id name placeholders) ∧ count.toNat = attachments.length

/-- A text frame that comes while an event waits for attachments is followed by fewer binary frames
than are missing. -/
def NoEarlyText (serde : Serde) (frames : List Fed) : Prop :=
  ∀ pre packet post p, frames = pre ++ .text packet :: post →
    (afterFrames serde pre).pending = some p →
      p.received.length + (binaries post).length < p.expected.toNat

/-! ## One frame -/

section Frame

variable {serde : Serde} {c : Correlator} {p : PendingBinaryEvent}

/-- Packets are rejected while an event is pending. -/
theorem text_of_pending (hp : c.pending = some p) (packet : String) :
    afterFrame serde c (.text packet) = c ∧ delivered serde c (.text packet) = none := by
  simp [afterFrame, delivered, feed, Correlator.feedText, hp]

theorem binary_of_idle (hp : c.pending = none) (payload : List UInt8) :
    afterFrame serde c (.binary payload) = c ∧ delivered serde c (.binary payload) = none := by
  simp [afterFrame, delivered, feed, Correlator.feedBinary, hp]

/-- A pending event takes a binary frame as its next attachment. -/
theorem feedBinary_of_pending (hp : c.pending = some p)
    (hlt : p.received.length < p.expected.toNat) (payload : List UInt8) :
    c.feedBinary payload =
      if p.received.length + 1 = p.expected.toNat then
        .ok (⟨none⟩, some (.binary p.name (p.received ++ [payload])))
      else .ok (⟨some ⟨p.name, p.expected, p.received ++ [payload]⟩⟩, none) := by
  have hsize := p.expected.toNat_lt
  have hroom : ¬ p.expected ≤ UInt32.ofNat p.received.length := by
    rw [UInt32.le_iff_toNat_le, UInt32.toNat_ofNat']
    omega
  have hlast : UInt32.ofNat (p.received ++ [payload]).length = p.expected ↔
      p.received.length + 1 = p.expected.toNat := by
    rw [← UInt32.toNat_inj, UInt32.toNat_ofNat', List.length_append, List.length_singleton]
    omega
  unfold Correlator.feedBinary
  rw [hp]
  simp only [if_neg hroom, hlast]

theorem binary_of_pending (serde : Serde) (hp : c.pending = some p)
    (hlt : p.received.length < p.expected.toNat) (payload : List UInt8) :
    (p.received.length + 1 = p.expected.toNat ∧
        afterFrame serde c (.binary payload) = ⟨none⟩ ∧
        delivered serde c (.binary payload) = some (.binary p.name (p.received ++ [payload]))) ∨
      (p.received.length + 1 < p.expected.toNat ∧
        afterFrame serde c (.binary payload) =
          ⟨some ⟨p.name, p.expected, p.received ++ [payload]⟩⟩ ∧
        delivered serde c (.binary payload) = none) := by
  by_cases hdone : p.received.length + 1 = p.expected.toNat
  · left
    simp [afterFrame, delivered, feed, feedBinary_of_pending hp hlt, hdone]
  · right
    refine ⟨by omega, ?_⟩
    simp [afterFrame, delivered, feed, feedBinary_of_pending hp hlt, hdone]

/-- What a packet does when nothing is pending: a header with attachments to come makes its event
pending, and one without is delivered at once. -/
theorem text_of_idle (hp : c.pending = none) (packet : String) :
    (∀ name attachments, delivered serde c (.text packet) = some (.binary name attachments) →
        attachments = [] ∧ ∃ id placeholders,
          SocketIo.parseText serde packet = .ok (.binaryEventHeader 0 id name placeholders)) ∧
      ∀ p, (afterFrame serde c (.text packet)).pending = some p →
        p.received = [] ∧ 0 < p.expected.toNat ∧ ∃ id placeholders,
          SocketIo.parseText serde packet =
            .ok (.binaryEventHeader p.expected id p.name placeholders) := by
  cases hparse : SocketIo.parseText serde packet with
  | error e => simp [afterFrame, delivered, feed, Correlator.feedText, hp, hparse]
  | ok packet =>
    cases packet with
    | binaryEventHeader count id name placeholders =>
      by_cases hzero : count = 0
      · simp [afterFrame, delivered, feed, Correlator.feedText, hp, hparse, hzero]
      · have hpos : 0 < count.toNat := by
          have hne : count.toNat ≠ (0 : UInt32).toNat := fun h => hzero (UInt32.toNat_inj.mp h)
          exact Nat.pos_of_ne_zero hne
        simp [afterFrame, delivered, feed, Correlator.feedText, hp, hparse, hzero, hpos]
    | _ => simp [afterFrame, delivered, feed, Correlator.feedText, hp, hparse]

end Frame

/-! ## Sequences of frames -/

section Frames

variable {serde : Serde}

theorem afterFrames_snoc (frames : List Fed) (f : Fed) :
    afterFrames serde (frames ++ [f]) = afterFrame serde (afterFrames serde frames) f := by
  simp [afterFrames]

theorem binaries_append (xs ys : List Fed) : binaries (xs ++ ys) = binaries xs ++ binaries ys := by
  induction xs with
  | nil => rfl
  | cons x xs ih => cases x <;> simp [binaries, ih]

/-- Frames among which there is no packet are their payloads. -/
theorem eq_map_binaries {frames : List Fed} (h : ∀ packet, .text packet ∉ frames) :
    frames = (binaries frames).map .binary := by
  induction frames with
  | nil => rfl
  | cons f rest ih =>
    have hrest : rest = (binaries rest).map .binary :=
      ih fun packet hmem => h packet (List.mem_cons_of_mem _ hmem)
    cases f with
    | text packet => exact absurd List.mem_cons_self (h packet)
    | binary payload => rw [binaries, List.map_cons, ← hrest]

/-- Along `frames`, the event that `header` announced is pending with the binary frames so far. -/
structure Waits (serde : Serde) (pre : List Fed) (header : String) (frames : List Fed) (name : String)
    (expected : UInt32) : Prop where
  idle : (afterFrames serde pre).pending = none
  pending : ∀ front, front <+: frames →
    (afterFrames serde (pre ++ .text header :: front)).pending = some ⟨name, expected, binaries front⟩
  missing : (binaries frames).length < expected.toNat
  parsed : ∃ id placeholders, SocketIo.parseText serde header =
    .ok (.binaryEventHeader expected id name placeholders)

section Waits

variable {pre frames : List Fed} {header name : String} {expected : UInt32}

theorem Waits.ownHeader (h : Waits serde pre header frames name expected) (f : Fed) :
    OwnHeader serde pre header (frames ++ [f]) where
  idle := h.idle
  pending := by
    intro front g rest heq
    have hfront : front <+: frames := by
      have hpre : front <+: frames ++ [f] := ⟨g :: rest, heq.symm⟩
      rcases List.prefix_concat_iff.mp hpre with rfl | hfront
      · simp at heq
      · exact hfront
    rw [h.pending front hfront]
    exact Option.some_ne_none _

/-- One more frame after which the event is still pending. -/
theorem Waits.snoc (h : Waits serde pre header frames name expected) {f : Fed}
    (hp : (afterFrames serde (pre ++ .text header :: (frames ++ [f]))).pending =
      some ⟨name, expected, binaries (frames ++ [f])⟩)
    (hmissing : (binaries (frames ++ [f])).length < expected.toNat) :
    Waits serde pre header (frames ++ [f]) name expected where
  idle := h.idle
  pending := by
    intro front hfront
    rcases List.prefix_concat_iff.mp hfront with rfl | hfront'
    · exact hp
    · exact h.pending front hfront'
  missing := hmissing
  parsed := h.parsed

end Waits

/-- A pending event waits for what its own header announced. -/
theorem exists_waits (frames : List Fed) {p : PendingBinaryEvent}
    (hp : (afterFrames serde frames).pending = some p) :
    ∃ pre header between, frames = pre ++ .text header :: between ∧
      Waits serde pre header between p.name p.expected ∧ p.received = binaries between := by
  induction frames using List.reverseRecOn generalizing p with
  | nil => cases hp
  | append_singleton frames f ih =>
    have hstep := hp
    rw [afterFrames_snoc] at hstep
    cases hbefore : (afterFrames serde frames).pending with
    | none =>
      cases f with
      | binary payload =>
        rw [(binary_of_idle hbefore payload).1, hbefore] at hstep
        cases hstep
      | text packet =>
        obtain ⟨hreceived, hpos, hparsed⟩ := (text_of_idle hbefore packet).2 p hstep
        refine ⟨frames, packet, [], rfl, ⟨hbefore, ?_, hpos, hparsed⟩, hreceived⟩
        intro front hfront
        rw [List.prefix_nil.mp hfront, hp, Option.some.injEq]
        cases p
        cases hreceived
        rfl
    | some q =>
      obtain ⟨pre, header, between, rfl, hw, hq⟩ := ih hbefore
      have happ : pre ++ .text header :: between ++ [f] = pre ++ .text header :: (between ++ [f]) := by
        simp
      rw [happ] at hp
      cases f with
      | text packet =>
        have hsame : binaries (between ++ [.text packet]) = binaries between := by
          rw [binaries_append]
          exact List.append_nil _
        rw [(text_of_pending hbefore packet).1, hbefore, Option.some.injEq] at hstep
        subst hstep
        refine ⟨pre, header, _, happ, hw.snoc ?_ ?_, hq.trans hsame.symm⟩
        · rw [hp, hsame, ← hq]
        · rw [hsame]
          exact hw.missing
      | binary payload =>
        have hmore : binaries (between ++ [.binary payload]) = q.received ++ [payload] := by
          rw [binaries_append, hq]
          rfl
        rcases binary_of_pending serde hbefore (hq ▸ hw.missing) payload with
          ⟨-, hafter, -⟩ | ⟨hlt, hafter, -⟩
        · rw [hafter] at hstep
          cases hstep
        · rw [hafter, Option.some.injEq] at hstep
          subst hstep
          refine ⟨pre, header, _, happ, hw.snoc ?_ ?_, hmore.symm⟩
          · rw [hp, hmore]
          · simpa [hmore] using hlt

/-- Enough binary frames complete a pending event, whatever packets are among them. -/
theorem exists_delivery {pre : List Fed} {p : PendingBinaryEvent}
    (hp : (afterFrames serde pre).pending = some p) (hlt : p.received.length < p.expected.toNat)
    (post : List Fed) (hpost : p.expected.toNat ≤ p.received.length + (binaries post).length) :
    ∃ between payload rest name attachments, post = between ++ .binary payload :: rest ∧
      (∀ front, front <+: between → (afterFrames serde (pre ++ front)).pending ≠ none) ∧
      delivered serde (afterFrames serde (pre ++ between)) (.binary payload) =
        some (.binary name attachments) := by
  induction post generalizing pre p with
  | nil =>
    rw [binaries, List.length_nil] at hpost
    omega
  | cons f post ih =>
    -- a frame after which the event is still pending only makes the list before longer
    have hmore : ∀ q, (afterFrames serde (pre ++ [f])).pending = some q →
        q.received.length < q.expected.toNat →
        q.expected.toNat ≤ q.received.length + (binaries post).length →
        ∃ between payload rest name attachments, f :: post = between ++ .binary payload :: rest ∧
          (∀ front, front <+: between → (afterFrames serde (pre ++ front)).pending ≠ none) ∧
          delivered serde (afterFrames serde (pre ++ between)) (.binary payload) =
            some (.binary name attachments) := by
      intro q hq hqlt hqpost
      obtain ⟨between, payload, rest, name, attachments, rfl, hpending, hdelivered⟩ :=
        ih hq hqlt hqpost
      refine ⟨f :: between, payload, rest, name, attachments, rfl, ?_, ?_⟩
      · intro front hfront
        rcases List.prefix_cons_iff.mp hfront with rfl | ⟨front', rfl, hfront'⟩
        · rw [List.append_nil, hp]
          exact Option.some_ne_none p
        · have h := hpending front' hfront'
          rwa [List.append_assoc] at h
      · rwa [List.append_assoc] at hdelivered
    cases f with
    | text packet =>
      have hafter : (afterFrames serde (pre ++ [.text packet])).pending = some p := by
        rw [afterFrames_snoc, (text_of_pending hp packet).1, hp]
      exact hmore p hafter hlt hpost
    | binary payload =>
      rcases binary_of_pending serde hp hlt payload with
        ⟨-, -, hdelivered⟩ | ⟨hlt', hafter, -⟩
      · refine ⟨[], payload, post, _, _, rfl, ?_, by rwa [List.append_nil]⟩
        intro front hfront
        rw [List.prefix_nil.mp hfront, List.append_nil, hp]
        exact Option.some_ne_none p
      · refine hmore _ (by rw [afterFrames_snoc, hafter]) (by simpa using hlt') ?_
        rw [binaries, List.length_cons] at hpost
        simp only [List.length_append, List.length_singleton]
        omega

/-- Between a packet and a binary frame after it lies the place of the last packet before that frame. -/
theorem exists_prefix_of_last_text {pre pre' between : List Fed} {packet header : String}
    {payload : List UInt8} {payloads : List (List UInt8)}
    (heq : pre ++ (.text packet :: between ++ [.binary payload]) =
      pre' ++ .text header :: payloads.map .binary) :
    ∃ front, front <+: .text packet :: between ∧ pre' = pre ++ front := by
  rcases List.append_eq_append_iff.mp heq with ⟨front, hpre, hrest⟩ | ⟨back, hpre, hrest⟩
  · refine ⟨front, ?_, hpre⟩
    have hfront : front <+: .text packet :: between ++ [.binary payload] := ⟨_, hrest.symm⟩
    rcases List.prefix_concat_iff.mp hfront with rfl | hfront'
    · simp at hrest
    · exact hfront'
  · cases back with
    | nil => exact ⟨[], List.nil_prefix, by rw [hpre, List.append_nil, List.append_nil]⟩
    | cons f back =>
      have htail := (List.cons.inj hrest).2
      have hmem : Fed.text packet ∈ payloads.map Fed.binary := by
        rw [htail]
        simp
      obtain ⟨_, -, h⟩ := List.mem_map.mp hmem
      cases h

/-- A packet that comes too early leads to a delivery whose last header was rejected. -/
theorem noEarlyText_of_paired {frames : List Fed} (hpaired : Paired serde frames) :
    NoEarlyText serde frames := by
  intro pre packet post p hframes hp
  by_contra hfew
  obtain ⟨_, _, _, -, hw, hreceived⟩ := exists_waits pre hp
  have hpost : p.expected.toNat ≤ p.received.length + (binaries (.text packet :: post)).length := by
    rw [binaries]
    omega
  obtain ⟨between, payload, rest, name, attachments, hsplit, hpending, hdelivered⟩ :=
    exists_delivery hp (hreceived ▸ hw.missing) (.text packet :: post) hpost
  obtain ⟨pre', header, heq, hown, -⟩ :=
    hpaired (pre ++ between) (.binary payload) rest name attachments
      (by rw [hframes, hsplit, List.append_assoc]) hdelivered
  cases between with
  | nil => cases hsplit
  | cons f between =>
    obtain rfl : Fed.text packet = f := (List.cons.inj hsplit).1
    rw [List.append_assoc] at heq
    obtain ⟨front, hfront, rfl⟩ := exists_prefix_of_last_text heq
    exact hpending front hfront hown.idle

/-- No packet is among the attachments of an event that the next frame completes. -/
theorem Waits.no_text {pre between rest : List Fed} {header name : String} {expected : UInt32}
    {payload : List UInt8} (hw : Waits serde pre header between name expected)
    (hlast : (binaries between).length + 1 = expected.toNat)
    (hfew : NoEarlyText serde (pre ++ .text header :: between ++ .binary payload :: rest))
    (packet : String) : .text packet ∉ between := by
  intro hmem
  obtain ⟨front, back, rfl⟩ := List.append_of_mem hmem
  have hlt := hfew (pre ++ .text header :: front) packet (back ++ .binary payload :: rest) _
    (by simp) (hw.pending front (List.prefix_append _ _))
  simp only [binaries_append, binaries, List.length_append, List.length_cons] at hlt hlast
  omega

theorem paired_of_noEarlyText {frames : List Fed} (hfew : NoEarlyText serde frames) :
    Paired serde frames := by
  intro front f rest name attachments hframes hdelivered
  cases hp : (afterFrames serde front).pending with
  | none =>
    cases f with
    | binary payload =>
      rw [(binary_of_idle hp payload).2] at hdelivered
      cases hdelivered
    | text packet =>
      obtain ⟨rfl, id, placeholders, hparsed⟩ := (text_of_idle hp packet).1 name attachments hdelivered
      exact ⟨front, packet, rfl, ⟨hp, by simp⟩, 0, id, placeholders, hparsed, rfl⟩
  | some p =>
    obtain ⟨pre, header, between, rfl, hw, hreceived⟩ := exists_waits front hp
    cases f with
    | text packet =>
      rw [(text_of_pending hp packet).2] at hdelivered
      cases hdelivered
    | binary payload =>
      rcases binary_of_pending serde hp (hreceived ▸ hw.missing) payload with
        ⟨hlast, -, hd⟩ | ⟨-, -, hd⟩
      · rw [hd, Option.some.injEq, Event.binary.injEq] at hdelivered
        obtain ⟨rfl, rfl⟩ := hdelivered
        have hnotext : ∀ packet, .text packet ∉ between :=
          hw.no_text (hreceived ▸ hlast) (hframes ▸ hfew)
        have hall : between ++ [.binary payload] = (p.received ++ [payload]).map .binary := by
          rw [List.map_append, hreceived, ← eq_map_binaries hnotext]
          rfl
        obtain ⟨id, placeholders, hparsed⟩ := hw.parsed
        refine ⟨pre, header, ?_, ?_, p.expected, id, placeholders, hparsed, ?_⟩
        · rw [← hall]
          simp
        · rw [← hall]
          exact hw.ownHeader _
        · rw [List.length_append, List.length_singleton, hlast]
      · rw [hd] at hdelivered
        cases hdelivered

/-- Each event is paired with the attachments after its own header if and only if every packet that
comes while an event waits for attachments is followed by fewer binary frames than are missing, so that
the event is never delivered. -/
theorem paired_iff (serde : Serde) (frames : List Fed) :
    Paired serde frames ↔ NoEarlyText serde frames :=
  ⟨noEarlyText_of_paired, paired_of_noEarlyText⟩

end Frames

/-- Two events with one attachment each, of which the first attachment is lost. -/
def Sample.lost : List Fed :=
  [.text ("51-" ++ args "client_authentication"), .text ("51-" ++ args "trigger"), .binary [1]]

/-- The first event is delivered with the attachment of the second. -/
theorem not_paired_lost : ¬ Paired Sample.serde Sample.lost := by
  intro hpaired
  have hdelivered : delivered Sample.serde (afterFrames Sample.serde (Sample.lost.take 2)) (.binary [1]) =
      some (.binary "client_authentication" [[1]]) := rfl
  obtain ⟨pre, header, hsplit, -, count, id, placeholders, hparsed, -⟩ :=
    hpaired (Sample.lost.take 2) (.binary [1]) [] _ _ rfl hdelivered
  have hheader : SocketIo.parseText Sample.serde ("51-" ++ Sample.args "trigger") =
      .ok (.binaryEventHeader 1 none "trigger" [0]) := rfl
  have hframes : [.text ("51-" ++ Sample.args "client_authentication")] ++
      [.text ("51-" ++ Sample.args "trigger"), .binary [1]] = pre ++ [.text header, .binary [1]] := hsplit
  obtain ⟨-, hlast⟩ := List.append_inj' hframes rfl
  obtain rfl : "51-" ++ Sample.args "trigger" = header := by simpa using (List.cons.inj hlast).1
  rw [hheader] at hparsed
  injection hparsed with hpacket
  injection hpacket with _ _ hname
  exact absurd hname (by decide)

end Buddy3dProxy.Signaling
