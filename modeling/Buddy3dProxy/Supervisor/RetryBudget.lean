import Buddy3dProxy.Supervisor.Handles

/-!
# Failed attempts and the reconnect budget

The bucket is looked at before a connect attempt starts and charged when it returns, so one token
can admit several attempts of overlapping sessions. As long as every attempt starts while the bucket
holds more tokens than there are attempts in flight, each failure finds a token to spend, and the
failures are bounded by what the bucket started with, earned and was refilled with. `LedgerInv` is
that account.
-/

namespace Buddy3dProxy.Supervisor

open Transition ReconnectBudget

/-- How far each attempt has come. -/
def Sys.phases (s : Sys) : List ConnectPhase := s.sessions.map (·.phase)

def Sys.inFlight (s : Sys) : Nat := s.phases.countP ConnectPhase.inFlight

def Sys.failures (s : Sys) : Nat := s.phases.countP (· == .failed)

def Sys.successes (s : Sys) : Nat := s.phases.countP (· == .ready)

/-- The condition on a step: an attempt starts while the bucket holds more tokens than there are
attempts in flight. -/
def Sys.admits (s : Sys) : Action → Bool
  | .startConnect _ _ | .watchdogConnect _ _ =>
    decide (s.inFlight < (s.reconnectBudget.refill s.now).tokens)
  | _ => true

/-- The step is a `factory.connect()` that returns `Err`. -/
def Action.failsConnect : Action → Bool
  | .callConnect _ (.err _) | .watchdogResult _ (.err _) => true
  | _ => false

/-- The account of the bucket `b` at the instant `now`. -/
structure LedgerInv (phases : List ConnectPhase) (b : ReconnectBudget) (now : Nat) : Prop where
  capacity : b.capacity = defaultCapacity
  period : b.refillPeriod = defaultRefillPeriod
  clock : b.lastRefill ≤ now
  spent : phases.countP (· == .failed) + b.tokens ≤
    defaultCapacity + phases.countP (· == .ready) + b.lastRefill / defaultRefillPeriod
  covered : phases.countP ConnectPhase.inFlight ≤ (b.refill now).tokens

namespace LedgerInv

variable {phases : List ConnectPhase} {b : ReconnectBudget} {now now' j : Nat}
  {ph : ConnectPhase}

theorem of_eq {phases' : List ConnectPhase} (h : LedgerInv phases b now)
    (he : phases' = phases) : LedgerInv phases' b now := he ▸ h

theorem refill (h : LedgerInv phases b now) : LedgerInv phases (b.refill now) now := by
  have hpos : 0 < b.refillPeriod := by rw [h.period]; decide
  refine ⟨?_, ?_, refill_lastRefill_le h.clock, ?_, ?_⟩
  · rw [refill_capacity, h.capacity]
  · rw [refill_refillPeriod, h.period]
  · have hcredit := refill_credit hpos h.clock
    have hspent := h.spent
    rw [h.period] at hcredit
    omega
  · exact Nat.le_trans h.covered (tokens_le_refill _ _)

theorem later (h : LedgerInv phases b now) (hnow : now ≤ now') : LedgerInv phases b now' :=
  ⟨h.capacity, h.period, Nat.le_trans h.clock hnow, h.spent,
    Nat.le_trans h.covered (refill_tokens_mono b now hnow)⟩

theorem start (h : LedgerInv phases b now)
    (hlt : phases.countP ConnectPhase.inFlight < (b.refill now).tokens) :
    LedgerInv (phases ++ [.starting]) b now := by
  refine ⟨h.capacity, h.period, h.clock, ?_, ?_⟩
  · rw [List.countP_append, List.countP_append]
    exact h.spent
  · rw [List.countP_append]
    exact hlt

theorem ne_of_inFlight (hin : ph.inFlight = true) : ph ≠ .failed ∧ ph ≠ .ready := by
  constructor
  · rintro rfl
    cases hin
  · rintro rfl
    cases hin

/-- What a move of an attempt in flight does to the two counts of outcomes. -/
theorem counts (ph' : ConnectPhase) (hj : phases[j]? = some ph) (hin : ph.inFlight = true) :
    (phases.set j ph').countP (· == .failed) =
      phases.countP (· == .failed) + (if ph' = .failed then 1 else 0) ∧
    (phases.set j ph').countP (· == .ready) =
      phases.countP (· == .ready) + (if ph' = .ready then 1 else 0) := by
  have hfailed := Pool.countP_set (p := (· == ConnectPhase.failed)) (b := ph') hj
  have hready := Pool.countP_set (p := (· == ConnectPhase.ready)) (b := ph') hj
  obtain ⟨hnf, hnr⟩ := ne_of_inFlight hin
  simp only [beq_iff_eq, hnf, hnr, if_false, Nat.add_zero] at hfailed hready
  exact ⟨hfailed, hready⟩

/-- An attempt in flight moves on without returning, or is cancelled. -/
theorem move (ph' : ConnectPhase) (h : LedgerInv phases b now) (hj : phases[j]? = some ph)
    (hin : ph.inFlight = true) (hf : ph' ≠ .failed) (hr : ph' ≠ .ready) :
    LedgerInv (phases.set j ph') b now := by
  obtain ⟨hfailed, hready⟩ := counts ph' hj hin
  have hflight : (phases.set j ph').countP ConnectPhase.inFlight ≤
      phases.countP ConnectPhase.inFlight := by
    have hset := Pool.countP_set (p := ConnectPhase.inFlight) (b := ph') hj
    rw [if_pos hin] at hset
    split at hset <;> omega
  refine ⟨h.capacity, h.period, h.clock, ?_, Nat.le_trans hflight h.covered⟩
  rw [hfailed, hready, if_neg hf, if_neg hr]
  exact h.spent

theorem pos (h : LedgerInv phases b now) (hj : phases[j]? = some ph) (hin : ph.inFlight = true) :
    0 < (b.refill now).tokens :=
  Nat.lt_of_lt_of_le (Pool.countP_pos hj hin) h.covered

/-- A failure spends a token. -/
theorem fail (h : LedgerInv phases b now) (hj : phases[j]? = some ph) (hin : ph.inFlight = true) :
    LedgerInv (phases.set j .failed) (b.recordFailure now) now := by
  have hpos := h.pos hj hin
  have hspent := h.refill.spent
  have hcovered := h.covered
  obtain ⟨hfailed, hready⟩ := counts .failed hj hin
  have hflight := Pool.countP_set_lose (p := ConnectPhase.inFlight) (b := .failed) hj hin rfl
  have htokens : (b.recordFailure now).tokens = (b.refill now).tokens - 1 := rfl
  refine ⟨h.refill.capacity, h.refill.period, h.refill.clock, ?_, ?_⟩
  · show _ ≤ _ + _ + (b.refill now).lastRefill / defaultRefillPeriod
    rw [hfailed, hready, htokens, if_pos rfl, if_neg (by decide)]
    omega
  · have hle := tokens_le_refill (b.recordFailure now) now
    rw [htokens] at hle
    omega

theorem succeed (h : LedgerInv phases b now) (hj : phases[j]? = some ph)
    (hin : ph.inFlight = true) : LedgerInv (phases.set j .ready) (b.recordSuccess now) now := by
  have hspent := h.refill.spent
  have hcovered := h.covered
  have hcap := (b.refill now).tokens_le
  obtain ⟨hfailed, hready⟩ := counts .ready hj hin
  have hflight := Pool.countP_set_lose (p := ConnectPhase.inFlight) (b := .ready) hj hin rfl
  have htokens : (b.recordSuccess now).tokens =
      min ((b.refill now).tokens + 1) (b.refill now).capacity := rfl
  refine ⟨h.refill.capacity, h.refill.period, h.refill.clock, ?_, ?_⟩
  · show _ ≤ _ + _ + (b.refill now).lastRefill / defaultRefillPeriod
    rw [hfailed, hready, htokens, if_pos rfl, if_neg (by decide)]
    omega
  · have hle := tokens_le_refill (b.recordSuccess now) now
    rw [htokens] at hle
    omega

end LedgerInv

def Sys.Ledger (s : Sys) : Prop := LedgerInv s.phases s.reconnectBudget s.now

/-- An attempt of a known phase reaches the phase `ph'`. -/
theorem phases_modify_set {ss : List Session} {f : Session → Session} {j : Nat}
    {ph ph' : ConnectPhase} (hj : (ss.map (·.phase))[j]? = some ph)
    (hf : ∀ x, (f x).phase = ph') :
    (ss.modify j f).map (·.phase) = (ss.map (·.phase)).set j ph' := by
  rw [List.getElem?_map] at hj
  obtain ⟨x, hx, -⟩ := Option.map_eq_some_iff.mp hj
  rw [Pool.map_modify_set hx, hf]

theorem inFlight_of_call {s : Sys} (hsessions : s.SessionsOk) {i tx j : Nat}
    (hi : s.calls[i]? = some (.connect tx j)) :
    ∃ ph, s.phases[j]? = some ph ∧ ph.inFlight = true := by
  obtain ⟨x, hx, -, -, hph⟩ := hsessions.call _ (List.mem_of_getElem? hi)
  refine ⟨x.phase, ?_, hph⟩
  rw [Sys.phases, List.getElem?_map, hx, Option.map_some]

theorem inFlight_of_watchdog {s : Sys} (hsessions : s.SessionsOk) {w j : Nat} {d : Watchdog}
    (hw : s.watchdogs[w]? = some d) (hpc : d.pc = .connecting j) :
    ∃ ph, s.phases[j]? = some ph ∧ ph.inFlight = true := by
  have hheld := hsessions.watchdog d (List.mem_of_getElem? hw)
  rw [hpc] at hheld
  obtain ⟨x, hx, -, -, hph⟩ := hheld
  refine ⟨x.phase, ?_, hph⟩
  rw [Sys.phases, List.getElem?_map, hx, Option.map_some]

/-- A failing connect ends an attempt in flight and is charged to the bucket. -/
theorem charge_of_failsConnect {s s' : Sys} {a : Action} (hsessions : s.SessionsOk)
    (ha : a.failsConnect = true) (hs : Step s a s') :
    ∃ j ph, s.phases[j]? = some ph ∧ ph.inFlight = true ∧ s'.phases = s.phases.set j .failed ∧
      s'.reconnectBudget = s.reconnectBudget.recordFailure s.now ∧ s'.now = s.now := by
  cases hs with
  | callConnectErr hi =>
    obtain ⟨ph, hj, hin⟩ := inFlight_of_call hsessions hi
    exact ⟨_, ph, hj, hin, phases_modify_set hj fun _ => rfl, rfl, rfl⟩
  | watchdogErr hw hpc =>
    obtain ⟨ph, hj, hin⟩ := inFlight_of_watchdog hsessions hw hpc
    exact ⟨_, ph, hj, hin, phases_modify_set hj fun _ => rfl, rfl, rfl⟩
  | _ => cases ha

theorem ledger_step {s s' : Sys} {a : Action} (hsessions : s.SessionsOk)
    (hok : s.admits a = true) (h : s.Ledger) (hs : Step s a s') : s'.Ledger := by
  have hl : LedgerInv s.phases s.reconnectBudget s.now := h
  have hstart (x : Session) (hx : x.phase = .starting)
      (hlt : s.inFlight < (s.reconnectBudget.refill s.now).tokens) :
      LedgerInv ((s.sessions ++ [x]).map (·.phase)) s.reconnectBudget s.now := by
    rw [List.map_append, List.map_singleton, hx]
    exact hl.start hlt
  by_cases hfails : a.failsConnect = true
  · obtain ⟨j, ph, hj, hin, hphases, hbudget, hnow⟩ := charge_of_failsConnect hsessions hfails hs
    rw [Sys.Ledger, hphases, hbudget, hnow]
    exact hl.fail hj hin
  cases hs with
  | rejectBudget | enterConnecting | watchdogSleep | snapshot => exact hl.refill
  | startConnect => exact hstart _ rfl (of_decide_eq_true hok)
  | watchdogConnect => exact hstart _ rfl (of_decide_eq_true hok)
  | callConnectOk hi =>
    obtain ⟨ph, hj, hin⟩ := inFlight_of_call hsessions hi
    exact (hl.succeed hj hin).of_eq (phases_modify_set hj fun _ => rfl)
  | watchdogOk hw hpc =>
    obtain ⟨ph, hj, hin⟩ := inFlight_of_watchdog hsessions hw hpc
    exact (hl.succeed hj hin).of_eq (phases_modify_set hj fun _ => rfl)
  | callConnectErr | watchdogErr => exact absurd rfl hfails
  | cancelConnect hi =>
    obtain ⟨ph, hj, hin⟩ := inFlight_of_call hsessions hi
    have hmove := hl.move .cancelled hj hin (by decide) (by decide)
    exact hmove.of_eq (phases_modify_set hj fun _ => rfl)
  | @register j x hx hp =>
    have hj : s.phases[j]? = some .starting := by
      rw [Sys.phases, List.getElem?_map, hx, ← hp]
      rfl
    have hmove := hl.move .registered hj rfl (by decide) (by decide)
    exact hmove.of_eq (phases_modify_set hj fun _ => rfl)
  | cancelConnected | discard | sessionEnds | sessionKilled =>
    exact hl.of_eq (Pool.map_modify_eq fun _ _ => rfl)
  | install | reinstall | teardown => exact hl.of_eq (s.map_dropStored fun _ => rfl)
  | tick => exact hl.later (Nat.le_add_right _ _)
  | _ => exact hl

variable {idleTimeout : Nat} {failedRx : Option Bool} {s : Sys}

theorem ledger_of_reachableWhere
    (h : ReachableWhere (system idleTimeout failedRx) (fun s a => s.admits a = true) s) :
    s.Ledger :=
  invariant_of_steps ⟨rfl, rfl, Nat.le_refl _, Nat.le_add_right _ _, Nat.zero_le _⟩
    (fun hr hok hp hs => ledger_step (sessions_of_reachable hr.reachable) hok hp hs) h

/-- A failing connect of a state finds a token and spends it. -/
def Sys.SpendsTokens (s : Sys) : Prop :=
  ∀ a s', a.failsConnect = true → s.step a = some s' → s'.failures = s.failures + 1 ∧
    s'.reconnectBudget.tokens + 1 = (s.reconnectBudget.refill s.now).tokens

/-- In every run in which each attempt starts while the bucket holds more tokens than there are
attempts in flight, every failed attempt spends a token, and the failures are bounded by the
capacity, the successes and the refill periods gone by. -/
theorem failures_le
    (h : ReachableWhere (system idleTimeout failedRx) (fun s a => s.admits a = true) s) :
    s.SpendsTokens ∧
      s.failures ≤ defaultCapacity + s.successes + s.now / defaultRefillPeriod := by
  have hledger : LedgerInv s.phases s.reconnectBudget s.now := ledger_of_reachableWhere h
  constructor
  · intro a s' ha hs
    obtain ⟨j, ph, hj, hin, hphases, hbudget, -⟩ :=
      charge_of_failsConnect (sessions_of_reachable h.reachable) ha (step_of_eq hs)
    have hpos := hledger.pos hj hin
    constructor
    · rw [Sys.failures, hphases]
      exact (LedgerInv.counts .failed hj hin).1
    · rw [hbudget]
      show (s.reconnectBudget.refill s.now).tokens - 1 + 1 = _
      omega
  · have hspent := hledger.spent
    have hclock : s.reconnectBudget.lastRefill / defaultRefillPeriod ≤
        s.now / defaultRefillPeriod := Nat.div_le_div_right hledger.clock
    show s.phases.countP (· == .failed) ≤ _ + s.phases.countP (· == .ready) + _
    omega

/-- The run in which the viewer with call `i` finds the supervisor idle and fails to bring up its
session. -/
def failingSubscribe (i : Nat) : List Action :=
  [.subscribe, .call i, .call i, .startConnect i stubParams,
    .callConnect i (.err (.unavailable "offline")), .call i, .call i, .viewerEvent, .viewerEvent]

/-- A failed attempt, a session, and after it a second failure ahead. -/
theorem failures_le_connecting : ∃ s, Reachable (system 60 none) s ∧
    (s.failures = 1 ∧ s.successes = 1 ∧ s.inFlight = 1) ∧ s.SpendsTokens ∧
      s.failures ≤ defaultCapacity + s.successes + s.now / defaultRefillPeriod := by
  obtain ⟨s, hr, hp⟩ := exists_reachableWhere_of_runWhere (system 60 none) Sys.admits
    (failingSubscribe 0 ++ bringUp 1 1 ++
      [.sessionEnds 1, .watchdog 0, .watchdog 0, .watchdogSleep 0 1000, .tick 1000000000,
        .watchdog 0, .watchdog 0, .watchdogConnect 0 stubParams])
    (fun s => decide (s.failures = 1 ∧ s.successes = 1 ∧ s.inFlight = 1)) (by decide +kernel)
  exact ⟨s, hr.reachable, of_decide_eq_true hp, failures_le hr⟩

/-- A reconnect outlives the teardown of its channel. Ten later attempts fail while it hangs, and
when it fails too there is no token left: 12 failures after one success. -/
theorem failures_over_bound : ¬ ∀ s, Reachable (system 60 none) s →
    s.failures ≤ defaultCapacity + s.successes + s.now / defaultRefillPeriod := by
  intro hall
  obtain ⟨s, hr, hp⟩ := exists_reachable_of_run (system 60 none)
    (failingSubscribe 0 ++ bringUp 1 1 ++
      [.sessionEnds 1, .watchdog 0, .watchdog 0, .watchdogSleep 0 1000, .tick 1000000000,
        .watchdog 0, .watchdog 0, .watchdogConnect 0 stubParams, .dropSubscription 1, .viewerEvent,
        .tick 60, .timer 1, .timer 1] ++
      (List.range' 2 10).flatMap failingSubscribe ++
      [.watchdogResult 0 (.err (.unavailable "offline"))])
    (fun s => decide (defaultCapacity + s.successes + s.now / defaultRefillPeriod < s.failures))
    (by decide +kernel)
  exact absurd (hall s hr) (Nat.not_le.mpr (of_decide_eq_true hp))

end Buddy3dProxy.Supervisor
