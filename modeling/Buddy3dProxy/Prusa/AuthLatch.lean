import Buddy3dProxy.Prusa.Auth

/-!
# The auth-failed latch

When the orchestrator concludes that the credentials are bad for good. The latch is never taken back,
`/healthz` (`health.rs`) reports it.
-/

namespace Buddy3dProxy.Prusa

/-- `healthz`. -/
def healthz (failed : Bool) : UInt16 × String := if failed then (503, "auth_failed\n") else (200, "ok\n")

/-- A response that ends a login chain: it has no Location header. -/
def endsChain : Reply → Option Response
  | .ok r => if r.location.isNone then some r else none
  | .error _ => none

/-- The responses in which login chains ended, oldest first. -/
def chainEnds (log : List Entry) : List Response :=
  log.filterMap fun
    | .chainReply r => endsChain r
    | _ => none

/-- The response with which a step ends a login chain. -/
def Orchestrator.chainEnd (s : Orchestrator) : Action → Option Response
  | .reply r _ =>
    match s.pc with
    | .following _ => endsChain r
    | _ => none
  | _ => none

/-- The step does not end a login chain in a server error, unless the latch is set already. -/
def Orchestrator.sparesServerErrors (s : Orchestrator) (a : Action) : Bool :=
  match s.chainEnd a with
  | some resp => s.failed || !resp.isServerError
  | none => true

variable {libs : AuthLibs} {s s' : Orchestrator}

/-! ## What sets the latch -/

theorem chainEnds_snoc {log : List Entry} {e : Entry} (he : ∀ r, e = .chainReply r → endsChain r = none) :
    chainEnds (log ++ [e]) = chainEnds log := by
  cases e with
  | chainReply r => simp [chainEnds, he r rfl]
  | _ => simp [chainEnds]

theorem chainEnds_snoc_end {log : List Entry} {r : Reply} {resp : Response}
    (h : endsChain r = some resp) : chainEnds (log ++ [.chainReply r]) = chainEnds log ++ [resp] := by
  simp [chainEnds, h]

/-- Neither the latch nor the chain ends have changed. -/
def SameLatch (s s' : Orchestrator) : Prop :=
  s'.failed = s.failed ∧ chainEnds s'.log = chainEnds s.log

namespace SameLatch

theorem refl (s : Orchestrator) : SameLatch s s := ⟨rfl, rfl⟩

theorem trans {s'' : Orchestrator} (h : SameLatch s s') (h' : SameLatch s' s'') : SameLatch s s'' :=
  ⟨h'.1.trans h.1, h'.2.trans h.2⟩

theorem record (s : Orchestrator) {e : Entry} (he : ∀ r, e = .chainReply r → endsChain r = none) :
    SameLatch s (s.record e) :=
  ⟨rfl, chainEnds_snoc he⟩

theorem finish (s : Orchestrator) (result : Except AuthError String) :
    SameLatch s (s.finish result) :=
  ⟨rfl, chainEnds_snoc (by simp)⟩

/-- `bootstrap` fails for another reason than a rejected login. -/
theorem bootstrapFailed (s : Orchestrator) {e : AuthError} (he : e.isLoginRejected = false) :
    SameLatch s (s.bootstrapFailed e) :=
  ⟨by simp [Orchestrator.bootstrapFailed, Orchestrator.finish, Orchestrator.record, he],
    chainEnds_snoc (by simp)⟩

theorem store (s : Orchestrator) (t : StoredTokens) (fault : Option TokenStoreError) :
    SameLatch s (s.store t fault) := by
  cases fault <;> exact ⟨rfl, chainEnds_snoc (by simp)⟩

theorem loadState {fault : Option String} (hs : s.loadState fault = .ok s') : SameLatch s s' := by
  unfold Orchestrator.loadState at hs
  split at hs
  · exact Except.ok.inj hs ▸ refl s
  · split at hs
    · cases hs
    · exact Except.ok.inj hs ▸ refl s
    · exact Except.ok.inj hs ▸ ⟨rfl, chainEnds_snoc (by simp)⟩

theorem refreshIf (s : Orchestrator) (t : StoredTokens) (due : Option Bool) :
    SameLatch s (s.refreshIf t due) := by
  cases due with
  | none => exact ⟨rfl, rfl⟩
  | some due => cases due <;> exact ⟨rfl, chainEnds_snoc (by simp)⟩

theorem call (s : Orchestrator) (now : Rust.SystemTime) (fault : Option String) :
    SameLatch s (s.call now fault) := by
  unfold Orchestrator.call
  cases hload : s.loadState fault with
  | error e => exact finish s _
  | ok s₁ =>
    refine (loadState hload).trans ?_
    simp only [Orchestrator.request]
    split
    · exact ⟨rfl, rfl⟩
    · exact refreshIf s₁ _ _

end SameLatch

/-- Only the login chain rejects a login. -/
theorem isLoginRejected_of_receiveTokens {r : Reply} {e : AuthError}
    (h : receiveTokens libs r = some (.error e)) : e.isLoginRejected = false := by
  unfold receiveTokens withExpiry at h
  split at h
  · cases h
    rfl
  · split at h
    · cases h
      rfl
    · split at h
      · cases h
      · cases h
        rfl
      · cases h

theorem isLoginRejected_of_loginPageError {r : Reply} {e : AuthError}
    (h : loginPageError libs r = some e) : e.isLoginRejected = false := by
  unfold loginPageError at h
  split at h
  · cases h
    rfl
  · split at h
    · cases h
      rfl
    · split at h
      · cases h
      · cases h
        rfl

theorem followHop_of_endsChain (libs : AuthLibs) {r : Reply} {resp : Response} (h : endsChain r = some resp) :
    ∃ text, followHop libs r = .failed (.loginRejected resp.status text) := by
  cases r with
  | error e => simp [endsChain] at h
  | ok r =>
    cases hloc : r.location with
    | some loc => simp [endsChain, hloc] at h
    | none =>
      obtain rfl : r = resp := by simpa [endsChain, hloc] using h
      exact ⟨_, by simp only [followHop, hloc]; rfl⟩

theorem isLoginRejected_of_followHop {r : Reply} {e : AuthError} (hr : endsChain r = none)
    (h : followHop libs r = .failed e) : e.isLoginRejected = false := by
  unfold followHop at h
  split at h
  · cases h
    rfl
  · split at h
    · split at h
      · cases h
        rfl
      · split at h <;> cases h
    · rename_i hloc
      simp [endsChain, hloc] at hr

/-- The end of a login chain sets the latch. -/
theorem latch_of_chainEnd {a : Action} {resp : Response} (h : s.chainEnd a = some resp)
    (hs : s.step libs a = some s') :
    s'.failed = true ∧ chainEnds s'.log = chainEnds s.log ++ [resp] := by
  cases Orchestrator.moves_of_step libs hs with
  | @followed hop r fault hpc =>
    have hend : endsChain r = some resp := by simpa [Orchestrator.chainEnd, hpc] using h
    obtain ⟨text, htext⟩ := followHop_of_endsChain libs hend
    simp only [Orchestrator.followed, htext]
    refine ⟨?_, (chainEnds_snoc (by simp)).trans (chainEnds_snoc_end hend)⟩
    simp [Orchestrator.bootstrapFailed, Orchestrator.finish, Orchestrator.record,
      AuthError.isLoginRejected]
  | call => simp [Orchestrator.chainEnd] at h
  | cancel => simp [Orchestrator.chainEnd] at h
  | refreshed hpc => simp [Orchestrator.chainEnd, hpc] at h
  | loginPage hpc => simp [Orchestrator.chainEnd, hpc] at h
  | exchanged hpc => simp [Orchestrator.chainEnd, hpc] at h

namespace SameLatch

theorem refreshed (s : Orchestrator) (r : Reply) (fault : Option TokenStoreError) :
    SameLatch s (s.refreshed libs r fault) := by
  have hreply : SameLatch s (s.record (.tokenReply r)) := .record s (by simp)
  refine hreply.trans ?_
  simp only [Orchestrator.refreshed]
  split
  · exact ⟨rfl, rfl⟩
  · exact .store _ _ _
  · exact ⟨rfl, rfl⟩
  · exact .finish _ _

theorem exchanged (s : Orchestrator) (r : Reply) (fault : Option TokenStoreError) :
    SameLatch s (s.exchanged libs r fault) := by
  have hreply : SameLatch s (s.record (.tokenReply r)) := .record s (by simp)
  refine hreply.trans ?_
  simp only [Orchestrator.exchanged]
  split
  · exact ⟨rfl, rfl⟩
  · exact .store _ _ _
  · rename_i e herr
    exact .bootstrapFailed _ (isLoginRejected_of_receiveTokens herr)

theorem loginPage (s : Orchestrator) (r : Reply) : SameLatch s (s.loginPage libs r) := by
  unfold Orchestrator.loginPage
  cases herr : loginPageError libs r with
  | none => exact ⟨rfl, rfl⟩
  | some e => exact .bootstrapFailed s (isLoginRejected_of_loginPageError herr)

/-- A login chain goes on, or it does not end in a response. -/
theorem followed (s : Orchestrator) (hop : Nat) {r : Reply} (hend : endsChain r = none) :
    SameLatch s (s.followed libs hop r) := by
  have hchain : SameLatch s (s.record (.chainReply r)) :=
    .record s (by rintro r' h'; cases h'; exact hend)
  refine hchain.trans ?_
  simp only [Orchestrator.followed]
  cases hhop : followHop libs r with
  | code code => exact ⟨rfl, chainEnds_snoc (by simp)⟩
  | redirect =>
    by_cases hlast : hop + 1 < 6
    · simp only [if_pos hlast]
      exact ⟨rfl, rfl⟩
    · simp only [if_neg hlast]
      exact .bootstrapFailed _ rfl
  | failed e => exact .bootstrapFailed _ (isLoginRejected_of_followHop hend hhop)

end SameLatch

/-- Every other step leaves the latch and the chain ends as they are. -/
theorem sameLatch_of_chainEnd {a : Action} (h : s.chainEnd a = none) (hs : s.step libs a = some s') :
    SameLatch s s' := by
  cases Orchestrator.moves_of_step libs hs with
  | call => exact .call s _ _
  | cancel => exact ⟨rfl, rfl⟩
  | refreshed => exact .refreshed s _ _
  | loginPage => exact .loginPage s _
  | followed hpc => exact .followed s _ (by simpa [Orchestrator.chainEnd, hpc] using h)
  | exchanged => exact .exchanged s _ _

/-- The latch is set exactly when some login chain ended in a response without a Location header. -/
theorem failed_iff {file : TokenFile} (h : Transition.Reachable (authSystem libs file) s) :
    s.failed = true ↔ chainEnds s.log ≠ [] := by
  have hstep : ∀ (t : Orchestrator) a t', t.step libs a = some t' → (t.failed = true ↔ chainEnds t.log ≠ []) →
      (t'.failed = true ↔ chainEnds t'.log ≠ []) := by
    intro t a t' hs ih
    cases hend : t.chainEnd a with
    | none =>
      obtain ⟨hfailed, hends⟩ := sameLatch_of_chainEnd hend hs
      rw [hfailed, hends, ih]
    | some resp =>
      obtain ⟨hfailed, hends⟩ := latch_of_chainEnd hend hs
      simp [hfailed, hends]
  refine h.induct ?_ fun t a t' _ _ hs ih => hstep t a t' hs ih
  simp [authSystem, Orchestrator.new, chainEnds]

theorem rejected_step {a : Action} (hok : s.sparesServerErrors a = true) (hs : s.step libs a = some s')
    (h : s.failed = true → ∃ resp ∈ chainEnds s.log, resp.isServerError = false)
    (hfailed' : s'.failed = true) : ∃ resp ∈ chainEnds s'.log, resp.isServerError = false := by
  cases hend : s.chainEnd a with
  | none =>
    obtain ⟨hfailed, hends⟩ := sameLatch_of_chainEnd hend hs
    rw [hends]
    exact h (hfailed ▸ hfailed')
  | some resp =>
    obtain ⟨-, hends⟩ := latch_of_chainEnd hend hs
    have hcond : s.failed = true ∨ resp.isServerError = false := by
      simpa [Orchestrator.sparesServerErrors, hend] using hok
    rw [hends]
    rcases hcond with hlatched | hother
    · obtain ⟨old, hold, hstatus⟩ := h hlatched
      exact ⟨old, by simp [hold], hstatus⟩
    · exact ⟨resp, by simp, hother⟩

/-- A step without the condition sets the latch while every login chain so far ended in a server
error. -/
theorem spurious_of_step {file : TokenFile} {a : Action}
    (h : Transition.Reachable (authSystem libs file) s) (hs : s.step libs a = some s')
    (hbad : s.sparesServerErrors a = false) :
    s'.failed = true ∧ ∀ resp ∈ chainEnds s'.log, resp.isServerError = true := by
  have hnone : s.failed = false → chainEnds s.log = [] := by
    intro hfailed
    by_contra hne
    simp [(failed_iff h).mpr hne] at hfailed
  cases hend : s.chainEnd a with
  | none => simp [Orchestrator.sparesServerErrors, hend] at hbad
  | some resp =>
    obtain ⟨hfailed', hends⟩ := latch_of_chainEnd hend hs
    have hcond : s.failed = false ∧ resp.isServerError = true := by
      simpa [Orchestrator.sparesServerErrors, hend] using hbad
    refine ⟨hfailed', ?_⟩
    rw [hends, hnone hcond.1]
    simpa using hcond.2

/-- Unless some login chain ends in a server error, the latch is set only after one ended in another
response. -/
theorem rejected_of_failed {file : TokenFile}
    (h : Transition.ReachableWhere (authSystem libs file)
      (fun s a => s.sparesServerErrors a = true) s) :
    s.failed = true ∨ (healthz s.failed).1 = 503 →
      ∃ resp ∈ chainEnds s.log, resp.isServerError = false := by
  have hlatch : s.failed = true → ∃ resp ∈ chainEnds s.log, resp.isServerError = false :=
    h.induct (by simp [authSystem, Orchestrator.new])
      fun _ _ _ _ hok hs ih => rejected_step hok hs ih
  rintro (hfailed | hhealth)
  · exact hlatch hfailed
  · cases hfailed : s.failed with
    | true => exact hlatch hfailed
    | false => simp [healthz, hfailed] at hhealth

/-- The form is shown again after wrong credentials. -/
theorem rejected_of_failed_wrong : ∃ s, Transition.Reachable (authSystem Sample.libs .absent) s ∧
    s.failed = true ∧ (healthz s.failed).1 = 503 ∧
      ∃ resp ∈ chainEnds s.log, resp.isServerError = false := by
  obtain ⟨s, hr, hp⟩ := Transition.exists_reachableWhere_of_runWhere (authSystem Sample.libs .absent)
    Orchestrator.sparesServerErrors
    [.call 100 none, .reply Sample.loginForm none, .reply Sample.loginForm none]
    (fun s => s.failed) (by decide +kernel)
  exact ⟨s, hr.reachable, hp, by simp [hp, healthz], rejected_of_failed hr (.inl hp)⟩

/-- The account server is overloaded when the login form is sent. -/
theorem not_rejected_unavailable : ¬ ∀ s, Transition.Reachable (authSystem Sample.libs .absent) s →
    s.failed = true ∨ (healthz s.failed).1 = 503 →
      ∃ resp ∈ chainEnds s.log, resp.isServerError = false := by
  intro hall
  obtain ⟨s, hr, hp⟩ := Transition.exists_reachable_of_run (authSystem Sample.libs .absent)
    [.call 100 none, .reply Sample.loginForm none, .reply (Sample.page 503 "busy") none]
    (fun s => s.failed && (chainEnds s.log).all Response.isServerError) (by decide +kernel)
  rw [Bool.and_eq_true, List.all_eq_true] at hp
  obtain ⟨resp, hmem, hother⟩ := hall s hr (.inl hp.1)
  simp [hp.2 resp hmem] at hother

end Buddy3dProxy.Prusa
