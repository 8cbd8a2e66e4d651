import Buddy3dProxy.Prusa.Auth
import Buddy3dProxy.Transition.Log

/-!
# The refresh token in use

Which refresh token the orchestrator sends, and whether the one most recently issued survives: a token
that is rotated is of use only once `access_token` has got its expiry and has saved it.
-/

namespace Buddy3dProxy.Prusa

variable (libs : AuthLibs)

/-- The tokens that a reply to a token request issues. -/
def issuedBy (r : Reply) : Option TokenResponse :=
  match send libs.text r with
  | .ok resp => (json libs resp).toOption
  | .error _ => none

/-- The refresh tokens issued to the process, oldest first. -/
def issuedTokens (log : List Entry) : List String :=
  log.filterMap fun
    | .tokenReply r => (issuedBy libs r).map (·.refreshToken)
    | _ => none

/-- The refresh tokens loaded from the token file, oldest first. -/
def loadedTokens (log : List Entry) : List String :=
  log.filterMap fun
    | .loaded t => some t.refreshToken
    | _ => none

/-- The refresh token most recently issued, or the one loaded if none was issued yet. -/
def currentToken (log : List Entry) : Option String :=
  (issuedTokens libs log).getLast?.or (loadedTokens log).getLast?

/-- The token that a refresh request sends. -/
@[simp] def Entry.refreshToken? : Entry → Option String
  | .tokenRequest (.refreshToken token) => some token
  | _ => none

/-- Every refresh request sends the token that is current at the time. -/
def RefreshesCurrent (log : List Entry) : Prop :=
  Transition.OnLog (fun pre e => ∀ token, e.refreshToken? = some token →
    currentToken libs pre = some token) log

/-- The refresh token most recently issued is still there, in memory and in the token file. -/
def Orchestrator.KeepsIssued (s : Orchestrator) : Prop :=
  ∀ token, (issuedTokens libs s.log).getLast? = some token →
    s.state.map (·.refreshToken) = some token ∧
      ∃ t, s.file = .tokens t ∧ t.refreshToken = token

/-- The expiry of an access token can be read. -/
def TokenResponse.readable (t : TokenResponse) : Bool :=
  match Jwt.readExp libs.jwt t.accessToken.toList with
  | some (.ok _) => true
  | _ => false

/-- A reply that issues tokens is one whose expiry can be read and that is then saved, unless it brings
the refresh token the process has anyway. -/
def Orchestrator.persists (s : Orchestrator) : Action → Bool
  | .reply r fault =>
    match s.pc, issuedBy libs r with
    | .refreshing, some t | .exchanging, some t =>
      (t.readable libs && fault = none) || s.state.map (·.refreshToken) = some t.refreshToken
    | _, _ => true
  | _ => true

/-! ## The tokens of a reply -/

variable {libs : AuthLibs}

/-- A reply without tokens is an error for the call. -/
theorem receiveTokens_of_issuedBy_none {r : Reply} (h : issuedBy libs r = none) :
    ∃ e, receiveTokens libs r = some (.error e) := by
  unfold issuedBy at h
  unfold receiveTokens
  cases hsend : send libs.text r with
  | error e => exact ⟨.http e, rfl⟩
  | ok resp =>
    simp only [hsend] at h
    cases hjson : json libs resp with
    | error e => exact ⟨.badTokenResponse e, by simp [hjson]⟩
    | ok t => simp [hjson, Except.toOption] at h

theorem receiveTokens_of_issuedBy {r : Reply} {t : TokenResponse} (h : issuedBy libs r = some t) :
    receiveTokens libs r = withExpiry libs t := by
  unfold issuedBy at h
  unfold receiveTokens
  cases hsend : send libs.text r with
  | error e => simp [hsend] at h
  | ok resp =>
    simp only [hsend] at h
    cases hjson : json libs resp with
    | error e => simp [hjson, Except.toOption] at h
    | ok t' =>
      obtain rfl : t' = t := by simpa [hjson, Except.toOption] using h
      simp [hjson]

theorem withExpiry_of_readable {t : TokenResponse} (h : t.readable libs = true) :
    ∃ new, withExpiry libs t = some (.ok new) ∧ new.refreshToken = t.refreshToken := by
  unfold TokenResponse.readable at h
  unfold withExpiry
  cases hexp : Jwt.readExp libs.jwt t.accessToken.toList with
  | none => simp [hexp] at h
  | some result =>
    cases result with
    | error e => simp [hexp] at h
    | ok expires => exact ⟨_, rfl, rfl⟩

theorem withExpiry_of_not_readable {t : TokenResponse} (h : t.readable libs = false) :
    withExpiry libs t = none ∨ ∃ e, withExpiry libs t = some (.error (.badTokenResponse e)) := by
  unfold TokenResponse.readable at h
  unfold withExpiry
  cases hexp : Jwt.readExp libs.jwt t.accessToken.toList with
  | none => exact .inl rfl
  | some result =>
    cases result with
    | error e => exact .inr ⟨e.text, rfl⟩
    | ok expires => simp [hexp] at h

/-- The condition on a reply that issues tokens to a call. -/
theorem persists_iff {s : Orchestrator} (hpc : s.pc = .refreshing ∨ s.pc = .exchanging) {r : Reply}
    {t : TokenResponse} (h : issuedBy libs r = some t) {fault : Option TokenStoreError} :
    s.persists libs (.reply r fault) = true ↔
      (t.readable libs = true ∧ fault = none) ∨
        s.state.map (·.refreshToken) = some t.refreshToken := by
  rcases hpc with hpc | hpc <;> simp [Orchestrator.persists, hpc, h]

/-! ## The current token -/

/-- An entry that neither issues nor loads a token. -/
theorem currentToken_snoc {log : List Entry} {e : Entry}
    (hreply : ∀ r, e = .tokenReply r → issuedBy libs r = none) (hload : ∀ t, e ≠ .loaded t) :
    currentToken libs (log ++ [e]) = currentToken libs log := by
  cases e with
  | loaded t => exact absurd rfl (hload t)
  | tokenReply r => simp [currentToken, issuedTokens, loadedTokens, hreply r rfl]
  | _ => simp [currentToken, issuedTokens, loadedTokens]

theorem currentToken_snoc_issued {log : List Entry} {r : Reply} {t : TokenResponse}
    (h : issuedBy libs r = some t) :
    currentToken libs (log ++ [.tokenReply r]) = some t.refreshToken := by
  simp [currentToken, issuedTokens, h]

/-- A token is loaded into a process that has none. -/
theorem currentToken_snoc_loaded {log : List Entry} (h : currentToken libs log = none)
    (t : StoredTokens) : currentToken libs (log ++ [.loaded t]) = some t.refreshToken := by
  have hissued : issuedTokens libs log = [] := by
    simp only [currentToken, Option.or_eq_none_iff, List.getLast?_eq_none_iff] at h
    exact h.1
  have hissued' : issuedTokens libs (log ++ [.loaded t]) = [] := by
    simpa [issuedTokens, List.filterMap_append] using hissued
  simp [currentToken, hissued', loadedTokens]

/-- The token in use is the current one, and the token file has it. -/
structure TokenInv (libs : AuthLibs) (s : Orchestrator) : Prop where
  refreshes : RefreshesCurrent libs s.log
  current : currentToken libs s.log = s.state.map (·.refreshToken)
  file : ∀ t, s.state = some t → s.file = .tokens t

namespace TokenInv

variable {s s' : Orchestrator}

theorem new (file : TokenFile) : TokenInv libs (.new file) where
  refreshes := .nil
  current := rfl
  file := by simp [Orchestrator.new]

/-- The invariant is one about the tokens, the token file and the log. -/
theorem congr (h : TokenInv libs s) (hlog : s'.log = s.log) (hstate : s'.state = s.state)
    (hfile : s'.file = s.file) : TokenInv libs s' where
  refreshes := hlog ▸ h.refreshes
  current := by rw [hlog, hstate]; exact h.current
  file := by rw [hstate, hfile]; exact h.file

/-- An entry is recorded, after which the token in use is current. -/
theorem record (h : TokenInv libs s) {e : Entry}
    (hreq : ∀ token, e.refreshToken? = some token → currentToken libs s.log = some token)
    (hcur : currentToken libs (s.log ++ [e]) = currentToken libs s.log) :
    TokenInv libs (s.record e) where
  refreshes := h.refreshes.snoc hreq
  current := hcur.trans h.current
  file := h.file

theorem finish (h : TokenInv libs s) (result : Except AuthError String) :
    TokenInv libs (s.finish result) := by
  have hidle : TokenInv libs { s with pc := .idle } := h.congr rfl rfl rfl
  exact hidle.record (by simp) (currentToken_snoc (by simp) (by simp))

theorem bootstrapFailed (h : TokenInv libs s) (e : AuthError) :
    TokenInv libs (s.bootstrapFailed e) := by
  have hlatch : TokenInv libs { s with failed := s.failed || e.isLoginRejected } := h.congr rfl rfl rfl
  exact hlatch.finish _

theorem loadState (h : TokenInv libs s) {fault : Option String} (hs : s.loadState fault = .ok s') :
    TokenInv libs s' := by
  unfold Orchestrator.loadState at hs
  cases hstate : s.state with
  | some t =>
    simp only [hstate, Except.ok.injEq] at hs
    exact hs ▸ h
  | none =>
    cases hload : s.file.load fault with
    | error e => simp [hstate, hload] at hs
    | ok loaded =>
      cases loaded with
      | none =>
        simp only [hstate, hload, Except.ok.injEq] at hs
        exact hs ▸ h
      | some t =>
        simp only [hstate, hload, Except.ok.injEq] at hs
        subst hs
        have hnone : currentToken libs s.log = none := by rw [h.current, hstate]; rfl
        refine ⟨h.refreshes.snoc (by simp), currentToken_snoc_loaded hnone t, ?_⟩
        rintro t' ht'
        cases ht'
        -- what was loaded is what the file holds
        cases fault <;> cases hfile : s.file <;> simp_all [TokenFile.load, Orchestrator.record]

theorem refreshIf (h : TokenInv libs s) {t : StoredTokens} (hstate : s.state = some t)
    (due : Option Bool) : TokenInv libs (s.refreshIf t due) := by
  cases due with
  | none => exact h.congr rfl rfl rfl
  | some due =>
    cases due with
    | false => exact h.finish (.ok t.accessToken)
    | true =>
      have hwait : TokenInv libs { s with pc := .refreshing } := h.congr rfl rfl rfl
      refine hwait.record ?_ (currentToken_snoc (by simp) (by simp))
      rintro token htoken
      cases htoken
      rw [h.current, hstate]
      rfl

theorem request (h : TokenInv libs s) (now : Rust.SystemTime) : TokenInv libs (s.request now) := by
  unfold Orchestrator.request
  cases hstate : s.state with
  | none => exact h.congr rfl hstate.symm rfl
  | some t => exact h.refreshIf hstate _

theorem call (h : TokenInv libs s) (now : Rust.SystemTime) (fault : Option String) :
    TokenInv libs (s.call now fault) := by
  unfold Orchestrator.call
  cases hload : s.loadState fault with
  | error e => exact h.finish _
  | ok s₁ => exact (h.loadState hload).request now

/-- The reply to a token request, whose tokens are saved or are those in use. -/
theorem reply (h : TokenInv libs s) {r : Reply} {fault : Option TokenStoreError}
    (hpc : s.pc = .refreshing ∨ s.pc = .exchanging) (hok : s.persists libs (.reply r fault) = true) :
    (∃ new, receiveTokens libs r = some (.ok new) ∧
      TokenInv libs ((s.record (.tokenReply r)).store new fault)) ∨
    (∀ new, receiveTokens libs r ≠ some (.ok new)) ∧ TokenInv libs (s.record (.tokenReply r)) := by
  cases hissued : issuedBy libs r with
  | none =>
    obtain ⟨e, he⟩ := receiveTokens_of_issuedBy_none hissued
    right
    refine ⟨by simp [he], h.record (by simp) (currentToken_snoc ?_ (by simp))⟩
    rintro r' hr'
    cases hr'
    exact hissued
  | some t =>
    -- with the token in use issued again, nothing can be lost
    have hsame : s.state.map (·.refreshToken) = some t.refreshToken →
        TokenInv libs (s.record (.tokenReply r)) := by
      intro hstate
      refine h.record (by simp) ?_
      rw [currentToken_snoc_issued hissued, h.current, hstate]
    have hsaved := (persists_iff hpc hissued).mp hok
    rw [receiveTokens_of_issuedBy hissued]
    by_cases hread : t.readable libs = true
    · obtain ⟨new, hnew, htoken⟩ := withExpiry_of_readable hread
      left
      refine ⟨new, hnew, ?_⟩
      cases fault with
      | none =>
        have hstored : TokenInv libs { s with
            log := s.log ++ [.tokenReply r], file := .tokens new, state := some new } := by
          refine ⟨h.refreshes.snoc (by simp), ?_, by simp⟩
          simp [currentToken_snoc_issued hissued, htoken]
        exact hstored.finish _
      | some e =>
        have hrec := hsame (hsaved.resolve_left (by simp))
        exact (hrec.congr rfl rfl rfl).finish _
    · have hrec := hsame (hsaved.resolve_left (by simp [hread]))
      refine .inr ⟨?_, hrec⟩
      rcases withExpiry_of_not_readable (by simpa using hread) with hnone | ⟨e, he⟩
      · simp [hnone]
      · simp [he]

theorem refreshed (h : TokenInv libs s) {r : Reply} {fault : Option TokenStoreError}
    (hpc : s.pc = .refreshing) (hok : s.persists libs (.reply r fault) = true) :
    TokenInv libs (s.refreshed libs r fault) := by
  unfold Orchestrator.refreshed
  rcases h.reply (.inl hpc) hok with ⟨new, hnew, hinv⟩ | ⟨hnot, hinv⟩
  · simp only [hnew]
    exact hinv
  · split
    · exact hinv.congr rfl rfl rfl
    · rename_i new hnew
      exact absurd hnew (hnot new)
    · exact hinv.congr rfl rfl rfl
    · exact hinv.finish _

theorem exchanged (h : TokenInv libs s) {r : Reply} {fault : Option TokenStoreError}
    (hpc : s.pc = .exchanging) (hok : s.persists libs (.reply r fault) = true) :
    TokenInv libs (s.exchanged libs r fault) := by
  unfold Orchestrator.exchanged
  rcases h.reply (.inr hpc) hok with ⟨new, hnew, hinv⟩ | ⟨hnot, hinv⟩
  · simp only [hnew]
    exact hinv
  · split
    · exact hinv.congr rfl rfl rfl
    · rename_i new hnew
      exact absurd hnew (hnot new)
    · exact hinv.bootstrapFailed _

theorem followed (h : TokenInv libs s) (hop : Nat) (r : Reply) :
    TokenInv libs (s.followed libs hop r) := by
  have hchain : TokenInv libs (s.record (.chainReply r)) :=
    h.record (by simp) (currentToken_snoc (by simp) (by simp))
  unfold Orchestrator.followed
  cases followHop libs r with
  | code code =>
    have hwait : TokenInv libs { s.record (.chainReply r) with pc := .exchanging } :=
      hchain.congr rfl rfl rfl
    exact hwait.record (by simp) (currentToken_snoc (by simp) (by simp))
  | redirect =>
    by_cases hhop : hop + 1 < 6
    · simp only [if_pos hhop]
      exact hchain.congr rfl rfl rfl
    · simp only [if_neg hhop]
      exact hchain.bootstrapFailed _
  | failed e => exact hchain.bootstrapFailed e

theorem loginPage (h : TokenInv libs s) (r : Reply) : TokenInv libs (s.loginPage libs r) := by
  unfold Orchestrator.loginPage
  cases loginPageError libs r with
  | none => exact h.congr rfl rfl rfl
  | some e => exact h.bootstrapFailed e

theorem step (h : TokenInv libs s) {a : Action} (hok : s.persists libs a = true)
    (hs : s.step libs a = some s') : TokenInv libs s' := by
  cases Orchestrator.moves_of_step libs hs with
  | call => exact h.call _ _
  | cancel => exact h.congr rfl rfl rfl
  | loginPage => exact h.loginPage _
  | followed => exact h.followed _ _
  | refreshed hpc => exact h.refreshed hpc hok
  | exchanged hpc => exact h.exchanged hpc hok

/-- What was issued last is the token in use. -/
theorem keepsIssued (h : TokenInv libs s) : s.KeepsIssued libs := by
  intro token hlast
  have hcur : s.state.map (·.refreshToken) = some token := by
    rw [← h.current]
    simp [currentToken, hlast]
  obtain ⟨t, hstate, rfl⟩ := Option.map_eq_some_iff.mp hcur
  exact ⟨hcur, t, h.file t hstate, rfl⟩

/-- A call that ends with the tokens it had, after a reply that issued another refresh token. -/
theorem not_keepsIssued {r : Reply} {t : TokenResponse} (hissued : issuedBy libs r = some t)
    (hne : s.state.map (·.refreshToken) ≠ some t.refreshToken) (hstate : s'.state = s.state)
    (hlog : s'.log = s.log ++ [.tokenReply r] ∨
      ∃ result, s'.log = s.log ++ [.tokenReply r] ++ [.returned result]) : ¬ s'.KeepsIssued libs := by
  intro hkeeps
  have hlast : (issuedTokens libs s'.log).getLast? = some t.refreshToken := by
    rcases hlog with hlog | ⟨result, hlog⟩ <;> simp [hlog, issuedTokens, hissued]
  obtain ⟨hheld, -⟩ := hkeeps _ hlast
  exact hne (hstate ▸ hheld)

/-- Tokens that cannot be read or saved do not reach the call, and those it has are others. -/
theorem loss_of_not_persists {r : Reply} {fault : Option TokenStoreError}
    (hpc : s.pc = .refreshing ∨ s.pc = .exchanging)
    (hbad : s.persists libs (.reply r fault) = false) :
    ∃ t, issuedBy libs r = some t ∧ s.state.map (·.refreshToken) ≠ some t.refreshToken ∧
      ((∃ new e, receiveTokens libs r = some (.ok new) ∧ fault = some e) ∨
        receiveTokens libs r = none ∨
          ∃ e, receiveTokens libs r = some (.error (.badTokenResponse e))) := by
  cases hissued : issuedBy libs r with
  | none => rcases hpc with hpc | hpc <;> simp [Orchestrator.persists, hpc, hissued] at hbad
  | some t =>
    have hnot : ¬ s.persists libs (.reply r fault) = true := by simp [hbad]
    obtain ⟨hunsaved, hother⟩ := not_or.mp (mt (persists_iff hpc hissued).mpr hnot)
    refine ⟨t, rfl, hother, ?_⟩
    rw [receiveTokens_of_issuedBy hissued]
    by_cases hread : t.readable libs = true
    · obtain ⟨new, hnew, -⟩ := withExpiry_of_readable hread
      cases fault with
      | none => exact absurd ⟨hread, rfl⟩ hunsaved
      | some e => exact .inl ⟨new, e, hnew, rfl⟩
    · exact .inr (withExpiry_of_not_readable (by simpa using hread))

/-- A step without the condition loses the token it was issued. -/
theorem not_keepsIssued_of_step {a : Action} (hs : s.step libs a = some s')
    (hbad : s.persists libs a = false) : ¬ s'.KeepsIssued libs := by
  cases Orchestrator.moves_of_step libs hs with
  | call => simp [Orchestrator.persists] at hbad
  | cancel => simp [Orchestrator.persists] at hbad
  | loginPage hpc => simp [Orchestrator.persists, hpc] at hbad
  | followed hpc => simp [Orchestrator.persists, hpc] at hbad
  | refreshed hpc =>
    obtain ⟨t, hissued, hother, hloss⟩ := loss_of_not_persists (.inl hpc) hbad
    unfold Orchestrator.refreshed
    rcases hloss with ⟨new, e, hok, rfl⟩ | hnone | ⟨e, he⟩
    · simp only [hok]
      exact not_keepsIssued hissued hother rfl (.inr ⟨_, rfl⟩)
    · simp only [hnone]
      exact not_keepsIssued hissued hother rfl (.inl rfl)
    · simp only [he]
      exact not_keepsIssued hissued hother rfl (.inr ⟨_, rfl⟩)
  | exchanged hpc =>
    obtain ⟨t, hissued, hother, hloss⟩ := loss_of_not_persists (.inr hpc) hbad
    unfold Orchestrator.exchanged
    rcases hloss with ⟨new, e, hok, rfl⟩ | hnone | ⟨e, he⟩
    · simp only [hok]
      exact not_keepsIssued hissued hother rfl (.inr ⟨_, rfl⟩)
    · simp only [hnone]
      exact not_keepsIssued hissued hother rfl (.inl rfl)
    · simp only [he]
      exact not_keepsIssued hissued hother rfl (.inr ⟨_, rfl⟩)

end TokenInv

/-- As long as every reply that issues tokens has an expiry that can be read and is saved, every refresh
request sends the token that is current, and the token issued last is kept. -/
theorem refreshesCurrent_of_persists {file : TokenFile} {s : Orchestrator}
    (h : Transition.ReachableWhere (authSystem libs file) (fun s a => s.persists libs a = true) s) :
    RefreshesCurrent libs s.log ∧ s.KeepsIssued libs := by
  have hinv : TokenInv libs s := h.induct (.new file) fun _ _ _ _ hok hs hi => hi.step hok hs
  exact ⟨hinv.refreshes, hinv.keepsIssued⟩

/-- A process whose refresh token is rotated sends the new one the next time. -/
theorem refreshesCurrent_of_persists_rotated : ∃ s,
    Transition.Reachable (authSystem Sample.libs Sample.file) s ∧ s.pc = .refreshing ∧
      s.state.map (·.refreshToken) = some "r1" ∧ RefreshesCurrent Sample.libs s.log ∧
      s.KeepsIssued Sample.libs := by
  obtain ⟨s, hr, hp⟩ := Transition.exists_reachableWhere_of_runWhere (authSystem Sample.libs Sample.file)
    (Orchestrator.persists Sample.libs) [.call 100 none, .reply Sample.tokens none, .call 200 none]
    (fun s => decide (s.pc = .refreshing ∧ s.state.map (·.refreshToken) = some "r1")) (by decide +kernel)
  have hend := of_decide_eq_true hp
  exact ⟨s, hr.reachable, hend.1, hend.2, refreshesCurrent_of_persists hr⟩

/-- The rotated token cannot be saved, and the next refresh sends the old one. -/
theorem not_refreshesCurrent_rotated : ¬ ∀ s,
    Transition.Reachable (authSystem Sample.libs Sample.file) s →
      RefreshesCurrent Sample.libs s.log ∧ s.KeepsIssued Sample.libs := by
  intro hall
  obtain ⟨s, hr, hp⟩ := Transition.exists_reachable_of_run (authSystem Sample.libs Sample.file)
    [.call 100 none, .reply Sample.tokens (some (.io "No space left on device")), .call 200 none]
    (fun s => decide (s.log.getLast?.bind Entry.refreshToken? = some "r0" ∧
      currentToken Sample.libs s.log.dropLast = some "r1")) (by decide +kernel)
  obtain ⟨hlast, hcur⟩ := of_decide_eq_true hp
  obtain ⟨e, he, htoken⟩ := Option.bind_eq_some_iff.mp hlast
  have hlog : s.log = s.log.dropLast ++ [e] := (List.dropLast_append_getLast? e he).symm
  have hsent := (hall s hr).1 _ _ [] hlog "r0" htoken
  rw [hcur] at hsent
  exact absurd hsent (by decide)

end Buddy3dProxy.Prusa
