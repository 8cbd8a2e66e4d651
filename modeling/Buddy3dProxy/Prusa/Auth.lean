import Buddy3dProxy.Jwt
import Buddy3dProxy.Prusa.Client
import Buddy3dProxy.TokenStore
import Buddy3dProxy.Transition.System

/-!
# The auth orchestrator

`prusa/auth.rs`: the calls of `access_token` on one `AuthOrchestrator`. They take their turns at the
lock of its state; a call waits where the source awaits a reply, and there it can also be cancelled.
-/

namespace Buddy3dProxy.Prusa

open Rust (SystemTime)

inductive AuthError where
  | http (e : ClientError)
  | noCsrf
  | loginRejected (status : UInt16) (bodyPreview : String)
  | noAuthCode
  | badTokenResponse (e : String)
  deriving DecidableEq, Repr

def AuthError.isLoginRejected : AuthError → Bool
  | loginRejected _ _ => true
  | _ => false

structure TokenResponse where
  accessToken : String
  refreshToken : String
  deriving DecidableEq, Repr

/-- What the code uses of `reqwest`, `url` and `serde_json`. -/
structure AuthLibs where
  /-- `Url::join`. -/
  join : String → String → Except String String
  /-- `Url::query_pairs`. -/
  queryPairs : String → List (String × String)
  /-- `Response::text` on the bytes of a body. -/
  text : List UInt8 → String
  /-- `from_slice::<TokenResponse>`. -/
  tokenResponse : List UInt8 → Except String TokenResponse
  jwt : Jwt.Libs

/-- What the form of a request to `/o/token/` tells beside its constants. -/
inductive TokenRequest where
  | refreshToken (token : String)
  | authorizationCode (code : String)
  deriving DecidableEq, Repr

/-- What happened, in order. -/
inductive Entry where
  /-- The token file was read. -/
  | loaded (tokens : StoredTokens)
  | tokenRequest (q : TokenRequest)
  /-- The reply to a request to `/o/token/`. -/
  | tokenReply (r : Reply)
  /-- The reply to the login request or to a redirect request after it. -/
  | chainReply (r : Reply)
  | returned (result : Except AuthError String)

/-- The reply the call awaits. -/
inductive CallPc where
  /-- There is no call. -/
  | idle
  | refreshing
  | loginPage
  /-- In `follow_chain_for_code`, after `hop` redirects. -/
  | following (hop : Nat)
  | exchanging
  deriving DecidableEq, Repr

structure Orchestrator where
  state : Option StoredTokens
  failed : Bool
  file : TokenFile
  pc : CallPc
  log : List Entry

inductive Action where
  /-- A call takes its turn; `fault` is the error when reading the token file fails. -/
  | call (now : SystemTime) (fault : Option String)
  /-- The reply awaited arrives; `fault` is the error when saving the tokens it brings fails. -/
  | reply (r : Reply) (fault : Option TokenStoreError)
  /-- The call is dropped. -/
  | cancel

section Pure

variable (libs : AuthLibs)

/-- `resp.json()`. -/
def json (r : Response) : Except String TokenResponse :=
  match r.body with
  | .ok bytes => libs.tokenResponse bytes
  | .error e => .error e

/-- The tokens with the expiry of the access token; `none` when reading it panics. -/
def withExpiry (tokens : TokenResponse) : Option (Except AuthError StoredTokens) :=
  match Jwt.readExp libs.jwt tokens.accessToken.toList with
  | none => none
  | some (.error e) => some (.error (.badTokenResponse e.text))
  | some (.ok expires) =>
    some (.ok ⟨tokens.accessToken, tokens.refreshToken, .ofNat expires.secsSinceEpoch⟩)

/-- The end of `bootstrap` and of `refresh`: the tokens of a reply to a token request; `none` when the
code panics. -/
def receiveTokens (reply : Reply) : Option (Except AuthError StoredTokens) :=
  match send libs.text reply with
  | .error e => some (.error (.http e))
  | .ok r =>
    match json libs r with
    | .error e => some (.error (.badTokenResponse e))
    | .ok tokens => withExpiry libs tokens

/-- `extract_csrf`. -/
def extractCsrf (html : List Char) : Option (List Char) := do
  let needle := "name=\"csrfmiddlewaretoken\" value=\"".toList
  let start ← (Rust.find needle html).map (· + needle.length)
  let length ← Rust.find ['"'] (html.drop start)
  return (html.drop start).take length

/-- The error of `bootstrap` on the login page, if it has one. -/
def loginPageError : Reply → Option AuthError
  | .error e => some (.badTokenResponse e)
  | .ok r =>
    match r.body with
    | .error e => some (.badTokenResponse e)
    | .ok bytes =>
      if (extractCsrf (libs.text bytes).toList).isSome then none else some .noCsrf

/-- What one turn of the loop in `follow_chain_for_code` comes to. -/
inductive Hop where
  | code (code : String)
  | redirect
  | failed (e : AuthError)
  deriving DecidableEq, Repr

def followHop : Reply → Hop
  | .error e => .failed (.badTokenResponse e)
  | .ok r =>
    match r.location with
    | some loc =>
      match libs.join r.url loc with
      | .error e => .failed (.badTokenResponse e)
      | .ok url =>
        match (libs.queryPairs url).find? (·.1 = "code") with
        | some (_, v) => .code v
        | none => .redirect
    | none => .failed (.loginRejected r.status (bodyPreview libs.text r))

end Pure

/-- `access_about_to_expire`: less than a minute is left; `none` when the code panics. -/
def accessAboutToExpire (tokens : StoredTokens) (now : SystemTime) : Option Bool :=
  tokens.accessExpires.map fun expires => expires - now < 60 * 1000000000

namespace Orchestrator

/-- A process that starts with this token file. -/
def new (file : TokenFile) : Orchestrator := ⟨none, false, file, .idle, []⟩

def record (s : Orchestrator) (e : Entry) : Orchestrator := { s with log := s.log ++ [e] }

/-- The call returns. -/
def finish (s : Orchestrator) (result : Except AuthError String) : Orchestrator :=
  { s with pc := .idle }.record (.returned result)

/-- The call ends without returning: it panics or is dropped, and gives up the lock. -/
def abandon (s : Orchestrator) : Orchestrator := { s with pc := .idle }

/-- The tokens are read from the file unless the process has some. -/
def loadState (s : Orchestrator) (fault : Option String) : Except TokenStoreError Orchestrator :=
  match s.state with
  | some _ => .ok s
  | none =>
    match s.file.load fault with
    | .error e => .error e
    | .ok none => .ok s
    | .ok (some t) => .ok ({ s with state := some t }.record (.loaded t))

/-- `access_token` on the tokens in use: they are refreshed if they are about to expire. -/
def refreshIf (s : Orchestrator) (t : StoredTokens) : Option Bool → Orchestrator
  | none => s.abandon
  | some false => s.finish (.ok t.accessToken)
  | some true =>
    { s with pc := .refreshing }.record (.tokenRequest (.refreshToken t.refreshToken))

/-- The first request of `access_token`, unless the tokens it has are good for longer. -/
def request (s : Orchestrator) (now : SystemTime) : Orchestrator :=
  match s.state with
  | none => { s with pc := .loginPage }
  | some t => s.refreshIf t (accessAboutToExpire t now)

/-- `access_token` up to its first request. -/
def call (s : Orchestrator) (now : SystemTime) (fault : Option String) : Orchestrator :=
  match s.loadState fault with
  | .error e => s.finish (.error (.badTokenResponse e.text))
  | .ok s => s.request now

/-- `bootstrap_and_latch` on an error. -/
def bootstrapFailed (s : Orchestrator) (e : AuthError) : Orchestrator :=
  { s with failed := s.failed || e.isLoginRejected }.finish (.error e)

/-- `access_token` with new tokens. -/
def store (s : Orchestrator) (t : StoredTokens) (fault : Option TokenStoreError) : Orchestrator :=
  match fault with
  | some e => { s with file := s.file.save t fault }.finish (.error (.badTokenResponse e.text))
  | none => { s with file := s.file.save t fault, state := some t }.finish (.ok t.accessToken)

section Replies

variable (libs : AuthLibs)

/-- The reply to the refresh request. -/
def refreshed (s : Orchestrator) (r : Reply) (fault : Option TokenStoreError) : Orchestrator :=
  let s := s.record (.tokenReply r)
  match receiveTokens libs r with
  | none => s.abandon
  | some (.ok t) => s.store t fault
  | some (.error (.http (.client _ _))) => { s with pc := .loginPage }
  | some (.error e) => s.finish (.error e)

/-- The login page. -/
def loginPage (s : Orchestrator) (r : Reply) : Orchestrator :=
  match loginPageError libs r with
  | some e => s.bootstrapFailed e
  | none => { s with pc := .following 0 }

/-- The reply to the login request or to a redirect request. -/
def followed (s : Orchestrator) (hop : Nat) (r : Reply) : Orchestrator :=
  let s := s.record (.chainReply r)
  match followHop libs r with
  | .code code => { s with pc := .exchanging }.record (.tokenRequest (.authorizationCode code))
  | .redirect =>
    if hop + 1 < 6 then { s with pc := .following (hop + 1) } else s.bootstrapFailed .noAuthCode
  | .failed e => s.bootstrapFailed e

/-- The reply to the exchange of the code. -/
def exchanged (s : Orchestrator) (r : Reply) (fault : Option TokenStoreError) : Orchestrator :=
  let s := s.record (.tokenReply r)
  match receiveTokens libs r with
  | none => s.abandon
  | some (.ok t) => s.store t fault
  | some (.error e) => s.bootstrapFailed e

def step (s : Orchestrator) : Action → Option Orchestrator
  | .call now fault => if s.pc = .idle then some (s.call now fault) else none
  | .reply r fault =>
    match s.pc with
    | .idle => none
    | .refreshing => some (s.refreshed libs r fault)
    | .loginPage => some (s.loginPage libs r)
    | .following hop => some (s.followed libs hop r)
    | .exchanging => some (s.exchanged libs r fault)
  | .cancel => if s.pc = .idle then none else some s.abandon

/-- What a step can be. -/
inductive Moves (s : Orchestrator) : Action → Orchestrator → Prop where
  | call {now : SystemTime} {fault : Option String} (hpc : s.pc = .idle) :
    Moves s (.call now fault) (s.call now fault)
  | cancel : Moves s .cancel s.abandon
  | refreshed {r : Reply} {fault : Option TokenStoreError} (hpc : s.pc = .refreshing) :
    Moves s (.reply r fault) (s.refreshed libs r fault)
  | loginPage {r : Reply} {fault : Option TokenStoreError} (hpc : s.pc = .loginPage) :
    Moves s (.reply r fault) (s.loginPage libs r)
  | followed {hop : Nat} {r : Reply} {fault : Option TokenStoreError} (hpc : s.pc = .following hop) :
    Moves s (.reply r fault) (s.followed libs hop r)
  | exchanged {r : Reply} {fault : Option TokenStoreError} (hpc : s.pc = .exchanging) :
    Moves s (.reply r fault) (s.exchanged libs r fault)

theorem moves_of_step {s s' : Orchestrator} {a : Action} (hs : s.step libs a = some s') :
    s.Moves libs a s' := by
  cases a with
  | call now fault =>
    by_cases hpc : s.pc = .idle
    · simp only [step, hpc, if_true, Option.some.injEq] at hs
      exact hs ▸ .call hpc
    · simp [step, hpc] at hs
  | cancel =>
    by_cases hpc : s.pc = .idle
    · simp [step, hpc] at hs
    · simp only [step, hpc, if_false, Option.some.injEq] at hs
      exact hs ▸ .cancel
  | reply r fault =>
    cases hpc : s.pc <;> simp only [step, hpc, Option.some.injEq, reduceCtorEq] at hs
    case refreshing => exact hs ▸ .refreshed hpc
    case loginPage => exact hs ▸ .loginPage hpc
    case following hop => exact hs ▸ .followed hpc
    case exchanging => exact hs ▸ .exchanged hpc

end Replies

end Orchestrator

/-- The runs of an orchestrator that starts with the given token file. -/
def authSystem (libs : AuthLibs) (file : TokenFile) : Transition.System Orchestrator Action :=
  ⟨.new file, Orchestrator.step libs⟩

/-! ## A server's replies -/

namespace Sample

/-- The bytes of a text in ASCII. -/
def ascii (text : String) : List UInt8 := text.toList.map fun c => .ofNat c.toNat

/-- A response without a Location header. -/
def page (status : UInt16) (text : String) : Reply :=
  .ok ⟨status, "https://account.prusa3d.com/", none, .ok (ascii text)⟩

/-- Tokens, the access token with `exp` 9. -/
def tokens : Reply :=
  page 200 "\x7b\"access_token\":\"h.eyJleHAiOjl9.s\",\"refresh_token\":\"r1\"\x7d"

def loginForm : Reply := page 200 "<input name=\"csrfmiddlewaretoken\" value=\"x\">"

/-- The libraries on these replies. -/
def libs : AuthLibs where
  join _ loc := .ok loc
  queryPairs _ := []
  text bytes := String.ofList (bytes.map fun b => .ofNat b.toNat)
  tokenResponse bytes :=
    if bytes = ascii "\x7b\"access_token\":\"h.eyJleHAiOjl9.s\",\"refresh_token\":\"r1\"\x7d" then
      .ok ⟨"h.eyJleHAiOjl9.s", "r1"⟩
    else .error "expected value at line 1 column 1"
  jwt :=
    { base64Decode := fun text =>
        if text = "eyJleHAiOjl9".toList then some (ascii "\x7b\"exp\":9\x7d") else none
      valueFromSlice := fun bytes =>
        if bytes = ascii "\x7b\"exp\":9\x7d" then some (.obj [("exp", .nat 9)]) else none
      asF64 := fun
        | .nat n => some n.toNat
        | _ => none }

/-- A token file from an earlier process. -/
def file : TokenFile := .tokens ⟨"h.e.s", "r0", 1⟩

end Sample

end Buddy3dProxy.Prusa
