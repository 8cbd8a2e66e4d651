import Buddy3dProxy.Rtsp.Message
import Buddy3dProxy.Rtsp.Sdp

/-!
# The RTSP session

The per-connection state machine of `rtsp/session.rs`, and what holds of every sequence of requests
it handles.
-/

namespace Buddy3dProxy.Rtsp

/-- State of a single RTSP session. -/
inductive State where
  | init
  | described
  | setUp
  | playing
  | tornDown
  deriving DecidableEq, Repr

/-- Side effect for the connection. -/
inductive SessionAction where
  | none
  /-- Start forwarding RTP packets on this channel. -/
  | startStreaming (rtpChannel : UInt8)
  /-- Stop streaming and close the connection. -/
  | stop
  deriving DecidableEq, Repr

structure SessionContext where
  cameraName : String
  h264Params : H264Params
  expectedPath : String
  newSessionId : String
  deriving DecidableEq, Repr

structure Session where
  state : State
  sessionId : Option String
  /-- Lower interleaved channel of the client's transport. -/
  rtpChannel : Option UInt8
  deriving DecidableEq, Repr

/-- Match the path of a URI, or a bare path, against the expected one. -/
def uriMatches (uri expectedPath : String) : Bool :=
  let pathPart :=
    match (Rust.splitN 4 '/' uri.toList)[3]? with
    | some s => s.dropWhile (· = '/')
    | none => uri.toList.dropWhile (· = '/')
  let main := (Rust.split ['/'] pathPart).head?.getD []
  String.ofList ((Rust.split [';'] main).head?.getD []) = expectedPath

/-- The two channels of the first `interleaved=A-B` part of a transport. -/
def parseInterleaved (transport : String) : Option (UInt8 × UInt8) :=
  if "RTP/AVP/TCP".toList <:+: transport.toList then
    match (Rust.split [';'] transport.toList).findSome? fun part =>
      "interleaved=".toList.isPrefixOf? (Rust.trim part) with
    | none => none
    | some rest => do
      let (a, b) ← Rust.splitOnce '-' rest
      let a ← Rust.parseUnsigned 256 a
      let b ← Rust.parseUnsigned 256 b
      return (UInt8.ofNat a, UInt8.ofNat b)
  else none

/-- The value of the transport header of a SETUP answer. -/
def transportValue (lo hi : UInt8) : String :=
  "RTP/AVP/TCP;unicast;interleaved=" ++ toString lo ++ "-" ++ toString hi

namespace Session

def new : Session := ⟨.init, none, none⟩

/-- Process a request: the session after it, the response and the side effect. -/
def handle (s : Session) (req : Request) (ctx : SessionContext) :
    Session × Response × SessionAction :=
  let cseq := req.cseq.getD 0
  if !uriMatches req.uri ctx.expectedPath && req.method ≠ .options then
    (s, .error 404 "Not Found" cseq, .none)
  else
    match req.method with
    | .options =>
      (s, (Response.ok cseq).withHeader "Public"
        "OPTIONS, DESCRIBE, SETUP, PLAY, TEARDOWN, GET_PARAMETER", .none)
    | .describe =>
      ({ s with state := .described },
        ((Response.ok cseq).withBody "application/sdp" (buildSdp ctx.cameraName ctx.h264Params)).withHeader
          "Content-Base" req.uri, .none)
    | .setup =>
      match req.header "transport" with
      | none => (s, .error 400 "Bad Request" cseq, .none)
      | some transport =>
        match parseInterleaved transport with
        | none => (s, .error 461 "Unsupported Transport" cseq, .none)
        | some (lo, hi) =>
          (⟨.setUp, some ctx.newSessionId, some lo⟩,
            ((Response.ok cseq).withHeader "Transport" (transportValue lo hi)).withHeader "Session"
              ctx.newSessionId, .none)
    | .play =>
      if s.state ≠ .setUp then (s, .error 455 "Method Not Valid In This State" cseq, .none)
      else
        match s.sessionId with
        | none => (s, .error 454 "Session Not Found" cseq, .none)
        | some sessionId =>
          ({ s with state := .playing },
            ((Response.ok cseq).withHeader "Session" sessionId).withHeader "Range" "npt=0.000-",
            .startStreaming (s.rtpChannel.getD 0))
    | .teardown =>
      ({ s with state := .tornDown },
        (Response.ok cseq).withHeader "Session" (s.sessionId.getD ""), .stop)
    | .getParameter =>
      let sessionId := s.sessionId.getD ""
      (s, if sessionId.isEmpty then .ok cseq else (Response.ok cseq).withHeader "Session" sessionId,
        .none)
    | .unsupported => (s, .error 501 "Not Implemented" cseq, .none)

end Session

/-! ## What one request can do -/

/-- One exchange: the session before it, the request and its context, and what came of it. -/
structure Exchange where
  before : Session
  req : Request
  ctx : SessionContext
  after : Session
  response : Response
  action : SessionAction
  deriving DecidableEq, Repr

def Session.exchange (s : Session) (req : Request) (ctx : SessionContext) : Exchange :=
  let (after, response, action) := s.handle req ctx
  ⟨s, req, ctx, after, response, action⟩

theorem Session.exchange_eq (s : Session) (req : Request) (ctx : SessionContext) :
    s.exchange req ctx =
      ⟨s, req, ctx, (s.handle req ctx).1, (s.handle req ctx).2.1, (s.handle req ctx).2.2⟩ := by
  unfold exchange
  generalize s.handle req ctx = result
  rfl

section Exchange

variable (s : Session) (req : Request) (ctx : SessionContext)

@[simp] theorem Session.exchange_before : (s.exchange req ctx).before = s := by rw [s.exchange_eq]

@[simp] theorem Session.exchange_req : (s.exchange req ctx).req = req := by rw [s.exchange_eq]

@[simp] theorem Session.exchange_ctx : (s.exchange req ctx).ctx = ctx := by rw [s.exchange_eq]

theorem Session.exchange_response : (s.exchange req ctx).response = (s.handle req ctx).2.1 := by
  rw [s.exchange_eq]

end Exchange

/-- The answers to a request with the expected path that cannot be granted. -/
def refusals : List (Nat × String) :=
  [(400, "Bad Request"), (461, "Unsupported Transport"), (455, "Method Not Valid In This State"),
    (501, "Not Implemented")]

theorem status_of_refusals {status : Nat} {reason : String} (h : (status, reason) ∈ refusals) :
    400 ≤ status ∧ status ≠ 454 ∧ status ≠ 404 := by
  have hall : ∀ x ∈ refusals, 400 ≤ x.1 ∧ x.1 ≠ 454 ∧ x.1 ≠ 404 := by decide
  exact hall _ h

/-- The results of `handle`, one for each way it can go. -/
inductive Session.Outcome (s : Session) (req : Request) (ctx : SessionContext) :
    Session × Response × SessionAction → Prop where
  | notFound : uriMatches req.uri ctx.expectedPath = false → req.method ≠ .options →
      Outcome s req ctx (s, .error 404 "Not Found" (req.cseq.getD 0), .none)
  | refused (status : Nat) (reason : String) : uriMatches req.uri ctx.expectedPath = true →
      req.method ≠ .teardown → (status, reason) ∈ refusals →
      Outcome s req ctx (s, .error status reason (req.cseq.getD 0), .none)
  | options : req.method = .options →
      Outcome s req ctx (s, (Response.ok (req.cseq.getD 0)).withHeader "Public"
        "OPTIONS, DESCRIBE, SETUP, PLAY, TEARDOWN, GET_PARAMETER", .none)
  | described : uriMatches req.uri ctx.expectedPath = true → req.method = .describe →
      Outcome s req ctx ({ s with state := .described },
        ((Response.ok (req.cseq.getD 0)).withBody "application/sdp"
          (buildSdp ctx.cameraName ctx.h264Params)).withHeader "Content-Base" req.uri, .none)
  | setUp (lo hi : UInt8) : uriMatches req.uri ctx.expectedPath = true → req.method = .setup →
      Outcome s req ctx (⟨.setUp, some ctx.newSessionId, some lo⟩,
        ((Response.ok (req.cseq.getD 0)).withHeader "Transport" (transportValue lo hi)).withHeader
          "Session" ctx.newSessionId, .none)
  | noSession : uriMatches req.uri ctx.expectedPath = true → req.method = .play →
      s.state = .setUp → s.sessionId = none →
      Outcome s req ctx (s, .error 454 "Session Not Found" (req.cseq.getD 0), .none)
  | playing (sessionId : String) : uriMatches req.uri ctx.expectedPath = true → req.method = .play →
      s.state = .setUp → s.sessionId = some sessionId →
      Outcome s req ctx ({ s with state := .playing },
        ((Response.ok (req.cseq.getD 0)).withHeader "Session" sessionId).withHeader "Range" "npt=0.000-",
        .startStreaming (s.rtpChannel.getD 0))
  | tornDown : uriMatches req.uri ctx.expectedPath = true → req.method = .teardown →
      Outcome s req ctx ({ s with state := .tornDown },
        (Response.ok (req.cseq.getD 0)).withHeader "Session" (s.sessionId.getD ""), .stop)
  | alive (response : Response) : uriMatches req.uri ctx.expectedPath = true →
      req.method = .getParameter → response = .ok (req.cseq.getD 0) ∨
        response = (Response.ok (req.cseq.getD 0)).withHeader "Session" (s.sessionId.getD "") →
      Outcome s req ctx (s, response, .none)

theorem Session.handle_outcome (s : Session) (req : Request) (ctx : SessionContext) :
    s.Outcome req ctx (s.handle req ctx) := by
  unfold Session.handle
  by_cases hrefused : (!uriMatches req.uri ctx.expectedPath && req.method ≠ .options) = true
  · simp only [hrefused, if_true]
    obtain ⟨huri, hm⟩ : uriMatches req.uri ctx.expectedPath = false ∧ req.method ≠ .options := by
      simpa using hrefused
    exact .notFound huri hm
  simp only [hrefused, Bool.false_eq_true, if_false]
  have huri : req.method ≠ .options → uriMatches req.uri ctx.expectedPath = true := by
    intro hm
    simpa [hm] using hrefused
  cases hm : req.method with
  | options => exact .options hm
  | describe => exact .described (huri (by simp [hm])) hm
  | setup =>
    have hmatch := huri (by simp [hm])
    have hdown : req.method ≠ .teardown := by simp [hm]
    cases req.header "transport" with
    | none => exact .refused _ _ hmatch hdown (by simp [refusals])
    | some transport =>
      cases hpair : parseInterleaved transport with
      | none =>
        simp only [hpair]
        exact .refused _ _ hmatch hdown (by simp [refusals])
      | some pair =>
        simp only [hpair]
        exact .setUp pair.1 pair.2 hmatch hm
  | play =>
    have hmatch := huri (by simp [hm])
    by_cases hstate : s.state = .setUp
    · cases hid : s.sessionId with
      | none =>
        simp only [hstate, ne_eq, not_true_eq_false, if_false]
        exact .noSession hmatch hm hstate hid
      | some sessionId =>
        simp only [hstate, ne_eq, not_true_eq_false, if_false]
        have hplaying : s.Outcome req ctx _ := .playing sessionId hmatch hm hstate hid
        rw [hid] at hplaying
        exact hplaying
    · simp only [hstate, ne_eq, not_false_eq_true, if_true]
      exact .refused _ _ hmatch (by simp [hm]) (by simp [refusals])
  | teardown => exact .tornDown (huri (by simp [hm])) hm
  | getParameter =>
    refine .alive _ (huri (by simp [hm])) hm ?_
    split
    · exact .inl rfl
    · exact .inr rfl
  | unsupported => exact .refused _ _ (huri (by simp [hm])) (by simp [hm]) (by simp [refusals])

/-- The ways `handle` can go. -/
inductive Handled (e : Exchange) : Prop where
  | refused : 400 ≤ e.response.status → e.response.status ≠ 454 → e.after = e.before →
      e.action = .none → Handled e
  | answered : e.response.status = 200 → e.req.method = .options ∨ e.req.method = .getParameter →
      e.after = e.before → e.action = .none → Handled e
  | described : e.response.status = 200 → e.after = { e.before with state := .described } →
      e.action = .none → Handled e
  | setUp (lo hi : UInt8) : e.response.status = 200 → e.req.method = .setup →
      ("Transport", transportValue lo hi) ∈ e.response.headers →
      e.after = ⟨.setUp, some e.ctx.newSessionId, some lo⟩ → e.action = .none → Handled e
  | noSession : e.response.status = 454 → e.before.state = .setUp → e.before.sessionId = none →
      e.after = e.before → e.action = .none → Handled e
  | playing : e.response.status = 200 → e.before.state = .setUp →
      e.after = { e.before with state := .playing } →
      e.action = .startStreaming (e.before.rtpChannel.getD 0) → Handled e
  | tornDown : e.response.status = 200 → e.after = { e.before with state := .tornDown } →
      e.action = .stop → Handled e

theorem Session.exchange_handled (s : Session) (req : Request) (ctx : SessionContext) :
    Handled (s.exchange req ctx) := by
  have houtcome := s.handle_outcome req ctx
  rw [s.exchange_eq]
  generalize s.handle req ctx = result at houtcome
  cases houtcome with
  | notFound huri hm => exact .refused (by simp) (by simp) rfl rfl
  | refused status reason huri hm hmem =>
    obtain ⟨hrefusal, h454, -⟩ := status_of_refusals hmem
    exact .refused hrefusal h454 rfl rfl
  | options hm => exact .answered (by simp) (.inl hm) rfl rfl
  | described huri hm => exact .described (by simp) rfl rfl
  | setUp lo hi huri hm => exact .setUp lo hi (by simp) hm (by simp [Response.withHeader]) rfl rfl
  | noSession huri hm hs hid => exact .noSession (by simp) hs hid rfl rfl
  | playing sessionId huri hm hs hid => exact .playing (by simp) hs (by simp) rfl
  | tornDown huri hm => exact .tornDown (by simp) rfl rfl
  | alive response huri hm hresponse =>
    refine .answered ?_ (.inr hm) rfl rfl
    rcases hresponse with rfl | rfl <;> rfl

/-- What a request decides about its exchange, whatever the session. -/
structure Judged (e : Exchange) : Prop where
  cseq : e.response.cseq = e.req.cseq.getD 0
  notFound : e.response.status = 404 ↔
    uriMatches e.req.uri e.ctx.expectedPath = false ∧ e.req.method ≠ .options
  stop : e.action = .stop ↔
    uriMatches e.req.uri e.ctx.expectedPath = true ∧ e.req.method = .teardown
  streaming : ∀ c, e.action = .startStreaming c → e.req.method = .play

theorem Session.exchange_judged (s : Session) (req : Request) (ctx : SessionContext) :
    Judged (s.exchange req ctx) := by
  have houtcome := s.handle_outcome req ctx
  rw [s.exchange_eq]
  generalize s.handle req ctx = result at houtcome
  cases houtcome with
  | notFound huri hm => exact ⟨rfl, by simp [huri, hm], by simp [huri], by simp⟩
  | refused status reason huri hm hmem =>
    have h404 : status ≠ 404 := (status_of_refusals hmem).2.2
    exact ⟨rfl, by simp [huri, h404], by simp [hm], by simp⟩
  | options hm => exact ⟨rfl, by simp [hm], by simp [hm], by simp⟩
  | described huri hm => exact ⟨rfl, by simp [huri], by simp [hm], by simp⟩
  | setUp lo hi huri hm => exact ⟨rfl, by simp [huri], by simp [hm], by simp⟩
  | noSession huri hm hs hid => exact ⟨rfl, by simp [huri], by simp [hm], by simp⟩
  | playing sessionId huri hm hs hid => exact ⟨rfl, by simp [huri], by simp [hm], by simp [hm]⟩
  | tornDown huri hm => exact ⟨rfl, by simp [huri], by simp [huri, hm], by simp⟩
  | alive response huri hm hresponse =>
    refine ⟨?_, ?_, by simp [hm], by simp⟩
    · rcases hresponse with rfl | rfl <;> rfl
    · rcases hresponse with rfl | rfl <;> simp [huri]

/-! ## Sequences of requests -/

/-- The exchanges of a session that handles the given requests in order. -/
def Session.serve : Session → List (Request × SessionContext) → List Exchange
  | _, [] => []
  | s, (req, ctx) :: rest => s.exchange req ctx :: (s.exchange req ctx).after.serve rest

/-- A request that was granted and after which an earlier SETUP no longer counts. -/
def Exchange.Supersedes (e : Exchange) : Prop :=
  e.response.status = 200 ∧ e.req.method ∈ [Method.setup, .describe, .teardown, .play]

/-- `c` is the lower channel echoed in the most recent SETUP answered 200, and no DESCRIBE, TEARDOWN
or PLAY has been answered 200 since. -/
def EchoedLast (log : List Exchange) (c : UInt8) : Prop :=
  ∃ pre e post hi, log = pre ++ e :: post ∧ e.req.method = .setup ∧ e.response.status = 200 ∧
    ("Transport", transportValue c hi) ∈ e.response.headers ∧ ∀ x ∈ post, ¬ x.Supersedes

theorem EchoedLast.snoc {log : List Exchange} {c : UInt8} (h : EchoedLast log c) {x : Exchange}
    (hx : ¬ x.Supersedes) : EchoedLast (log ++ [x]) c := by
  obtain ⟨pre, e, post, hi, rfl, hm, hs, hh, hpost⟩ := h
  refine ⟨pre, e, post ++ [x], hi, by simp, hm, hs, hh, ?_⟩
  intro y hy
  rcases List.mem_append.mp hy with hy | hy
  · exact hpost y hy
  · rw [List.mem_singleton.mp hy]
    exact hx

/-- A session after the exchanges `log`: once set up, it has an id and the channel it was asked
for. -/
structure Session.Inv (log : List Exchange) (s : Session) : Prop where
  sessionId : s.state = .setUp → s.sessionId.isSome
  rtpChannel : s.state = .setUp → ∃ c, s.rtpChannel = some c ∧ EchoedLast log c

namespace Session.Inv

variable {log : List Exchange} {s : Session}

theorem of_state_ne (h : s.state ≠ .setUp) : s.Inv log :=
  ⟨fun hs => absurd hs h, fun hs => absurd hs h⟩

/-- An exchange that leaves the session as it is and supersedes nothing. -/
theorem snoc (h : s.Inv log) {x : Exchange} (hx : ¬ x.Supersedes) : s.Inv (log ++ [x]) where
  sessionId := h.sessionId
  rtpChannel := by
    intro hs
    obtain ⟨c, hc, he⟩ := h.rtpChannel hs
    exact ⟨c, hc, he.snoc hx⟩

theorem isSome (h : s.Inv log) (hs : s.state = .setUp) :
    s.sessionId.isSome ∧ s.rtpChannel.isSome := by
  obtain ⟨c, hc, -⟩ := h.rtpChannel hs
  exact ⟨h.sessionId hs, by simp [hc]⟩

/-- An exchange keeps the invariant. -/
theorem step {e : Exchange} (h : e.before.Inv log) (he : Handled e) : e.after.Inv (log ++ [e]) := by
  cases he with
  | refused hr _ hafter _ =>
    rw [hafter]
    refine h.snoc ?_
    rintro ⟨h200, -⟩
    omega
  | answered _ hm hafter _ =>
    rw [hafter]
    refine h.snoc ?_
    rintro ⟨-, hmem⟩
    rcases hm with hm | hm <;> simp [hm] at hmem
  | described _ hafter _ => exact of_state_ne (by simp [hafter])
  | setUp lo hi hr hm hmem hafter _ =>
    have hlast : EchoedLast (log ++ [e]) lo := ⟨log, e, [], hi, rfl, hm, hr, hmem, by simp⟩
    exact ⟨by simp [hafter], fun _ => ⟨lo, by simp [hafter], hlast⟩⟩
  | noSession hr _ _ hafter _ =>
    rw [hafter]
    refine h.snoc ?_
    rintro ⟨h200, -⟩
    omega
  | playing _ _ hafter _ => exact of_state_ne (by simp [hafter])
  | tornDown _ hafter _ => exact of_state_ne (by simp [hafter])

/-- Every exchange of a run starts in a session that has the invariant for the exchanges before it. -/
theorem serve {inputs : List (Request × SessionContext)} (h : s.Inv log) {pre post : List Exchange}
    {e : Exchange} (hrun : s.serve inputs = pre ++ e :: post) :
    e.before.Inv (log ++ pre) ∧ Handled e := by
  induction inputs generalizing s log pre with
  | nil => simp [Session.serve] at hrun
  | cons input rest ih =>
    obtain ⟨req, ctx⟩ := input
    have hx : Handled (s.exchange req ctx) := s.exchange_handled req ctx
    cases pre with
    | nil =>
      simp only [Session.serve, List.nil_append, List.cons.injEq] at hrun
      rw [← hrun.1, List.append_nil]
      exact ⟨h, hx⟩
    | cons x pre =>
      simp only [Session.serve, List.cons_append, List.cons.injEq] at hrun
      have hnext : (s.exchange req ctx).after.Inv (log ++ [s.exchange req ctx]) := h.step hx
      have hrest := ih hnext hrun.2
      rw [hrun.1] at hrest
      simpa using hrest

end Session.Inv

/-- Whatever requests a new session handles: streaming starts only on the channel echoed in the SETUP
it belongs to, a refused request has no effect, and a session that is set up has its id and channel,
so that neither the 454 branch nor the default channel is ever taken. -/
theorem handle_consistent (inputs : List (Request × SessionContext)) {pre post : List Exchange}
    {e : Exchange} (hrun : Session.new.serve inputs = pre ++ e :: post) :
    (∀ c, e.action = .startStreaming c → EchoedLast pre c) ∧
    (400 ≤ e.response.status → e.after = e.before ∧ e.action = .none) ∧
    (∀ s ∈ [e.before, e.after], s.state = .setUp → s.sessionId.isSome ∧ s.rtpChannel.isSome) ∧
    e.response.status ≠ 454 ∧
    (∀ c, e.action = .startStreaming c → e.before.rtpChannel = some c) := by
  have hnew : Session.new.Inv [] := .of_state_ne (by simp [Session.new])
  obtain ⟨hinv, he⟩ := hnew.serve hrun
  rw [List.nil_append] at hinv
  have hset : ∀ s ∈ [e.before, e.after], s.state = .setUp →
      s.sessionId.isSome ∧ s.rtpChannel.isSome := by
    intro s hs
    rcases List.mem_pair.mp hs with rfl | rfl
    · exact hinv.isSome
    · exact (hinv.step he).isSome
  have hno : ∀ {c}, e.action = .none → e.action ≠ .startStreaming c := by
    intro c hnone
    simp [hnone]
  cases he with
  | refused hr h454 hafter hact =>
    exact ⟨fun _ h => absurd h (hno hact), fun _ => ⟨hafter, hact⟩, hset, h454,
      fun _ h => absurd h (hno hact)⟩
  | answered hr _ hafter hact =>
    exact ⟨fun _ h => absurd h (hno hact), fun _ => ⟨hafter, hact⟩, hset, by simp [hr],
      fun _ h => absurd h (hno hact)⟩
  | described hr _ hact =>
    exact ⟨fun _ h => absurd h (hno hact), by simp [hr], hset, by simp [hr],
      fun _ h => absurd h (hno hact)⟩
  | setUp _ _ hr _ _ _ hact =>
    exact ⟨fun _ h => absurd h (hno hact), by simp [hr], hset, by simp [hr],
      fun _ h => absurd h (hno hact)⟩
  | noSession _ hs hid _ _ => exact absurd (hinv.sessionId hs) (by simp [hid])
  | playing hr hs _ hact =>
    obtain ⟨c, hc, hlast⟩ := hinv.rtpChannel hs
    have hstart : ∀ c', e.action = .startStreaming c' → c' = c := by
      intro c' h
      simpa [hact, hc] using h.symm
    refine ⟨?_, by simp [hr], hset, by simp [hr], ?_⟩
    · intro c' h
      rw [hstart c' h]
      exact hlast
    · intro c' h
      rw [hstart c' h]
      exact hc
  | tornDown hr _ hact =>
    exact ⟨by simp [hact], by simp [hr], hset, by simp [hr], by simp [hact]⟩

/-- A SETUP on channels 2 and 3, a keepalive and the PLAY that starts the stream. -/
theorem handle_consistent_play :
    let ctx : SessionContext := ⟨"Camera", ⟨"42c01e", "", 1, 96⟩, "cam", "BUDDY3D-0"⟩
    let setup : Request :=
      ⟨.setup, "rtsp://h/cam/streamid=0", [("transport", "RTP/AVP/TCP;unicast;interleaved=2-3")], []⟩
    let alive : Request := ⟨.getParameter, "rtsp://h/cam", [], []⟩
    let play : Request := ⟨.play, "rtsp://h/cam", [], []⟩
    let log := Session.new.serve [(setup, ctx), (alive, ctx), (play, ctx)]
    log.getLast?.map Exchange.action = some (.startStreaming 2) ∧ EchoedLast (log.take 2) 2 := by
  intro ctx setup alive play log
  have hplay : log.getLast?.map Exchange.action = some (.startStreaming 2) := by decide
  have hrun : log = log.take 2 ++ log.getLast (by decide) :: [] := rfl
  have hlast : log.getLast?.map Exchange.action = some (log.getLast (by decide)).action := rfl
  refine ⟨hplay, (handle_consistent _ hrun).1 2 ?_⟩
  simpa [hlast] using hplay

end Buddy3dProxy.Rtsp
