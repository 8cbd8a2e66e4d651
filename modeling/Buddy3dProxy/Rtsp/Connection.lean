import Buddy3dProxy.Rtsp.ReadLoop
import Buddy3dProxy.Rtsp.Session
import Buddy3dProxy.Supervisor.Model

/-!
# Serving a connection

`handle_connection` in `rtsp/server.rs`: what a connection does with the requests it reads, as the
list of its events. Every write to the client succeeds. The events end where the RTP packets of a
stream start to be forwarded.
-/

namespace Buddy3dProxy.Rtsp

open Supervisor (SourceError Sys)

/-- What a server needs from a supervisor. A connection subscribes at most once, with this outcome. -/
structure StreamSource where
  cameraName : String
  rtspPath : String
  subscribe : Except SourceError H264Params

/-- What happens on a connection. -/
inductive ConnEvent where
  /-- A request is taken from the buffer. -/
  | took (req : Request)
  /-- `source.subscribe()` is called for a request. -/
  | subscribing (req : Request)
  /-- A response is written. -/
  | answered (response : Response)
  | streaming (rtpChannel : UInt8)
  /-- The connection is closed by the server. -/
  | closed
  deriving DecidableEq, Repr

/-- A part of a run with its events; `next` is where it goes on, none at its end. -/
structure Progress (α : Type) where
  events : List ConnEvent
  next : Option α

namespace Progress

variable {α β γ : Type}

def andThen (x : Progress α) (f : α → Progress β) : Progress β :=
  match x.next with
  | none => ⟨x.events, none⟩
  | some a => ⟨x.events ++ (f a).events, (f a).next⟩

theorem andThen_none (events : List ConnEvent) (f : α → Progress β) :
    andThen ⟨events, none⟩ f = ⟨events, none⟩ := rfl

theorem andThen_some (events : List ConnEvent) (a : α) (f : α → Progress β) :
    andThen ⟨events, some a⟩ f = ⟨events ++ (f a).events, (f a).next⟩ := rfl

theorem nil_andThen (a : α) (f : α → Progress β) : andThen ⟨[], some a⟩ f = f a := rfl

theorem andThen_assoc (x : Progress α) (f : α → Progress β) (g : β → Progress γ) :
    (x.andThen f).andThen g = x.andThen fun a => (f a).andThen g := by
  obtain ⟨events, _ | a⟩ := x
  · rfl
  · rw [andThen_some, andThen_some]
    obtain ⟨fevents, _ | b⟩ := f a
    · rfl
    · rw [andThen_some, andThen_some, List.append_assoc]

end Progress

def needsSubscription (m : Method) : Bool := m = .describe || m = .setup || m = .play

/-- The parameters of a session without a subscription. -/
def defaultH264 : H264Params := ⟨"42c01e", "", 1, 96⟩

def StreamSource.context (source : StreamSource) (sessionId : String)
    (subscription : Option H264Params) : SessionContext :=
  ⟨source.cameraName, subscription.getD defaultH264, source.rtspPath, sessionId⟩

/-- What a connection keeps from one request to the next. -/
structure Connection where
  session : Session
  subscription : Option H264Params

namespace Connection

def new : Connection := ⟨.new, none⟩

variable (source : StreamSource) (sessionId : String) (conn : Connection)

/-- The call of `source.subscribe()`, if there is one. -/
def calls (req : Request) : List ConnEvent :=
  if conn.subscription.isNone && needsSubscription req.method then [.subscribing req] else []

/-- The subscription with which a request is handled. -/
def acquire (req : Request) : Except SourceError (Option H264Params) :=
  if conn.subscription.isNone && needsSubscription req.method then source.subscribe.map some
  else .ok conn.subscription

/-- What the loop does with a request. -/
def serve (req : Request) : Progress Connection :=
  match conn.acquire source req with
  | .error _ => ⟨.took req :: conn.calls req ++ [.closed], none⟩
  | .ok subscription =>
    let x := conn.session.exchange req (source.context sessionId subscription)
    let events := .took req :: conn.calls req ++ [.answered x.response]
    match x.action with
    | .none => ⟨events, some ⟨x.after, subscription⟩⟩
    | .startStreaming rtpChannel =>
      -- an error without a subscription
      ⟨events ++ [if subscription.isSome then .streaming rtpChannel else .closed], none⟩
    | .stop => ⟨events ++ [.closed], none⟩

/-- The inner loop. A panic drops the stream. -/
def drain (conn : Connection) (buf : List UInt8) : Progress (Connection × List UInt8) :=
  match _h : parseRequest buf with
  | none => ⟨[.closed], none⟩
  | some (.ok (req, consumed)) =>
    (conn.serve source sessionId req).andThen fun conn => conn.drain (buf.drop consumed)
  | some (.error .incomplete) => ⟨[], some (conn, buf)⟩
  | some (.error _) => ⟨[.closed], none⟩
termination_by buf.length
decreasing_by
  have hconsumed := consumed_of_parseRequest _h
  simp only [List.length_drop]
  omega

/-- The outer loop. -/
def read (conn : Connection) (buf : List UInt8) :
    List (List UInt8) → Progress (Connection × List UInt8)
  | [] => ⟨[], some (conn, buf)⟩
  | chunk :: chunks =>
    if chunk = [] then ⟨[.closed], none⟩
    else (conn.drain source sessionId (buf ++ chunk)).andThen fun x => x.1.read x.2 chunks

end Connection

/-- The events of a connection on which these chunks are read. -/
def handleConnection (source : StreamSource) (sessionId : String) (chunks : List (List UInt8)) :
    List ConnEvent :=
  (Connection.new.read source sessionId [] chunks).events

/-! ## The requests of a connection -/

/-- How the loop is left once the requests that were read are served. -/
def Reading.leave (r : Reading) (conn : Connection) : Progress (Connection × List UInt8) :=
  match r.status with
  | .reading => ⟨[], some (conn, r.buf)⟩
  | _ => ⟨[.closed], none⟩

namespace Connection

variable {source : StreamSource} {sessionId : String}

/-- The requests served in order, until the connection ends. -/
def serveAll (source : StreamSource) (sessionId : String) (conn : Connection) :
    List Request → Progress Connection
  | [] => ⟨[], some conn⟩
  | req :: reqs => (conn.serve source sessionId req).andThen (serveAll source sessionId · reqs)

theorem serveAll_append (conn : Connection) (reqs reqs' : List Request) :
    conn.serveAll source sessionId (reqs ++ reqs') =
      (conn.serveAll source sessionId reqs).andThen (serveAll source sessionId · reqs') := by
  induction reqs generalizing conn with
  | nil => rfl
  | cons req reqs ih =>
    rw [List.cons_append, serveAll, serveAll, Progress.andThen_assoc]
    simp only [ih]

theorem drain_eq (conn : Connection) (buf : List UInt8) :
    conn.drain source sessionId buf =
      (conn.serveAll source sessionId (Rtsp.drain buf).requests).andThen (Rtsp.drain buf).leave := by
  induction hn : buf.length using Nat.strongRecOn generalizing conn buf with
  | ind n ih =>
    rw [drain]
    split
    next h =>
      rw [drain_of_none h]
      rfl
    next req consumed h =>
      have hconsumed := consumed_of_parseRequest h
      have hrest := ih (buf.drop consumed).length (by simp only [List.length_drop]; omega)
      rw [Rtsp.drain_of_ok h, serveAll, Progress.andThen_assoc]
      congr 1
      funext conn'
      exact hrest conn' _ rfl
    next h =>
      rw [drain_of_incomplete h]
      rfl
    next e h he =>
      rw [drain_of_error he (by simpa using h)]
      rfl

/-- The connection serves the requests that the read loop finds. -/
theorem read_eq (conn : Connection) (buf : List UInt8) (chunks : List (List UInt8)) :
    conn.read source sessionId buf chunks =
      (conn.serveAll source sessionId (readLoop buf chunks).requests).andThen
        (readLoop buf chunks).leave := by
  induction chunks generalizing conn buf with
  | nil => rfl
  | cons chunk chunks ih =>
    by_cases hend : chunk = []
    · rw [read, readLoop, if_pos hend, if_pos hend]
      rfl
    · rw [read, readLoop, if_neg hend, if_neg hend, drain_eq]
      obtain ⟨reqs, left, status⟩ := Rtsp.drain (buf ++ chunk)
      cases status with
      | reading =>
        simp only [Reading.leave, Progress.andThen_assoc, Progress.nil_andThen, ih, serveAll_append]
        rfl
      | ended =>
        simp only [Reading.leave, Progress.andThen_assoc, Progress.andThen_none]
        rfl
      | failed e =>
        simp only [Reading.leave, Progress.andThen_assoc, Progress.andThen_none]
        rfl
      | panicked =>
        simp only [Reading.leave, Progress.andThen_assoc, Progress.andThen_none]
        rfl

end Connection

/-! ## What one request can do -/

/-- A TEARDOWN that is granted. -/
def tearsDown (rtspPath : String) (req : Request) : Bool :=
  req.method = .teardown && uriMatches req.uri rtspPath

namespace Connection

variable {source : StreamSource} {sessionId : String} {conn : Connection} {req : Request}
  {subscription : Option H264Params}

theorem acquire_of_some (source : StreamSource) (req : Request) {h264 : H264Params}
    (h : conn.subscription = some h264) :
    conn.acquire source req = .ok (some h264) ∧ conn.calls req = [] := by
  simp [acquire, calls, h]

theorem acquire_of_not_needed (source : StreamSource) (conn : Connection)
    (h : needsSubscription req.method = false) :
    conn.acquire source req = .ok conn.subscription ∧ conn.calls req = [] := by
  simp [acquire, calls, h]

theorem acquire_of_needed (source : StreamSource) (hnone : conn.subscription = none)
    (h : needsSubscription req.method = true) :
    conn.acquire source req = source.subscribe.map some ∧ conn.calls req = [.subscribing req] := by
  simp [acquire, calls, hnone, h]

theorem serve_of_error {e : SourceError} (h : conn.acquire source req = .error e) :
    conn.serve source sessionId req = ⟨.took req :: conn.calls req ++ [.closed], none⟩ := by
  unfold serve
  rw [h]

/-- A response of the session to `req`. -/
structure Answers (source : StreamSource) (req : Request) (response : Response) : Prop where
  cseq : response.cseq = req.cseq.getD 0
  notFound : response.status = 404 → uriMatches req.uri source.rtspPath = false

theorem answers_exchange (source : StreamSource) (sessionId : String)
    (subscription : Option H264Params) (session : Session) (req : Request) :
    Answers source req (session.exchange req (source.context sessionId subscription)).response := by
  have hjudged := session.exchange_judged req (source.context sessionId subscription)
  have hcseq := hjudged.cseq
  have hnotFound := hjudged.notFound
  rw [Session.exchange_req] at hcseq
  rw [Session.exchange_req, Session.exchange_ctx] at hnotFound
  exact ⟨hcseq, fun h => (hnotFound.mp h).1⟩

/-- The ways a request with the response `response` can go. -/
inductive Served (source : StreamSource) (conn : Connection) (req : Request)
    (subscription : Option H264Params) (response : Response) : Progress Connection → Prop where
  | goesOn (session : Session) : tearsDown source.rtspPath req = false →
      Served source conn req subscription response
        ⟨.took req :: conn.calls req ++ [.answered response], some ⟨session, subscription⟩⟩
  | ends (last : ConnEvent) : (∃ c, last = .streaming c) ∨ last = .closed →
      req.method = .play ∨ tearsDown source.rtspPath req = true →
      Served source conn req subscription response
        ⟨.took req :: conn.calls req ++ [.answered response, last], none⟩

theorem serve_served (sessionId : String) (h : conn.acquire source req = .ok subscription) :
    Served source conn req subscription
      (conn.session.exchange req (source.context sessionId subscription)).response
      (conn.serve source sessionId req) := by
  have hjudged := conn.session.exchange_judged req (source.context sessionId subscription)
  have hreq := conn.session.exchange_req req (source.context sessionId subscription)
  have hctx := conn.session.exchange_ctx req (source.context sessionId subscription)
  unfold serve
  rw [h]
  simp only
  generalize conn.session.exchange req (source.context sessionId subscription) = x at hjudged hreq hctx
  have hstop := hjudged.stop
  rw [hreq, hctx] at hstop
  cases haction : x.action with
  | none =>
    refine .goesOn x.after ?_
    rw [haction] at hstop
    by_contra hdown
    have hboth : req.method = .teardown ∧ uriMatches req.uri source.rtspPath = true := by
      simpa [tearsDown] using hdown
    exact SessionAction.noConfusion (hstop.mpr hboth.symm)
  | startStreaming c =>
    have hplay := hjudged.streaming c haction
    rw [hreq] at hplay
    simp only [List.append_assoc, List.cons_append, List.nil_append]
    refine .ends _ ?_ (.inl hplay)
    split
    · exact .inl ⟨c, rfl⟩
    · exact .inr rfl
  | stop =>
    obtain ⟨huri, hdown⟩ : uriMatches req.uri source.rtspPath = true ∧ req.method = .teardown :=
      hstop.mp haction
    simp only [List.append_assoc, List.cons_append, List.nil_append]
    refine .ends _ (.inr rfl) (.inr ?_)
    simpa [tearsDown, hdown] using huri

end Connection

/-! ## Answers -/

/-- Events after which no answer belongs to a request before them. -/
def ConnEvent.ends : ConnEvent → Bool
  | .took _ => true
  | .closed => true
  | _ => false

def responses (log : List ConnEvent) : List Response :=
  log.filterMap fun
    | .answered response => some response
    | _ => none

/-- The requests for which `source.subscribe()` was called. -/
def subscribers (log : List ConnEvent) : List Request :=
  log.filterMap fun
    | .subscribing req => some req
    | _ => none

/-- What is written before the next request is taken or the connection is closed. -/
def pending (log : List ConnEvent) : List Response := responses (log.takeWhile fun e => !e.ends)

/-- Every request taken is answered by exactly one response before the next is taken or the connection
is closed, and this response is as `p` says. -/
def AnsweredWith (p : Request → Response → Prop) (log : List ConnEvent) : Prop :=
  ∀ pre req post, log = pre ++ .took req :: post → ∃ response, pending post = [response] ∧ p req response

/-- With the CSeq of the request. For a request without a number there, 0 is written. -/
def EachAnswered : List ConnEvent → Prop :=
  AnsweredWith fun req response => response.cseq = req.cseq.getD 0

/-- All requests are answered 404. -/
def AllNotFound : List ConnEvent → Prop := AnsweredWith fun _ response => response.status = 404

section Answers

variable {p : Request → Response → Prop} {log rest : List ConnEvent} {req : Request}
  {response : Response}

theorem answeredWith_nil : AnsweredWith p [] := by
  intro pre req post h
  simp at h

theorem answeredWith_took :
    AnsweredWith p (.took req :: log) ↔
      (∃ response, pending log = [response] ∧ p req response) ∧ AnsweredWith p log := by
  constructor
  · intro h
    exact ⟨h [] req log rfl, fun pre req' post hlog => h (.took req :: pre) req' post (by rw [hlog]; rfl)⟩
  · rintro ⟨hfirst, hrest⟩ pre req' post hlog
    cases pre with
    | nil =>
      obtain ⟨hreq, rfl⟩ := List.cons.inj hlog
      cases hreq
      exact hfirst
    | cons e pre => exact hrest pre req' post (List.cons.inj hlog).2

theorem answeredWith_cons {e : ConnEvent} (he : ∀ req, e ≠ .took req) :
    AnsweredWith p (e :: log) ↔ AnsweredWith p log := by
  constructor
  · intro h pre req post hlog
    exact h (e :: pre) req post (by rw [hlog]; rfl)
  · intro h pre req post hlog
    cases pre with
    | nil => exact absurd (List.cons.inj hlog).1 (he req)
    | cons e' pre => exact h pre req post (List.cons.inj hlog).2

/-- A request with its answer, and nothing more written until the next. -/
theorem answeredWith_answer {calls : List ConnEvent} (hcalls : calls = [] ∨ calls = [.subscribing req])
    (hrest : pending rest = []) :
    AnsweredWith p (.took req :: calls ++ .answered response :: rest) ↔
      p req response ∧ AnsweredWith p rest := by
  have hanswer : AnsweredWith p (.answered response :: rest) ↔ AnsweredWith p rest :=
    answeredWith_cons (by simp)
  have htail : pending (calls ++ .answered response :: rest) = response :: pending rest ∧
      (AnsweredWith p (calls ++ .answered response :: rest) ↔ AnsweredWith p rest) := by
    rcases hcalls with rfl | rfl
    · exact ⟨rfl, hanswer⟩
    · exact ⟨rfl, (answeredWith_cons (by simp)).trans hanswer⟩
  rw [List.cons_append, answeredWith_took, htail.1, hrest, htail.2]
  simp

end Answers

/-! ## Runs -/

/-- The first request that needs a subscription, unless the connection is torn down before it. -/
def firstSubscriber (rtspPath : String) : List Request → Option Request
  | [] => none
  | req :: reqs =>
    if needsSubscription req.method then some req
    else if tearsDown rtspPath req then none
    else firstSubscriber rtspPath reqs

namespace Connection

variable {source : StreamSource} {sessionId : String} {conn : Connection} {req : Request}
  {reqs : List Request} {subscription : Option H264Params} {α : Type} {leave : Connection → Progress α}

/-- The events from serving `reqs` in order, and from leaving the loop after them. -/
def log (source : StreamSource) (sessionId : String) (leave : Connection → Progress α)
    (conn : Connection) (reqs : List Request) : List ConnEvent :=
  ((conn.serveAll source sessionId reqs).andThen leave).events

/-- What follows an answer: the requests after it, or the end of the loop. -/
inductive Rest (source : StreamSource) (sessionId : String) (leave : Connection → Progress α)
    (subscription : Option H264Params) (req : Request) (reqs : List Request) : List ConnEvent → Prop where
  | goesOn (conn : Connection) : conn.subscription = subscription →
      tearsDown source.rtspPath req = false →
      Rest source sessionId leave subscription req reqs (log source sessionId leave conn reqs)
  | ends (last : ConnEvent) : (∃ c, last = .streaming c) ∨ last = .closed →
      req.method = .play ∨ tearsDown source.rtspPath req = true →
      Rest source sessionId leave subscription req reqs [last]

theorem log_cons (sessionId : String) (leave : Connection → Progress α) (reqs : List Request)
    (h : conn.acquire source req = .ok subscription) :
    ∃ response rest, Answers source req response ∧
      Rest source sessionId leave subscription req reqs rest ∧
      log source sessionId leave conn (req :: reqs) =
        .took req :: conn.calls req ++ .answered response :: rest := by
  have hserved := serve_served sessionId h
  have hanswers := answers_exchange source sessionId subscription conn.session req
  generalize (conn.session.exchange req (source.context sessionId subscription)).response = response
    at hserved hanswers
  unfold log
  rw [serveAll, Progress.andThen_assoc]
  generalize conn.serve source sessionId req = result at hserved
  cases hserved with
  | goesOn session hdown =>
    refine ⟨response, _, hanswers, .goesOn ⟨session, subscription⟩ rfl hdown, ?_⟩
    rw [Progress.andThen_some, List.append_assoc]
    rfl
  | ends last hlast hreq => exact ⟨response, [last], hanswers, .ends last hlast hreq, rfl⟩

/-- With a subscription, the next request is answered. -/
theorem log_cons_of_some (source : StreamSource) (sessionId : String)
    (leave : Connection → Progress α) (req : Request) (reqs : List Request) {h264 : H264Params}
    (hsome : conn.subscription = some h264) :
    ∃ response rest, Answers source req response ∧
      Rest source sessionId leave (some h264) req reqs rest ∧
      log source sessionId leave conn (req :: reqs) = .took req :: [] ++ .answered response :: rest := by
  obtain ⟨hacquire, hcalls⟩ := acquire_of_some source req hsome
  obtain ⟨response, rest, hanswers, hrest, hlog⟩ := log_cons sessionId leave reqs hacquire
  rw [hcalls] at hlog
  exact ⟨response, rest, hanswers, hrest, hlog⟩

/-- Without a subscription, only a TEARDOWN ends the connection. -/
theorem tearsDown_of_ends {rtspPath : String} (hneed : needsSubscription req.method = false)
    (h : req.method = .play ∨ tearsDown rtspPath req = true) : tearsDown rtspPath req = true := by
  rcases h with hplay | hdown
  · rw [hplay] at hneed
    exact absurd hneed (by decide)
  · exact hdown

/-- What a connection without a subscription does with its next request. -/
inductive Unsubscribed (source : StreamSource) (sessionId : String) (leave : Connection → Progress α)
    (req : Request) (reqs : List Request) : List ConnEvent → Prop where
  | unavailable (e : SourceError) : needsSubscription req.method = true → source.subscribe = .error e →
      Unsubscribed source sessionId leave req reqs [.took req, .subscribing req, .closed]
  | subscribes (h264 : H264Params) (response : Response) (rest : List ConnEvent) :
      needsSubscription req.method = true → source.subscribe = .ok h264 → Answers source req response →
      Rest source sessionId leave (some h264) req reqs rest →
      Unsubscribed source sessionId leave req reqs
        (.took req :: [.subscribing req] ++ .answered response :: rest)
  | goesOn (conn : Connection) (response : Response) : conn.subscription = none →
      needsSubscription req.method = false → tearsDown source.rtspPath req = false →
      Answers source req response →
      Unsubscribed source sessionId leave req reqs
        (.took req :: [] ++ .answered response :: log source sessionId leave conn reqs)
  | ends (last : ConnEvent) (response : Response) : (∃ c, last = .streaming c) ∨ last = .closed →
      needsSubscription req.method = false → tearsDown source.rtspPath req = true →
      Answers source req response →
      Unsubscribed source sessionId leave req reqs (.took req :: [] ++ [.answered response, last])

theorem log_unsubscribed (source : StreamSource) (sessionId : String)
    (leave : Connection → Progress α) (req : Request) (reqs : List Request)
    (hnone : conn.subscription = none) :
    Unsubscribed source sessionId leave req reqs (log source sessionId leave conn (req :: reqs)) := by
  cases hneed : needsSubscription req.method with
  | false =>
    obtain ⟨hacquire, hcalls⟩ := acquire_of_not_needed source conn hneed
    obtain ⟨response, rest, hanswers, hrest, hlog⟩ := log_cons sessionId leave reqs hacquire
    rw [hlog, hcalls]
    cases hrest with
    | goesOn conn' hsub hdown => exact .goesOn conn' response (hsub.trans hnone) hneed hdown hanswers
    | ends last hlast hreq =>
      exact .ends last response hlast hneed (tearsDown_of_ends hneed hreq) hanswers
  | true =>
    obtain ⟨hacquire, hcalls⟩ := acquire_of_needed source hnone hneed
    cases hsubscribe : source.subscribe with
    | error e =>
      rw [hsubscribe] at hacquire
      have hlog : log source sessionId leave conn (req :: reqs) =
          .took req :: conn.calls req ++ [.closed] := by
        unfold log
        rw [serveAll, serve_of_error hacquire]
        rfl
      rw [hlog, hcalls]
      exact .unavailable e hneed hsubscribe
    | ok h264 =>
      rw [hsubscribe] at hacquire
      obtain ⟨response, rest, hanswers, hrest, hlog⟩ := log_cons sessionId leave reqs hacquire
      rw [hlog, hcalls]
      exact .subscribes h264 response rest hneed hsubscribe hanswers hrest

/-- The loop is left with nothing more to say than that it closes the connection. -/
def Leaves (leave : Connection → Progress α) : Prop :=
  ∀ conn, (leave conn).events = [] ∨ (leave conn).events = [.closed]

theorem leaves_leave (r : Reading) : Leaves r.leave := by
  intro conn
  unfold Reading.leave
  cases r.status with
  | reading => exact .inl rfl
  | ended => exact .inr rfl
  | failed e => exact .inr rfl
  | panicked => exact .inr rfl

/-- A log begins with a request or the end. -/
theorem pending_log (hleave : Leaves leave) : pending (log source sessionId leave conn reqs) = [] := by
  cases reqs with
  | nil =>
    show pending (leave conn).events = []
    rcases hleave conn with hnil | hclosed
    · rw [hnil]
      rfl
    · rw [hclosed]
      rfl
  | cons req reqs =>
    cases hsub : conn.subscription with
    | none =>
      have hlog := log_unsubscribed source sessionId leave req reqs hsub
      generalize log source sessionId leave conn (req :: reqs) = events at hlog
      cases hlog <;> rfl
    | some h264 =>
      obtain ⟨response, rest, -, -, hlog⟩ := log_cons_of_some source sessionId leave req reqs hsub
      rw [hlog]
      rfl

theorem pending_last {last : ConnEvent} (h : (∃ c, last = .streaming c) ∨ last = .closed) :
    pending [last] = [] := by
  rcases h with ⟨c, rfl⟩ | rfl <;> rfl

theorem pending_rest (hleave : Leaves leave) {rest : List ConnEvent}
    (h : Rest source sessionId leave subscription req reqs rest) : pending rest = [] := by
  cases h with
  | goesOn conn hsub hdown => exact pending_log hleave
  | ends last hlast hreq => exact pending_last hlast

theorem answeredWith_last {p : Request → Response → Prop} {last : ConnEvent}
    (h : (∃ c, last = .streaming c) ∨ last = .closed) : AnsweredWith p [last] := by
  rcases h with ⟨c, rfl⟩ | rfl
  · exact (answeredWith_cons (by simp)).mpr answeredWith_nil
  · exact (answeredWith_cons (by simp)).mpr answeredWith_nil

theorem answeredWith_leave {p : Request → Response → Prop} (hleave : Leaves leave) (conn : Connection) :
    AnsweredWith p (leave conn).events := by
  rcases hleave conn with hnil | hclosed
  · rw [hnil]
    exact answeredWith_nil
  · rw [hclosed]
    exact answeredWith_last (.inr rfl)

theorem eachAnswered_log_of_some (hleave : Leaves leave) {h264 : H264Params}
    (hsome : conn.subscription = some h264) : EachAnswered (log source sessionId leave conn reqs) := by
  induction reqs generalizing conn with
  | nil => exact answeredWith_leave hleave conn
  | cons req reqs ih =>
    obtain ⟨response, rest, hanswers, hrest, hlog⟩ := log_cons_of_some source sessionId leave req reqs hsome
    rw [hlog, EachAnswered, answeredWith_answer (.inl rfl) (pending_rest hleave hrest)]
    refine ⟨hanswers.cseq, ?_⟩
    cases hrest with
    | goesOn conn' hsub _ => exact ih hsub
    | ends last hlast _ => exact answeredWith_last hlast

theorem eachAnswered_rest (hleave : Leaves leave) {h264 : H264Params} {rest : List ConnEvent}
    (h : Rest source sessionId leave (some h264) req reqs rest) : EachAnswered rest := by
  cases h with
  | goesOn conn hsub _ => exact eachAnswered_log_of_some hleave hsub
  | ends last hlast _ => exact answeredWith_last hlast

theorem eachAnswered_log (hleave : Leaves leave) (hnone : conn.subscription = none) :
    EachAnswered (log source sessionId leave conn reqs) ↔
      (∃ h264, source.subscribe = .ok h264) ∨ firstSubscriber source.rtspPath reqs = none := by
  induction reqs generalizing conn with
  | nil => exact iff_of_true (answeredWith_leave hleave conn) (.inr rfl)
  | cons req reqs ih =>
    have hlog := log_unsubscribed source sessionId leave req reqs hnone
    generalize log source sessionId leave conn (req :: reqs) = events at hlog
    unfold EachAnswered firstSubscriber
    cases hlog with
    | unavailable e hneed hsubscribe =>
      -- closed without an answer
      rw [hneed, hsubscribe]
      refine iff_of_false ?_ (by simp)
      intro hall
      obtain ⟨⟨response, hpending, -⟩, -⟩ := answeredWith_took.mp hall
      cases hpending
    | subscribes h264 response rest hneed hsubscribe hanswers hrest =>
      rw [answeredWith_answer (.inr rfl) (pending_rest hleave hrest)]
      exact iff_of_true ⟨hanswers.cseq, eachAnswered_rest hleave hrest⟩ (.inl ⟨h264, hsubscribe⟩)
    | goesOn conn' response hsub hneed hdown hanswers =>
      rw [answeredWith_answer (.inl rfl) (pending_log hleave), hneed, hdown]
      exact (and_iff_right hanswers.cseq).trans (ih hsub)
    | ends last response hlast hneed hdown hanswers =>
      rw [answeredWith_answer (.inl rfl) (pending_last hlast), hneed, hdown]
      exact iff_of_true ⟨hanswers.cseq, answeredWith_last hlast⟩ (.inr rfl)

/-! ### Subscriptions -/

theorem subscribers_cons (calls rest : List ConnEvent) (req : Request) (response : Response) :
    subscribers (.took req :: calls ++ .answered response :: rest) =
      subscribers calls ++ subscribers rest := by
  simp [subscribers, List.filterMap_append]

theorem subscribers_last {last : ConnEvent} (h : (∃ c, last = .streaming c) ∨ last = .closed) :
    subscribers [last] = [] := by
  rcases h with ⟨c, rfl⟩ | rfl <;> rfl

theorem subscribers_leave (hleave : Leaves leave) (conn : Connection) :
    subscribers (leave conn).events = [] := by
  rcases hleave conn with hnil | hclosed
  · rw [hnil]
    rfl
  · rw [hclosed]
    rfl

theorem subscribers_log_of_some (hleave : Leaves leave) {h264 : H264Params}
    (hsome : conn.subscription = some h264) :
    subscribers (log source sessionId leave conn reqs) = [] := by
  induction reqs generalizing conn with
  | nil => exact subscribers_leave hleave conn
  | cons req reqs ih =>
    obtain ⟨response, rest, -, hrest, hlog⟩ := log_cons_of_some source sessionId leave req reqs hsome
    rw [hlog, subscribers_cons]
    cases hrest with
    | goesOn conn' hsub _ => exact ih hsub
    | ends last hlast _ => exact subscribers_last hlast

theorem subscribers_rest (hleave : Leaves leave) {h264 : H264Params} {rest : List ConnEvent}
    (h : Rest source sessionId leave (some h264) req reqs rest) : subscribers rest = [] := by
  cases h with
  | goesOn conn hsub _ => exact subscribers_log_of_some hleave hsub
  | ends last hlast _ => exact subscribers_last hlast

/-- A connection subscribes at most once, on the first request that needs it. -/
theorem subscribers_log (hleave : Leaves leave) (hnone : conn.subscription = none) :
    subscribers (log source sessionId leave conn reqs) =
      (firstSubscriber source.rtspPath reqs).toList := by
  induction reqs generalizing conn with
  | nil => exact subscribers_leave hleave conn
  | cons req reqs ih =>
    have hlog := log_unsubscribed source sessionId leave req reqs hnone
    generalize log source sessionId leave conn (req :: reqs) = events at hlog
    unfold firstSubscriber
    cases hlog with
    | unavailable e hneed hsubscribe =>
      rw [hneed]
      rfl
    | subscribes h264 response rest hneed hsubscribe hanswers hrest =>
      rw [hneed, subscribers_cons, subscribers_rest hleave hrest]
      rfl
    | goesOn conn' response hsub hneed hdown hanswers =>
      rw [hneed, hdown, subscribers_cons]
      exact ih hsub
    | ends last response hlast hneed hdown hanswers =>
      rw [hneed, hdown, subscribers_cons]
      exact subscribers_last hlast

/-- A request that subscribes and is answered 404 is for another path. -/
theorem uriMatches_of_allNotFound (hleave : Leaves leave) (hnone : conn.subscription = none)
    (hall : AllNotFound (log source sessionId leave conn reqs)) :
    ∀ req ∈ firstSubscriber source.rtspPath reqs, uriMatches req.uri source.rtspPath = false := by
  induction reqs generalizing conn with
  | nil => simp [firstSubscriber]
  | cons req reqs ih =>
    have hlog := log_unsubscribed source sessionId leave req reqs hnone
    generalize log source sessionId leave conn (req :: reqs) = events at hlog hall
    unfold firstSubscriber
    unfold AllNotFound at hall
    cases hlog with
    | unavailable e hneed hsubscribe =>
      obtain ⟨⟨response, hpending, -⟩, -⟩ := answeredWith_took.mp hall
      cases hpending
    | subscribes h264 response rest hneed hsubscribe hanswers hrest =>
      rw [answeredWith_answer (.inr rfl) (pending_rest hleave hrest)] at hall
      rw [hneed]
      rintro req' hreq'
      obtain rfl := Option.some.inj hreq'
      exact hanswers.notFound hall.1
    | goesOn conn' response hsub hneed hdown hanswers =>
      rw [answeredWith_answer (.inl rfl) (pending_log hleave)] at hall
      rw [hneed, hdown]
      exact ih hsub hall.2
    | ends last response hlast hneed hdown hanswers =>
      rw [hneed, hdown]
      simp

end Connection

theorem handleConnection_eq (source : StreamSource) (sessionId : String) (chunks : List (List UInt8)) :
    handleConnection source sessionId chunks =
      Connection.log source sessionId (readLoop [] chunks).leave .new (readLoop [] chunks).requests :=
  congrArg Progress.events (Connection.read_eq .new [] chunks)

/-- Each request taken is answered once, with its CSeq, before the next is taken or the connection is
closed, just if `source.subscribe()` succeeds or no request that needs it is read before a TEARDOWN. -/
theorem eachAnswered_handleConnection (source : StreamSource) (sessionId : String)
    (chunks : List (List UInt8)) :
    EachAnswered (handleConnection source sessionId chunks) ↔
      (∃ h264, source.subscribe = .ok h264) ∨
        firstSubscriber source.rtspPath (readLoop [] chunks).requests = none := by
  rw [handleConnection_eq]
  exact Connection.eachAnswered_log (Connection.leaves_leave _) rfl

theorem readLoop_text {req : Request} (h : Fits req req.text) :
    readLoop [] [req.text] = ⟨[req], [], .reading⟩ := by
  have hpos := h.length_pos
  have hfits : List.Forall₂ Fits [req] [req.text] := .cons h .nil
  have hne : ∀ chunk ∈ [req.text], chunk ≠ [] := by
    intro chunk hchunk
    rw [List.mem_singleton.mp hchunk]
    exact List.ne_nil_of_length_pos hpos
  have hnext : ∀ t ∈ [req.text].head?, ([] : List UInt8).length < t.length := by
    rintro t ht
    obtain rfl := Option.some.inj ht
    exact hpos
  exact readLoop_of_fits hfits hne rfl hnext

/-- A DESCRIBE while the reconnect budget is spent. -/
theorem not_eachAnswered_describe :
    let source : StreamSource := ⟨"Camera", "x",
      .error (.unavailable "reconnect budget exhausted; next attempt allowed in 60s")⟩
    let log := handleConnection source "BUDDY3D-0" [Sample.describe.text]
    log = [.took Sample.describe, .subscribing Sample.describe, .closed] ∧ ¬ EachAnswered log := by
  intro source log
  have hfits : Fits Sample.describe Sample.describe.text :=
    ⟨Sample.wellFormed_describe, Sample.wellFormed_describe.renders_text, by decide⟩
  have hlog : log = [.took Sample.describe, .subscribing Sample.describe, .closed] := by
    show handleConnection source "BUDDY3D-0" [Sample.describe.text] = _
    rw [handleConnection_eq, readLoop_text hfits]
    decide +kernel
  refine ⟨hlog, ?_⟩
  rw [hlog, EachAnswered, answeredWith_took]
  rintro ⟨⟨response, hpending, -⟩, -⟩
  cases hpending

/-! ### The supervisor -/

/-- Every call of `source.subscribe()` is for a request with the configured path. -/
def SubscribesForPath (rtspPath : String) (log : List ConnEvent) : Prop :=
  ∀ req ∈ subscribers log, uriMatches req.uri rtspPath = true

/-- A supervisor on which the connection has made its calls of `subscribe()`. -/
def subscribeAll (s : Sys) (log : List ConnEvent) : Sys := (subscribers log).foldl (fun s _ => s.subscribe) s

/-- The calls are for the configured path only, and a connection that is refused throughout leaves the
supervisor alone, just if the first request that subscribes is for this path. -/
theorem subscribesForPath_handleConnection (source : StreamSource) (sessionId : String)
    (chunks : List (List UInt8)) :
    (SubscribesForPath source.rtspPath (handleConnection source sessionId chunks) ∧
      (AllNotFound (handleConnection source sessionId chunks) →
        ∀ s, subscribeAll s (handleConnection source sessionId chunks) = s)) ↔
      ∀ req ∈ firstSubscriber source.rtspPath (readLoop [] chunks).requests,
        uriMatches req.uri source.rtspPath = true := by
  have hleave := Connection.leaves_leave (readLoop [] chunks)
  have hcalls : subscribers (handleConnection source sessionId chunks) =
      (firstSubscriber source.rtspPath (readLoop [] chunks).requests).toList := by
    rw [handleConnection_eq]
    exact Connection.subscribers_log hleave rfl
  unfold SubscribesForPath subscribeAll
  rw [hcalls]
  simp only [Option.mem_toList, Option.mem_def]
  apply and_iff_left_of_imp
  intro hpath hall s
  rw [handleConnection_eq] at hall
  have hmismatch := Connection.uriMatches_of_allNotFound hleave rfl hall
  cases hfirst : firstSubscriber source.rtspPath (readLoop [] chunks).requests with
  | none => rfl
  | some req =>
    have hfalse := hmismatch req hfirst
    rw [hpath req hfirst] at hfalse
    cases hfalse

/-- A DESCRIBE for another path, answered 404, counts as a viewer. -/
theorem not_subscribesForPath_describe :
    let source : StreamSource := ⟨"Camera", "cam", .ok defaultH264⟩
    let log := handleConnection source "BUDDY3D-0" [Sample.describe.text]
    ¬ SubscribesForPath "cam" log ∧ AllNotFound log ∧
      ∀ s, (subscribeAll s log).viewerCount = s.viewerCount + 1 := by
  intro source log
  have hfits : Fits Sample.describe Sample.describe.text :=
    ⟨Sample.wellFormed_describe, Sample.wellFormed_describe.renders_text, by decide⟩
  have hlog : log = [.took Sample.describe, .subscribing Sample.describe,
      .answered (.error 404 "Not Found" 2)] := by
    show handleConnection source "BUDDY3D-0" [Sample.describe.text] = _
    rw [handleConnection_eq, readLoop_text hfits]
    decide +kernel
  rw [hlog]
  refine ⟨?_, ?_, ?_⟩
  · intro hpath
    have hother := hpath Sample.describe (by simp [subscribers])
    exact absurd hother (by decide)
  · rw [AllNotFound, answeredWith_took]
    refine ⟨⟨_, rfl, rfl⟩, ?_⟩
    rw [answeredWith_cons (by simp), answeredWith_cons (by simp)]
    exact answeredWith_nil
  · intro s
    rfl

end Buddy3dProxy.Rtsp
