import Buddy3dProxy.Rtsp.Parse
import Buddy3dProxy.Rtsp.Session

/-!
# The framing of responses

What a client that reads a formatted response finds: the lines of one head, and after it as many bytes
as the head says. Names and reasons come from the server, but the URI of a request is echoed in a
header, and it may contain single CRs and LFs.
-/

namespace Buddy3dProxy.Rtsp

/-- The value of a header line with this name, in letters of any case. -/
def fieldValue? (name : String) (line : List Char) : Option (List Char) :=
  match Rust.splitOnce ':' line with
  | some (field, value) =>
    if Rust.toAsciiLowercase field = name.toList then some (Rust.trim value) else none
  | none => none

def fieldValues (name : String) (lines : List (List Char)) : List (List Char) :=
  lines.filterMap (fieldValue? name)

def Response.statusLine (r : Response) : List Char :=
  ("RTSP/1.0 " ++ toString r.status ++ " " ++ r.reason).toList

def headerLine (name value : String) : List Char := (name ++ ": " ++ value).toList

/-- The lines of a response's head. -/
def Response.lines (r : Response) : List (List Char) :=
  r.statusLine :: headerLine "CSeq" (toString r.cseq) ::
    ((r.body.map fun b => headerLine "Content-Length" (toString (Rust.utf8 b.toList).length)).toList ++
      r.headers.map fun h => headerLine h.1 h.2)

/-- The text is one message with these lines in its head: the head ends at the first empty line, only
its first line is a status line, CSeq is stated once, and so is the number of bytes that come after the
head, if any can. -/
structure Framed (text : List Char) (lines : List (List Char)) (cseq : UInt32)
    (body : Option String) : Prop where
  split : ∃ head, text = head ++ crlf ++ crlf ++ (body.getD "").toList ∧
    Rust.find (crlf ++ crlf) text = some head.length ∧ Rust.split crlf head = lines
  statusLine : lines.filter ("RTSP/1.0 ".toList.isPrefixOf ·) = lines.take 1
  cseq : fieldValues "cseq" lines = [(toString cseq).toList]
  contentLength : fieldValues "content-length" lines =
    (body.map fun b => (toString (Rust.utf8 b.toList).length).toList).toList

/-- A header name that is none of those `format` writes itself, and neither ends its line nor the
name. -/
def FieldName (name : String) : Prop :=
  (∀ c ∈ name.toList, c ∉ ['\r', '\n', ':', ' ']) ∧
    Rust.toAsciiLowercase name.toList ≠ "cseq".toList ∧
    Rust.toAsciiLowercase name.toList ≠ "content-length".toList

instance (name : String) : Decidable (FieldName name) :=
  inferInstanceAs (Decidable (_ ∧ _ ∧ _))

/-- A response with this CSeq whose parts keep to their lines. -/
structure Response.Clean (r : Response) (cseq : UInt32) : Prop where
  cseq : r.cseq = cseq
  reason : ∀ c ∈ r.reason.toList, c ∉ ['\r', '\n', ':']
  names : ∀ h ∈ r.headers, FieldName h.1
  values : ∀ h ∈ r.headers, ¬ crlf <:+: h.2.toList

/-! ## The lines of a head -/

theorem crlf_unbroken {line : List Char} (h : '\r' ∉ line) : ¬ crlf <:+: line :=
  fun hbroken => h (hbroken.subset (by simp [crlf]))

theorem isDigit_of_mem_toString {n : Nat} {c : Char} (h : c ∈ (toString n).toList) : c.isDigit = true := by
  have hdigits : (toString n).toList = Nat.toDigits 10 n := by simp [toString]
  rw [hdigits] at h
  exact Rust.isDigit_of_mem_toDigits h

theorem toList_headerLine (name value : String) :
    headerLine name value = name.toList ++ ':' :: (' ' :: value.toList) := by
  simp [headerLine]

theorem fieldValue?_headerLine {field : String} (h : ':' ∉ field.toList) (name value : String) :
    fieldValue? name (headerLine field value) =
      if Rust.toAsciiLowercase field.toList = name.toList then some (Rust.trim (' ' :: value.toList))
      else none := by
  unfold fieldValue?
  rw [toList_headerLine, Rust.splitOnce_append h]

theorem headerLine_unbroken {name value : String} (hname : '\r' ∉ name.toList)
    (hvalue : ¬ crlf <:+: value.toList) : headerLine name value ≠ [] ∧ ¬ crlf <:+: headerLine name value := by
  rw [toList_headerLine]
  refine ⟨by simp, fun hinfix => ?_⟩
  rcases Rust.infix_of_infix_append_cons (by decide) hinfix with hleft | hright
  · exact crlf_unbroken hname hleft
  · have hspace : ∀ c ∈ [' '], c ∉ crlf := by decide
    exact hvalue (Rust.infix_of_infix_append (by decide) hspace hright)

theorem Response.toList_format (r : Response) :
    r.format.toList = r.lines.flatMap (· ++ crlf) ++ crlf ++ (r.body.getD "").toList := by
  have hcrlf : "\r\n".toList = crlf := rfl
  have hcseq : "\r\nCSeq: ".toList = crlf ++ "CSeq".toList ++ ": ".toList := rfl
  have hlength : "Content-Length: ".toList = "Content-Length".toList ++ ": ".toList := by
    decide +kernel
  have hheaders : (r.headers.map fun h => h.1 ++ ": " ++ h.2 ++ "\r\n").flatMap String.toList =
      (r.headers.map fun h => headerLine h.1 h.2).flatMap (· ++ crlf) := by
    simp only [List.flatMap_map, headerLine, String.toList_append, hcrlf]
  unfold format contentLengthLine lines statusLine
  cases r.body <;>
    simp only [headerLine, String.toList_append, String.toList_join, hheaders, hcrlf, hcseq, hlength,
      Rust.length_utf8_toList, List.flatMap_cons, List.flatMap_append, List.flatMap_nil, List.append_assoc,
      Option.map_some, Option.map_none, Option.toList_some, Option.toList_none, Option.getD_some,
      Option.getD_none, String.toList_empty, List.nil_append, List.append_nil]

theorem trim_number (n : Nat) : Rust.trim (' ' :: (toString n).toList) = (toString n).toList := by
  have hdigits : ∀ c ∈ (toString n).toList, Rust.isWhitespace c = false := fun c hc =>
    Rust.isWhitespace_of_isDigit (isDigit_of_mem_toString hc)
  have hspace : ∀ c ∈ [' '], Rust.isWhitespace c = true := by decide
  have hpadded := Rust.trim_padded (Rust.trim_eq_self hdigits) hspace (List.forall_mem_nil _)
  simpa using hpadded

/-- A status line cannot be mistaken for a header. -/
theorem not_statusLine_headerLine {name : String} (h : ' ' ∉ name.toList) (value : String) :
    ¬ "RTSP/1.0 ".toList <+: headerLine name value := by
  rintro ⟨rest, heq⟩
  rw [toList_headerLine] at heq
  rcases List.append_eq_append_iff.mp heq with ⟨t, hname, -⟩ | ⟨t, hstart, ht⟩
  · exact h (by rw [hname]; simp)
  · cases t with
    | nil =>
      rw [List.append_nil] at hstart
      exact h (by rw [← hstart]; decide)
    | cons c t =>
      obtain ⟨rfl, -⟩ := List.cons.inj ht
      have hmem : ':' ∈ "RTSP/1.0 ".toList := by
        rw [hstart]
        simp
      exact absurd hmem (by decide)

theorem not_mem_toString (n : Nat) : ∀ c ∈ (toString n).toList, c ∉ ['\r', '\n', ':'] := by
  intro c hc hmem
  have hdigit := isDigit_of_mem_toString hc
  simp only [List.mem_cons, List.not_mem_nil, or_false] at hmem
  rcases hmem with rfl | rfl | rfl <;> simp at hdigit

namespace Response.Clean

variable {r : Response} {cseq : UInt32}

theorem statusLine (h : r.Clean cseq) : ∀ c ∈ r.statusLine, c ∉ ['\r', '\n', ':'] := by
  have hline : r.statusLine =
      "RTSP/1.0 ".toList ++ (toString r.status).toList ++ " ".toList ++ r.reason.toList := by
    unfold Response.statusLine
    simp only [String.toList_append]
  rw [hline]
  simp only [List.forall_mem_append]
  exact ⟨⟨⟨by decide, not_mem_toString r.status⟩, by decide⟩, h.reason⟩

/-- After the status line come header lines. -/
theorem headerLine_of_mem (h : r.Clean cseq) {line : List Char} (hline : line ∈ r.lines.tail) :
    ∃ name value, (∀ c ∈ name.toList, c ∉ ['\r', '\n', ':', ' ']) ∧ ¬ crlf <:+: value.toList ∧
      line = headerLine name value := by
  have hnumber : ∀ n : Nat, ¬ crlf <:+: (toString n).toList := fun n =>
    crlf_unbroken fun hc => not_mem_toString n '\r' hc (by simp)
  simp only [lines, List.tail_cons, List.mem_cons, List.mem_append, List.mem_map, Option.mem_toList,
    Option.map_eq_some_iff] at hline
  rcases hline with rfl | ⟨body, -, rfl⟩ | ⟨x, hx, rfl⟩
  · exact ⟨"CSeq", _, by decide, hnumber r.cseq.toNat, rfl⟩
  · exact ⟨"Content-Length", _, by decide, hnumber _, rfl⟩
  · exact ⟨x.1, x.2, (h.names x hx).1, h.values x hx, rfl⟩

/-- No line of the head breaks, and none but the first can be empty. -/
theorem unbroken (h : r.Clean cseq) :
    ¬ crlf <:+: r.statusLine ∧ ∀ line ∈ r.lines.tail, line ≠ [] ∧ ¬ crlf <:+: line := by
  refine ⟨crlf_unbroken fun hc => h.statusLine '\r' hc (by simp), ?_⟩
  intro line hline
  obtain ⟨name, value, hname, hvalue, rfl⟩ := h.headerLine_of_mem hline
  exact headerLine_unbroken (fun hc => hname '\r' hc (by simp)) hvalue

/-- Of a name that no header of the response has, the values are in the lines `format` writes itself. -/
theorem fieldValues_lines (h : r.Clean cseq) {name : String}
    (hname : ∀ x ∈ r.headers, Rust.toAsciiLowercase x.1.toList ≠ name.toList) :
    fieldValues name r.lines = (fieldValue? name (headerLine "CSeq" (toString r.cseq))).toList ++
      (r.body.bind fun b =>
        fieldValue? name (headerLine "Content-Length" (toString (Rust.utf8 b.toList).length))).toList := by
  have hfirst : fieldValue? name r.statusLine = none := by
    unfold fieldValue?
    rw [Rust.splitOnce_eq_none fun hc => h.statusLine ':' hc (by simp)]
  have hheaders : (r.headers.map fun x => headerLine x.1 x.2).filterMap (fieldValue? name) = [] := by
    rw [List.filterMap_eq_nil_iff]
    intro line hline
    obtain ⟨x, hx, rfl⟩ := List.mem_map.mp hline
    have hcolon : ':' ∉ x.1.toList := fun hc => (h.names x hx).1 ':' hc (by simp)
    rw [fieldValue?_headerLine hcolon, if_neg (hname x hx)]
  have hone : ∀ line, [line].filterMap (fieldValue? name) = (fieldValue? name line).toList := by
    intro line
    cases hline : fieldValue? name line <;> simp only [List.filterMap_cons, hline] <;> rfl
  unfold fieldValues lines
  rw [List.filterMap_cons_none hfirst, ← List.singleton_append, List.filterMap_append,
    List.filterMap_append, hheaders, List.append_nil, hone]
  cases r.body with
  | none => rfl
  | some body => simp only [Option.map_some, Option.toList_some, hone, Option.bind_some]

theorem framed (h : r.Clean cseq) : Framed r.format.toList r.lines cseq r.body where
  split := by
    obtain ⟨hfirst, hrest⟩ := h.unbroken
    have hlines : r.lines = r.statusLine :: r.lines.tail := rfl
    refine ⟨r.statusLine ++ r.lines.tail.flatMap (crlf ++ ·), ?_, ?_, ?_⟩
    · rw [r.toList_format, hlines, Rust.flatMap_append_separator]
      rfl
    · rw [r.toList_format, hlines, Rust.flatMap_append_separator]
      have hfind := Rust.find_lines (by decide) hfirst hrest (r.body.getD "").toList
      simpa [crlf] using hfind
    · rw [hlines]
      exact Rust.split_lines (by decide) hfirst fun line hline => (hrest line hline).2
  statusLine := by
    have hfirst : "RTSP/1.0 ".toList.isPrefixOf r.statusLine = true := by
      unfold Response.statusLine
      rw [List.isPrefixOf_iff_prefix]
      simp only [String.toList_append, List.append_assoc]
      exact List.prefix_append _ _
    have hrest : r.lines.tail.filter ("RTSP/1.0 ".toList.isPrefixOf ·) = [] := by
      rw [List.filter_eq_nil_iff]
      intro line hline
      rw [List.isPrefixOf_iff_prefix]
      obtain ⟨name, value, hname, -, rfl⟩ := h.headerLine_of_mem hline
      exact not_statusLine_headerLine (fun hc => hname ' ' hc (by simp)) value
    rw [show r.lines = r.statusLine :: r.lines.tail from rfl, List.filter_cons_of_pos hfirst, hrest]
    rfl
  cseq := by
    have hcseq : Rust.trim (' ' :: (toString r.cseq).toList) = (toString r.cseq).toList :=
      trim_number r.cseq.toNat
    have hlength : ∀ n : Nat, fieldValue? "cseq" (headerLine "Content-Length" (toString n)) = none := by
      intro n
      rw [fieldValue?_headerLine (by decide), if_neg (by decide)]
    rw [h.fieldValues_lines fun x hx => (h.names x hx).2.1, fieldValue?_headerLine (by decide),
      if_pos (by decide), hcseq, h.cseq]
    simp only [hlength, Option.bind_fun_none, Option.toList_some, Option.toList_none, List.append_nil]
  contentLength := by
    have hlength : ∀ n : Nat, fieldValue? "content-length" (headerLine "Content-Length" (toString n)) =
        some (toString n).toList := by
      intro n
      rw [fieldValue?_headerLine (by decide), if_pos (by decide), trim_number]
    rw [h.fieldValues_lines fun x hx => (h.names x hx).2.2, fieldValue?_headerLine (by decide),
      if_neg (by decide)]
    simp only [hlength, Option.toList_none, List.nil_append]
    cases r.body <;> rfl

theorem ok (cseq : UInt32) : (Response.ok cseq).Clean cseq :=
  have hreason : ∀ c ∈ "OK".toList, c ∉ ['\r', '\n', ':'] := by decide
  ⟨rfl, hreason, by simp [Response.ok], by simp [Response.ok]⟩

theorem error {reason : String} (hreason : ∀ c ∈ reason.toList, c ∉ ['\r', '\n', ':']) (status : Nat)
    (cseq : UInt32) : (Response.error status reason cseq).Clean cseq :=
  ⟨rfl, hreason, by simp [Response.error], by simp [Response.error]⟩

theorem withHeader (h : r.Clean cseq) {name value : String} (hname : FieldName name)
    (hvalue : ¬ crlf <:+: value.toList) : (r.withHeader name value).Clean cseq where
  cseq := h.cseq
  reason := h.reason
  names := by
    simp only [Response.withHeader, List.forall_mem_append, List.forall_mem_singleton]
    exact ⟨h.names, hname⟩
  values := by
    simp only [Response.withHeader, List.forall_mem_append, List.forall_mem_singleton]
    exact ⟨h.values, hvalue⟩

theorem withBody (h : r.Clean cseq) {contentType : String} (htype : ¬ crlf <:+: contentType.toList)
    (body : String) : (r.withBody contentType body).Clean cseq := by
  have hname : FieldName "Content-Type" := by decide
  have hheader := h.withHeader hname htype
  exact ⟨hheader.cseq, hheader.reason, hheader.names, hheader.values⟩

end Response.Clean

/-! ## Requests and sessions -/

/-- Whatever bytes a client sends, the URI of its request stands in one line. -/
theorem uri_of_parseRequest {buf : List UInt8} {req : Request} {n : Nat}
    (h : parseRequest buf = some (.ok (req, n))) : ¬ crlf <:+: req.uri.toList := by
  obtain ⟨bytes, head, hhead, huri⟩ := head_of_parseRequest h
  exact huri ▸ uri_of_parseHead hhead

/-- The id that a client gets has no CR and no LF. -/
def Session.IdUnbroken (s : Session) : Prop := ∀ id, s.sessionId = some id → ∀ c ∈ id.toList, c ∉ crlf

theorem transportValue_unbroken (lo hi : UInt8) : ¬ crlf <:+: (transportValue lo hi).toList := by
  have hchars : ∀ c ∈ (transportValue lo hi).toList, c ≠ '\r' := by
    unfold transportValue
    simp only [String.toList_append, List.forall_mem_append]
    have hnumber : ∀ n : Nat, ∀ c ∈ (toString n).toList, c ≠ '\r' := by
      rintro n c hc rfl
      exact not_mem_toString n '\r' hc (by simp)
    exact ⟨⟨⟨by decide, hnumber lo.toNat⟩, by decide⟩, hnumber hi.toNat⟩
  exact crlf_unbroken fun hc => hchars '\r' hc rfl

theorem reason_of_refusals {status : Nat} {reason : String} (h : (status, reason) ∈ refusals) :
    ∀ c ∈ reason.toList, c ∉ ['\r', '\n', ':'] := by
  have hall : ∀ x ∈ refusals, ∀ c ∈ x.2.toList, c ∉ ['\r', '\n', ':'] := by decide
  exact hall _ h

theorem Session.handle_clean {s : Session} {req : Request} {ctx : SessionContext} (hs : s.IdUnbroken)
    (hrequest : ¬ crlf <:+: req.uri.toList) (hid : ¬ crlf <:+: ctx.newSessionId.toList) :
    (s.handle req ctx).2.1.Clean (req.cseq.getD 0) := by
  have hsession : ∀ id, s.sessionId = some id → ¬ crlf <:+: id.toList := by
    intro id h
    exact crlf_unbroken fun hc => hs id h '\r' hc (by simp [crlf])
  have hdefault : ¬ crlf <:+: (s.sessionId.getD "").toList := by
    cases hopt : s.sessionId with
    | none => decide
    | some id => exact hsession id hopt
  have houtcome := s.handle_outcome req ctx
  generalize s.handle req ctx = result at houtcome
  cases houtcome with
  | notFound huri hm => exact .error (by decide) _ _
  | refused status reason huri hm hmem => exact .error (reason_of_refusals hmem) _ _
  | options hm => exact (Response.Clean.ok _).withHeader (by decide) (by decide)
  | described huri hm =>
    exact ((Response.Clean.ok _).withBody (by decide) _).withHeader (by decide) hrequest
  | setUp lo hi huri hm =>
    exact ((Response.Clean.ok _).withHeader (by decide) (transportValue_unbroken lo hi)).withHeader
      (by decide) hid
  | noSession huri hm hstate hopt => exact .error (by decide) _ _
  | playing sessionId huri hm hstate hopt =>
    exact ((Response.Clean.ok _).withHeader (by decide) (hsession sessionId hopt)).withHeader (by decide)
      (by decide)
  | tornDown huri hm => exact (Response.Clean.ok _).withHeader (by decide) hdefault
  | alive response huri hm hresponse =>
    rcases hresponse with rfl | rfl
    · exact .ok _
    · exact (Response.Clean.ok _).withHeader (by decide) hdefault

theorem Session.IdUnbroken.step {e : Exchange} (h : e.before.IdUnbroken) (he : Handled e)
    (hid : ∀ c ∈ e.ctx.newSessionId.toList, c ∉ crlf) : e.after.IdUnbroken := by
  cases he with
  | refused _ _ hafter _ => exact hafter ▸ h
  | answered _ _ hafter _ => exact hafter ▸ h
  | described _ hafter _ =>
    intro id heq
    rw [hafter] at heq
    exact h id heq
  | setUp _ _ _ _ _ hafter _ =>
    intro id heq
    rw [hafter] at heq
    cases heq
    exact hid
  | noSession _ _ _ hafter _ => exact hafter ▸ h
  | playing _ _ hafter _ =>
    intro id heq
    rw [hafter] at heq
    exact h id heq
  | tornDown _ hafter _ =>
    intro id heq
    rw [hafter] at heq
    exact h id heq

theorem Session.IdUnbroken.serve {s : Session} (h : s.IdUnbroken)
    {inputs : List (Request × SessionContext)}
    (hid : ∀ x ∈ inputs, ∀ c ∈ x.2.newSessionId.toList, c ∉ crlf) {e : Exchange}
    (he : e ∈ s.serve inputs) :
    e.before.IdUnbroken ∧ (∀ c ∈ e.ctx.newSessionId.toList, c ∉ crlf) ∧
      e = e.before.exchange e.req e.ctx := by
  induction inputs generalizing s with
  | nil => simp [Session.serve] at he
  | cons input rest ih =>
    obtain ⟨req, ctx⟩ := input
    have hctx : ∀ c ∈ ctx.newSessionId.toList, c ∉ crlf := hid (req, ctx) (by simp)
    rw [Session.serve, List.mem_cons] at he
    rcases he with heq | hrest
    · rw [heq, s.exchange_before, s.exchange_ctx, s.exchange_req]
      exact ⟨h, hctx, rfl⟩
    · have hbefore : (s.exchange req ctx).before.IdUnbroken := by rwa [s.exchange_before]
      have hctx' : ∀ c ∈ (s.exchange req ctx).ctx.newSessionId.toList, c ∉ crlf := by rwa [s.exchange_ctx]
      have hnext := hbefore.step (s.exchange_handled req ctx) hctx'
      exact ih hnext (fun x hx => hid x (by simp [hx])) hrest

/-- Every response that a session makes to a request that was parsed is sent as one message, with the
CSeq of the request. -/
theorem handle_framed {inputs : List (Request × SessionContext)}
    (hid : ∀ x ∈ inputs, ∀ c ∈ x.2.newSessionId.toList, c ∉ crlf) {e : Exchange}
    (he : e ∈ Session.new.serve inputs) {buf : List UInt8} {n : Nat}
    (hreq : parseRequest buf = some (.ok (e.req, n))) :
    Framed e.response.format.toList e.response.lines (e.req.cseq.getD 0) e.response.body := by
  have hnew : Session.new.IdUnbroken := by simp [Session.IdUnbroken, Session.new]
  obtain ⟨hbefore, hctx, heq⟩ := hnew.serve hid he
  have hresponse : e.response = (e.before.handle e.req e.ctx).2.1 := by
    conv_lhs => rw [heq, Session.exchange_response]
  have hclean : e.response.Clean (e.req.cseq.getD 0) := by
    rw [hresponse]
    exact Session.handle_clean hbefore (uri_of_parseRequest hreq)
      (crlf_unbroken fun hc => hctx '\r' hc (by simp [crlf]))
  exact hclean.framed

/-- A DESCRIBE with single CRs and LFs in its URI, of a camera whose name has some too. -/
theorem handle_framed_describe :
    let ctx : SessionContext := ⟨"Caméra\r\n\r\n", ⟨"42c01e", "", 1, 96⟩, "cam", "BUDDY3D-0"⟩
    let req : Request := ⟨.describe, "rtsp://h/cam;\rX:\n1\r", [("cseq", "7")], []⟩
    let e := Session.new.exchange req ctx
    parseRequest "DESCRIBE rtsp://h/cam;\rX:\n1\r RTSP/1.0\r\nCSeq: 7\r\n\r\n".toUTF8.toList =
        some (.ok (req, 50)) ∧
      e.response.status = 200 ∧ Framed e.response.format.toList e.response.lines 7 e.response.body := by
  intro ctx req e
  have hreq : parseRequest
      "DESCRIBE rtsp://h/cam;\rX:\n1\r RTSP/1.0\r\nCSeq: 7\r\n\r\n".toUTF8.toList =
      some (.ok (req, 50)) := by
    decide +kernel
  have hcseq : req.cseq.getD 0 = 7 := by decide +kernel
  have hsame : e.req = req := Session.new.exchange_req req ctx
  have hid : ∀ x ∈ [(req, ctx)], ∀ c ∈ x.2.newSessionId.toList, c ∉ crlf := by decide
  have he : e ∈ Session.new.serve [(req, ctx)] := by
    rw [Session.serve]
    exact List.mem_cons_self
  have hframed := handle_framed hid he (hsame.symm ▸ hreq)
  rw [hsame, hcseq] at hframed
  exact ⟨hreq, by decide +kernel, hframed⟩

end Buddy3dProxy.Rtsp
