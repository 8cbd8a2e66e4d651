import Mathlib.Data.List.Forall2
import Buddy3dProxy.Rtsp.Parse

/-!
# Requests as text

The renderings of a request as RTSP text, and that `parseRequest` reads a request back from each of
them, whatever bytes come after it.
-/

namespace Buddy3dProxy.Rtsp

/-- A request whose parts can stand in a rendering: no part breaks its line, names and values are what
trimming and lowercasing leave of them, and a body comes with its length. -/
structure Request.Plain (req : Request) : Prop where
  uri : ' ' ∉ req.uri.toList ∧ ¬ crlf <:+: req.uri.toList
  names : ∀ h ∈ req.headers, Rust.toAsciiLowercase h.1.toList = h.1.toList ∧
    Rust.trim h.1.toList = h.1.toList ∧ ':' ∉ h.1.toList
  distinct : (req.headers.map (·.1)).Nodup
  values : ∀ h ∈ req.headers, Rust.trim h.2.toList = h.2.toList ∧ ¬ crlf <:+: h.2.toList
  length : req.body ≠ [] → contentLength req.headers = .ok req.body.length

/-- Besides, no name breaks its line, and a Content-Length gives the length of an empty body too. -/
structure Request.WellFormed (req : Request) : Prop extends Plain req where
  names_crlf : ∀ h ∈ req.headers, ¬ crlf <:+: h.1.toList
  length_empty : req.body = [] → contentLength req.headers = .ok 0

/-- Blanks that may stand around a name or a value. -/
def Blank (pad : List Char) : Prop := ∀ c ∈ pad, c = ' ' ∨ c = '\t'

/-- A line for a header: the name in letters of any case, a colon and the value, with blanks around
both. -/
def RendersHeader (h : String × String) (line : List Char) : Prop :=
  ∃ p₁ name p₂ p₃ p₄, Blank p₁ ∧ Blank p₂ ∧ Blank p₃ ∧ Blank p₄ ∧
    Rust.toAsciiLowercase name = h.1.toList ∧
    line = p₁ ++ name ++ p₂ ++ ':' :: (p₃ ++ h.2.toList ++ p₄)

/-- The text of a request's head with these lines. -/
def headText (method uri version : List Char) (lines : List (List Char)) : List Char :=
  method ++ ' ' :: (uri ++ ' ' :: version) ++ lines.flatMap (crlf ++ ·)

/-- The bytes of a request: some text for its method, its URI and a version, a line for each header, an
empty line, and the body. -/
def Renders (req : Request) (bytes : List UInt8) : Prop :=
  ∃ method version lines, Method.parse (String.ofList method) = req.method ∧
    ' ' ∉ method ∧ ¬ crlf <:+: method ∧ ¬ crlf <:+: version ∧
    List.Forall₂ RendersHeader req.headers lines ∧
    bytes = Rust.utf8 (headText method req.uri.toList version lines ++ crlf ++ crlf) ++ req.body

/-- The plainest rendering. -/
def Request.text (req : Request) : List UInt8 :=
  Rust.utf8 (headText req.method.asStr.toList req.uri.toList "RTSP/1.0".toList
    (req.headers.map fun h => h.1.toList ++ ':' :: ' ' :: h.2.toList) ++ crlf ++ crlf) ++ req.body

theorem Request.Plain.renders_text {req : Request} (h : req.Plain) : Renders req req.text := by
  have hmethod : Method.parse (String.ofList req.method.asStr.toList) = req.method ∧
      ' ' ∉ req.method.asStr.toList ∧ ¬ crlf <:+: req.method.asStr.toList := by
    cases req.method <;> decide
  have hblank : Blank [] := by simp [Blank]
  have hlines : List.Forall₂ RendersHeader req.headers
      (req.headers.map fun h => h.1.toList ++ ':' :: ' ' :: h.2.toList) := by
    rw [List.forall₂_map_right_iff, List.forall₂_same]
    intro x hx
    exact ⟨[], x.1.toList, [], [' '], [], hblank, hblank, by simp [Blank], hblank, (h.names x hx).1,
      by simp⟩
  exact ⟨_, _, _, hmethod.1, hmethod.2.1, hmethod.2.2, by decide, hlines, rfl⟩

theorem Request.WellFormed.contentLength {req : Request} (h : req.WellFormed) :
    Rtsp.contentLength req.headers = .ok req.body.length := by
  by_cases hbody : req.body = []
  · rw [h.length_empty hbody, hbody]
    rfl
  · exact h.length hbody

/-! ## Header lines -/

theorem Blank.isWhitespace {pad : List Char} (h : Blank pad) :
    ∀ c ∈ pad, Rust.isWhitespace c = true := by
  intro c hc
  rcases h c hc with rfl | rfl <;> rfl

theorem Blank.not_mem_crlf {pad : List Char} (h : Blank pad) : ∀ c ∈ pad, c ∉ crlf := by
  intro c hc
  rcases h c hc with rfl | rfl <;> decide

theorem Blank.not_colon {pad : List Char} (h : Blank pad) : ':' ∉ pad := by
  intro hc
  rcases h ':' hc with hcolon | hcolon <;> exact absurd hcolon (by decide)

theorem Blank.toAsciiLowercase {pad : List Char} (h : Blank pad) :
    Rust.toAsciiLowercase pad = pad := by
  have hid : ∀ c ∈ pad, c.toLower = c := by
    intro c hc
    rcases h c hc with rfl | rfl <;> rfl
  simpa [Rust.toAsciiLowercase] using List.map_congr_left hid

section Header

variable {h : String × String} {line : List Char}

/-- A header line is no empty line and does not break. -/
theorem RendersHeader.unbroken (hr : RendersHeader h line) (hname : ¬ crlf <:+: h.1.toList)
    (hvalue : ¬ crlf <:+: h.2.toList) : line ≠ [] ∧ ¬ crlf <:+: line := by
  obtain ⟨p₁, name, p₂, p₃, p₄, hp₁, hp₂, hp₃, hp₄, hlower, rfl⟩ := hr
  refine ⟨by simp, fun hinfix => ?_⟩
  rcases Rust.infix_of_infix_append_cons (by decide) hinfix with hleft | hright
  · have hraw := Rust.infix_of_infix_padded (by decide) hp₁.not_mem_crlf hp₂.not_mem_crlf hleft
    have hmap := hraw.map Char.toLower
    exact hname (hlower ▸ hmap)
  · exact hvalue (Rust.infix_of_infix_padded (by decide) hp₃.not_mem_crlf hp₄.not_mem_crlf hright)

theorem parseHeaderLine_of_renders (hr : RendersHeader h line)
    (hname : Rust.trim h.1.toList = h.1.toList ∧ ':' ∉ h.1.toList)
    (hvalue : Rust.trim h.2.toList = h.2.toList) (headers : Headers) :
    parseHeaderLine headers line = .ok (headers.insert h.1 h.2) := by
  obtain ⟨p₁, name, p₂, p₃, p₄, hp₁, hp₂, hp₃, hp₄, hlower, rfl⟩ := hr
  have hcolon : ':' ∉ p₁ ++ name ++ p₂ := by
    have hraw : ':' ∉ name := by
      intro hmem
      have hmem' : Char.toLower ':' ∈ Rust.toAsciiLowercase name := List.mem_map_of_mem hmem
      rw [hlower] at hmem'
      exact hname.2 hmem'
    simp [hp₁.not_colon, hraw, hp₂.not_colon]
  have hname' : Rust.toAsciiLowercase (Rust.trim (p₁ ++ name ++ p₂)) = h.1.toList := by
    have hparts : Rust.toAsciiLowercase (p₁ ++ name ++ p₂) = p₁ ++ h.1.toList ++ p₂ := by
      have hpad₁ : p₁.map Char.toLower = p₁ := hp₁.toAsciiLowercase
      have hpad₂ : p₂.map Char.toLower = p₂ := hp₂.toAsciiLowercase
      rw [← hlower, Rust.toAsciiLowercase, List.map_append, List.map_append, hpad₁, hpad₂]
      rfl
    rw [← Rust.trim_toAsciiLowercase, hparts]
    exact Rust.trim_padded hname.1 hp₁.isWhitespace hp₂.isWhitespace
  have hvalue' : Rust.trim (p₃ ++ h.2.toList ++ p₄) = h.2.toList :=
    Rust.trim_padded hvalue hp₃.isWhitespace hp₄.isWhitespace
  have hne : p₁ ++ name ++ p₂ ++ ':' :: (p₃ ++ h.2.toList ++ p₄) ≠ [] := by simp
  rw [parseHeaderLine, if_neg hne, Rust.splitOnce_append hcolon]
  simp only [hname', hvalue', String.ofList_toList]

end Header

theorem unbroken_lines {headers : Headers} {lines : List (List Char)}
    (hlines : List.Forall₂ RendersHeader headers lines)
    (hnames : ∀ h ∈ headers, ¬ crlf <:+: h.1.toList)
    (hvalues : ∀ h ∈ headers, ¬ crlf <:+: h.2.toList) :
    ∀ line ∈ lines, line ≠ [] ∧ ¬ crlf <:+: line := by
  induction hlines with
  | nil => simp
  | @cons h line headers lines hr _ ih =>
    intro line' hline'
    rcases List.mem_cons.mp hline' with rfl | hmem
    · exact hr.unbroken (hnames h (by simp)) (hvalues h (by simp))
    · exact ih (fun x hx => hnames x (by simp [hx])) (fun x hx => hvalues x (by simp [hx])) line' hmem

/-- A header with a new name goes to the end. -/
theorem Headers.insert_of_not_mem {headers : Headers} {name : String}
    (h : name ∉ headers.map (·.1)) (value : String) :
    headers.insert name value = headers ++ [(name, value)] := by
  have hkeep : headers.filter (·.1 ≠ name) = headers := by
    rw [List.filter_eq_self]
    intro x hx
    have hne : x.1 ≠ name := fun heq => h (List.mem_map.mpr ⟨x, hx, heq⟩)
    simpa using hne
  rw [Headers.insert, hkeep]

theorem foldlM_parseHeaderLine {headers : Headers} {lines : List (List Char)}
    (hlines : List.Forall₂ RendersHeader headers lines)
    (hnames : ∀ h ∈ headers, Rust.trim h.1.toList = h.1.toList ∧ ':' ∉ h.1.toList)
    (hvalues : ∀ h ∈ headers, Rust.trim h.2.toList = h.2.toList) (before : Headers)
    (hdistinct : ((before ++ headers).map (·.1)).Nodup) :
    lines.foldlM parseHeaderLine before = .ok (before ++ headers) := by
  induction hlines generalizing before with
  | nil => simp [pure, Except.pure]
  | @cons h line headers lines hr _ ih =>
    have hnew : h.1 ∉ before.map (·.1) := by
      intro hmem
      rw [List.map_append, List.nodup_append] at hdistinct
      exact hdistinct.2.2 h.1 hmem h.1 (by simp) rfl
    have hparse : parseHeaderLine before line = .ok (before ++ [h]) := by
      rw [parseHeaderLine_of_renders hr (hnames h (by simp)) (hvalues h (by simp)),
        Headers.insert_of_not_mem hnew]
    rw [List.foldlM_cons, hparse]
    have hrest := ih (fun x hx => hnames x (by simp [hx])) (fun x hx => hvalues x (by simp [hx]))
      (before ++ [h]) (by simpa using hdistinct)
    simpa [bind, Except.bind] using hrest

/-! ## The head -/

section Rendered

variable {req : Request} {bytes : List UInt8}

theorem parseRequestLine_of_parts {method uri : List Char} (hmethod : ' ' ∉ method)
    (huri : ' ' ∉ uri) (version : List Char) :
    parseRequestLine (method ++ ' ' :: (uri ++ ' ' :: version)) =
      .ok (.parse (String.ofList method), String.ofList uri) := by
  have hsplit : Rust.splitN 3 ' ' (method ++ ' ' :: (uri ++ ' ' :: version)) =
      [method, uri, version] := by
    simp [Rust.splitN, Rust.splitOnce_append hmethod, Rust.splitOnce_append huri]
  simp [parseRequestLine, hsplit]

/-- An unbroken line is unbroken in its bytes. -/
theorem not_infix_utf8 {line : List Char} (h : ¬ crlf <:+: line) :
    ¬ [13, 10] <:+: Rust.utf8 line := by
  intro hinfix
  have hcrlf : Rust.utf8 crlf = [13, 10] := rfl
  have hascii : ∀ c ∈ crlf, c.toNat < 128 := by
    intro c hc
    simp only [crlf, List.mem_cons, List.not_mem_nil, or_false] at hc
    rcases hc with rfl | rfl <;> decide
  rw [← hcrlf] at hinfix
  exact h (Rust.infix_of_utf8 hascii (by simp [crlf]) hinfix)

theorem utf8_lines (lines : List (List Char)) :
    Rust.utf8 (lines.flatMap (crlf ++ ·)) = (lines.map Rust.utf8).flatMap ([13, 10] ++ ·) := by
  induction lines with
  | nil => rfl
  | cons line lines ih =>
    have hcrlf : Rust.utf8 crlf = [13, 10] := rfl
    simp [hcrlf, ih]

/-- The text of a head is parsed back. -/
theorem parseHead_headText {method version : List Char} {lines : List (List Char)}
    (hreq : req.WellFormed) (hmethod : ' ' ∉ method)
    (hfirst : ¬ crlf <:+: method ++ ' ' :: (req.uri.toList ++ ' ' :: version))
    (hlines : List.Forall₂ RendersHeader req.headers lines) :
    parseHead (Rust.utf8 (headText method req.uri.toList version lines)) =
      .ok ⟨.parse (String.ofList method), req.uri, req.headers, req.body.length⟩ := by
  have hunbroken := unbroken_lines hlines hreq.names_crlf fun h hh => (hreq.values h hh).2
  have hsplit : Rust.split crlf (headText method req.uri.toList version lines) =
      (method ++ ' ' :: (req.uri.toList ++ ' ' :: version)) :: lines :=
    Rust.split_lines (by decide) hfirst fun line hline => (hunbroken line hline).2
  have hheaders : lines.foldlM parseHeaderLine [] = .ok req.headers :=
    foldlM_parseHeaderLine hlines (fun h hh => (hreq.names h hh).2) (fun h hh => (hreq.values h hh).1)
      [] hreq.distinct
  simp [parseHead, Rust.fromUtf8_utf8, hsplit, parseRequestLine_of_parts hmethod hreq.uri.1, hheaders,
    hreq.contentLength, bind, Except.bind, pure, Except.pure]

/-- A rendering is a head, an empty line and the body: the head is parsed, and the empty line after it
is the first one. -/
theorem head_of_renders (hreq : req.WellFormed) (hr : Renders req bytes) :
    ∃ head : List UInt8, bytes = head ++ [13, 10, 13, 10] ++ req.body ∧
      (∀ t, Rust.find [13, 10, 13, 10] (head ++ [13, 10, 13, 10] ++ t) = some head.length) ∧
      parseHead head = .ok ⟨req.method, req.uri, req.headers, req.body.length⟩ := by
  obtain ⟨method, version, lines, hmethod, hspace, hcrlf, hversion, hlines, rfl⟩ := hr
  have hfirst : ¬ crlf <:+: method ++ ' ' :: (req.uri.toList ++ ' ' :: version) := by
    intro hinfix
    rcases Rust.infix_of_infix_append_cons (by decide) hinfix with hm | hinfix
    · exact hcrlf hm
    · rcases Rust.infix_of_infix_append_cons (by decide) hinfix with hu | hv
      · exact hreq.uri.2 hu
      · exact hversion hv
  refine ⟨Rust.utf8 (headText method req.uri.toList version lines), ?_, ?_, ?_⟩
  · have hempty : Rust.utf8 (crlf ++ crlf) = [13, 10, 13, 10] := rfl
    rw [List.append_assoc (headText _ _ _ _), Rust.utf8_append, hempty]
  · intro t
    have hunbroken := unbroken_lines hlines hreq.names_crlf fun h hh => (hreq.values h hh).2
    have hbytes : ∀ line ∈ lines.map Rust.utf8, line ≠ [] ∧ ¬ [13, 10] <:+: line := by
      intro line hline
      obtain ⟨text, htext, rfl⟩ := List.mem_map.mp hline
      obtain ⟨hne, hcrlf'⟩ := hunbroken text htext
      obtain ⟨c, rest, rfl⟩ := List.exists_cons_of_ne_nil hne
      exact ⟨by simp [String.utf8EncodeChar_ne_nil], not_infix_utf8 hcrlf'⟩
    have hfind := Rust.find_lines (by decide) (not_infix_utf8 hfirst) hbytes t
    rw [headText, Rust.utf8_append, utf8_lines]
    simpa using hfind
  · rw [parseHead_headText hreq hspace hfirst hlines, hmethod]

/-- A rendering is parsed, whatever comes after it. -/
theorem parseRequest_of_renders (hreq : req.WellFormed) (hr : Renders req bytes)
    (hsize : bytes.length < 18446744073709551616) (t : List UInt8) :
    parseRequest (bytes ++ t) = some (.ok (req, bytes.length)) := by
  obtain ⟨head, rfl, hfind, hhead⟩ := head_of_renders hreq hr
  have hlen : (head ++ [13, 10, 13, 10] ++ req.body).length = head.length + 4 + req.body.length := by
    simp only [List.length_append, List.length_cons, List.length_nil]
  rw [hlen] at hsize ⊢
  have hbuf : head ++ [13, 10, 13, 10] ++ req.body ++ t =
      head ++ [13, 10, 13, 10] ++ (req.body ++ t) := by simp
  have htake : (head ++ [13, 10, 13, 10] ++ (req.body ++ t)).take head.length = head := by simp
  have hlong : ¬ (head ++ [13, 10, 13, 10] ++ (req.body ++ t)).length <
      head.length + 4 + req.body.length := by
    simp only [List.length_append, List.length_cons, List.length_nil]
    omega
  have hbody : ((head ++ [13, 10, 13, 10] ++ (req.body ++ t)).drop (head.length + 4)).take
      req.body.length = req.body := by
    rw [List.drop_left' (by simp), List.take_left' rfl]
  rw [hbuf, parseRequest_of_head (hfind _) (htake.symm ▸ hhead) hsize, if_neg hlong, hbody]

/-- The beginning of a rendering is incomplete. -/
theorem parseRequest_of_append (hreq : req.WellFormed) {p q : List UInt8} (hr : Renders req (p ++ q))
    (hq : q ≠ []) (hsize : (p ++ q).length < 18446744073709551616) :
    parseRequest p = some (.error .incomplete) := by
  obtain ⟨head, hbytes, hfind, hhead⟩ := head_of_renders hreq hr
  have hqlen : 0 < q.length := List.length_pos_of_ne_nil hq
  have hlen : p.length + q.length = head.length + 4 + req.body.length := by
    have heq := congrArg List.length hbytes
    simpa only [List.length_append, List.length_cons, List.length_nil] using heq
  by_cases hshort : p.length < head.length + 4
  · -- the empty line is not complete
    have hnone : Rust.find [13, 10, 13, 10] p = none :=
      Rust.find_eq_none_of_append (hbytes ▸ hfind req.body) hshort
    simp [parseRequest, hnone]
  · -- the body is not
    have hprefix : head ++ [13, 10, 13, 10] <+: p := by
      refine List.prefix_of_prefix_length_le ⟨req.body, hbytes.symm⟩ ⟨q, rfl⟩ ?_
      simpa using Nat.le_of_not_lt hshort
    obtain ⟨rest, rfl⟩ := hprefix
    have htake : (head ++ [13, 10, 13, 10] ++ rest).take head.length = head := by simp
    rw [List.length_append] at hsize
    rw [parseRequest_of_head (hfind rest) (htake.symm ▸ hhead) (by simp only; omega),
      if_pos (by simp only; omega)]

end Rendered

end Buddy3dProxy.Rtsp
