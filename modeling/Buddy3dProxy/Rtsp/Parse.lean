import Buddy3dProxy.Rtsp.Message
import Buddy3dProxy.Rust.Lines
import Buddy3dProxy.Rust.Utf8

/-!
# Parsing one request

`parse_request` of `rtsp/message.rs`.
-/

namespace Buddy3dProxy.Rtsp

inductive ParseError where
  /-- More bytes are needed. -/
  | incomplete
  | badRequestLine (line : String)
  | badHeaderLine (line : String)
  | utf8
  | badContentLength (value : String)
  deriving DecidableEq, Repr

/-- A line end of the head. -/
def crlf : List Char := ['\r', '\n']

/-- The head of a request: all before its body. -/
structure Head where
  method : Method
  uri : String
  headers : Headers
  bodyLen : Nat
  deriving DecidableEq, Repr

def parseRequestLine (line : List Char) : Except ParseError (Method × String) :=
  match Rust.splitN 3 ' ' line with
  | [method, uri, _] => .ok (.parse (String.ofList method), String.ofList uri)
  | _ => .error (.badRequestLine (String.ofList line))

def parseHeaderLine (headers : Headers) (line : List Char) : Except ParseError Headers :=
  if line = [] then .ok headers
  else
    match Rust.splitOnce ':' line with
    | none => .error (.badHeaderLine (String.ofList line))
    | some (name, value) =>
      .ok (headers.insert (String.ofList (Rust.toAsciiLowercase (Rust.trim name)))
        (String.ofList (Rust.trim value)))

/-- The length of the body. -/
def contentLength (headers : Headers) : Except ParseError Nat :=
  match headers.lookup "content-length" with
  | none => .ok 0
  | some s =>
    match Rust.parseUnsigned 18446744073709551616 s.toList with
    | some n => .ok n
    | none => .error (.badContentLength s)

def parseHead (bytes : List UInt8) : Except ParseError Head :=
  match Rust.fromUtf8 bytes with
  | none => .error .utf8
  | some text =>
    match Rust.split crlf text with
    | [] => .error (.badRequestLine (String.ofList text))
    | requestLine :: lines => do
      let (method, uri) ← parseRequestLine requestLine
      let headers ← lines.foldlM parseHeaderLine []
      return ⟨method, uri, headers, ← contentLength headers⟩

/-- `parse_request`: the request at the start of a buffer and the number of its bytes. The sum of the
lengths wraps as a `usize` does; `none` when slicing the body panics. -/
def parseRequest (buf : List UInt8) : Option (Except ParseError (Request × Nat)) :=
  match Rust.find [13, 10, 13, 10] buf with
  | none => some (.error .incomplete)
  | some idx =>
    match parseHead (buf.take idx) with
    | .error e => some (.error e)
    | .ok head =>
      let stop := (idx + 4 + head.bodyLen) % 18446744073709551616
      if buf.length < stop then some (.error .incomplete)
      else if stop < idx + 4 then none
      else some (.ok (⟨head.method, head.uri, head.headers, (buf.take stop).drop (idx + 4)⟩, stop))

/-- Of a request that is parsed at least one byte is consumed, and no byte past the buffer. -/
theorem consumed_of_parseRequest {buf : List UInt8} {req : Request} {n : Nat}
    (h : parseRequest buf = some (.ok (req, n))) : 0 < n ∧ n ≤ buf.length := by
  unfold parseRequest at h
  split at h
  · cases h
  · split at h
    · cases h
    · simp only at h
      split at h
      · cases h
      · split at h
        · cases h
        · cases h
          omega

/-- The result on a buffer whose head is complete. -/
theorem parseRequest_of_head {buf : List UInt8} {idx : Nat} {head : Head}
    (hfind : Rust.find [13, 10, 13, 10] buf = some idx) (hhead : parseHead (buf.take idx) = .ok head)
    (hsize : idx + 4 + head.bodyLen < 18446744073709551616) :
    parseRequest buf =
      if buf.length < idx + 4 + head.bodyLen then some (.error .incomplete)
      else some (.ok (⟨head.method, head.uri, head.headers, (buf.drop (idx + 4)).take head.bodyLen⟩,
        idx + 4 + head.bodyLen)) := by
  have hstop : ¬ idx + 4 + head.bodyLen < idx + 4 := by omega
  have hbody : (buf.take (idx + 4 + head.bodyLen)).drop (idx + 4) =
      (buf.drop (idx + 4)).take head.bodyLen := by
    rw [List.drop_take]
    congr 1
    omega
  simp only [parseRequest, hfind, hhead, Nat.mod_eq_of_lt hsize, if_neg hstop, hbody]

/-! ## A client's Content-Length -/

theorem contentLength_lt {headers : Headers} {k : Nat} (h : contentLength headers = .ok k) :
    k < 18446744073709551616 := by
  unfold contentLength at h
  split at h
  · cases h
    decide
  · split at h
    next n hn =>
      cases h
      exact Rust.parseUnsigned_lt hn
    · cases h

/-- What a head that is parsed was made of. -/
theorem lines_of_parseHead {bytes : List UInt8} {head : Head} (h : parseHead bytes = .ok head) :
    ∃ text requestLine lines, Rust.fromUtf8 bytes = some text ∧
      Rust.split crlf text = requestLine :: lines ∧
      parseRequestLine requestLine = .ok (head.method, head.uri) ∧
      lines.foldlM parseHeaderLine [] = .ok head.headers ∧
      contentLength head.headers = .ok head.bodyLen := by
  unfold parseHead at h
  split at h
  · cases h
  next text htext =>
    split at h
    · cases h
    next requestLine lines hlines =>
      cases hline : parseRequestLine requestLine with
      | error e => simp [hline, bind, Except.bind] at h
      | ok line =>
        cases hheaders : lines.foldlM parseHeaderLine [] with
        | error e => simp [hline, hheaders, bind, Except.bind] at h
        | ok headers =>
          cases hk : contentLength headers with
          | error e => simp [hline, hheaders, hk, bind, Except.bind] at h
          | ok k =>
            simp only [hline, hheaders, hk, bind, Except.bind, pure, Except.pure] at h
            cases h
            exact ⟨text, requestLine, lines, htext, hlines, hline, hheaders, hk⟩

/-- The length of the body is what the headers give for it. -/
theorem contentLength_of_parseHead {bytes : List UInt8} {head : Head} (h : parseHead bytes = .ok head) :
    contentLength head.headers = .ok head.bodyLen := by
  obtain ⟨-, -, -, -, -, -, -, hk⟩ := lines_of_parseHead h
  exact hk

/-- The URI stands in one line. -/
theorem uri_of_parseHead {bytes : List UInt8} {head : Head} (h : parseHead bytes = .ok head) :
    ¬ crlf <:+: head.uri.toList := by
  obtain ⟨text, requestLine, lines, -, hlines, hline, -, -⟩ := lines_of_parseHead h
  have hunbroken : ¬ crlf <:+: requestLine :=
    Rust.not_infix_of_mem_split (s := text) (by simp [crlf]) (by simp [hlines])
  unfold parseRequestLine at hline
  split at hline
  next method uri version hparts =>
    have huri : uri <:+: requestLine := Rust.infix_of_mem_splitN (by rw [hparts]; simp)
    have heq : String.ofList uri = head.uri := (Prod.mk.inj (Except.ok.inj hline)).2
    rw [← heq, String.toList_ofList]
    exact fun hbroken => hunbroken (hbroken.trans huri)
  · cases hline

theorem head_of_parseRequest {buf : List UInt8} {req : Request} {n : Nat}
    (h : parseRequest buf = some (.ok (req, n))) :
    ∃ bytes head, parseHead bytes = .ok head ∧ head.uri = req.uri := by
  unfold parseRequest at h
  split at h
  · cases h
  next idx _ =>
    split at h
    · cases h
    next head hhead =>
      simp only at h
      split at h
      · cases h
      · split at h
        · cases h
        · cases h
          exact ⟨_, head, hhead, rfl⟩

/-- A result is returned, and of a request that is parsed the body is the last bytes consumed, as many
as its Content-Length says. -/
structure ParsesSafely (buf : List UInt8) : Prop where
  returns : ∃ result, parseRequest buf = some result
  consumed : ∀ req n, parseRequest buf = some (.ok (req, n)) → 0 < n ∧ n ≤ buf.length
  body : ∀ req n, parseRequest buf = some (.ok (req, n)) →
    ∃ k, contentLength req.headers = .ok k ∧ k ≤ n ∧ req.body = (buf.take n).drop (n - k)

/-- Where the lengths of head and body add up to 2^64 or more, the sum wraps to less than the length of
the head. -/
theorem parseRequest_eq_none {buf : List UInt8} {idx : Nat} {head : Head}
    (hfind : Rust.find [13, 10, 13, 10] buf = some idx) (hhead : parseHead (buf.take idx) = .ok head)
    (hsize : ¬ idx + 4 + head.bodyLen < 18446744073709551616) : parseRequest buf = none := by
  have hle : idx + 4 ≤ buf.length := Rust.find_length_le hfind
  have hk : head.bodyLen < 18446744073709551616 :=
    contentLength_lt (contentLength_of_parseHead hhead)
  have hstop : (idx + 4 + head.bodyLen) % 18446744073709551616 < idx + 4 := by omega
  have hlen : ¬ buf.length < (idx + 4 + head.bodyLen) % 18446744073709551616 := by omega
  simp only [parseRequest, hfind, hhead, if_neg hlen, if_pos hstop]

/-- The parser is safe on the buffers on which the length of a head and its Content-Length do not add up
to 2^64 or more. -/
theorem parsesSafely_iff (buf : List UInt8) :
    ParsesSafely buf ↔ ∀ idx head, Rust.find [13, 10, 13, 10] buf = some idx →
      parseHead (buf.take idx) = .ok head → idx + 4 + head.bodyLen < 18446744073709551616 := by
  constructor
  · rintro ⟨⟨result, hresult⟩, -, -⟩ idx head hfind hhead
    by_contra hsize
    rw [parseRequest_eq_none hfind hhead hsize] at hresult
    cases hresult
  · intro hsize
    cases hfind : Rust.find [13, 10, 13, 10] buf with
    | none =>
      have hnone : parseRequest buf = some (.error .incomplete) := by simp only [parseRequest, hfind]
      refine ⟨⟨_, hnone⟩, ?_, ?_⟩ <;> simp [hnone]
    | some idx =>
      cases hhead : parseHead (buf.take idx) with
      | error e =>
        have herr : parseRequest buf = some (.error e) := by simp only [parseRequest, hfind, hhead]
        refine ⟨⟨_, herr⟩, ?_, ?_⟩ <;> simp [herr]
      | ok head =>
        have heq := parseRequest_of_head hfind hhead (hsize idx head hfind hhead)
        refine ⟨?_, fun req n h => consumed_of_parseRequest h, ?_⟩
        · rw [heq]
          split <;> exact ⟨_, rfl⟩
        · intro req n h
          rw [heq] at h
          split at h
          · cases h
          · cases h
            refine ⟨head.bodyLen, contentLength_of_parseHead hhead, Nat.le_add_left _ _, ?_⟩
            rw [Nat.add_sub_cancel, List.drop_take, Nat.add_sub_cancel_left]

/-- The largest Content-Length makes slicing the body panic. -/
theorem not_parsesSafely_max :
    ¬ ParsesSafely "PLAY r RTSP/1.0\r\nContent-Length: 18446744073709551615\r\n\r\n".toUTF8.toList := by
  have hnone : parseRequest
      "PLAY r RTSP/1.0\r\nContent-Length: 18446744073709551615\r\n\r\n".toUTF8.toList = none := by
    decide +kernel
  rintro ⟨⟨result, hresult⟩, -, -⟩
  rw [hnone] at hresult
  cases hresult

end Buddy3dProxy.Rtsp
