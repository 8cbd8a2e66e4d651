import Buddy3dProxy.Rust.Text

/-!
# RTSP messages

The request and response types of `rtsp/message.rs` and the text of a response.
-/

namespace Buddy3dProxy.Rtsp

inductive Method where
  | options
  | describe
  | setup
  | play
  | teardown
  | getParameter
  /-- Anything that is answered with a 501. -/
  | unsupported
  deriving DecidableEq, Repr

def Method.asStr : Method → String
  | options => "OPTIONS"
  | describe => "DESCRIBE"
  | setup => "SETUP"
  | play => "PLAY"
  | teardown => "TEARDOWN"
  | getParameter => "GET_PARAMETER"
  | unsupported => "UNKNOWN"

def Method.parse (s : String) : Method :=
  match s with
  | "OPTIONS" => .options
  | "DESCRIBE" => .describe
  | "SETUP" => .setup
  | "PLAY" => .play
  | "TEARDOWN" => .teardown
  | "GET_PARAMETER" => .getParameter
  | _ => .unsupported

/-- The header map: lowercase names and their values, each name once. Its order is never read. -/
abbrev Headers := List (String × String)

/-- `HashMap::insert`: the last value of a name wins. -/
def Headers.insert (h : Headers) (name value : String) : Headers :=
  h.filter (·.1 ≠ name) ++ [(name, value)]

structure Request where
  method : Method
  uri : String
  headers : Headers
  body : List UInt8
  deriving DecidableEq, Repr

/-- The value of a header; `name` is looked up in lower case. -/
def Request.header (req : Request) (name : String) : Option String :=
  req.headers.lookup (String.ofList (Rust.toAsciiLowercase name.toList))

def Request.cseq (req : Request) : Option UInt32 :=
  (req.headers.lookup "cseq").bind fun s =>
    (Rust.parseUnsigned 4294967296 (Rust.trim s.toList)).map UInt32.ofNat

/-- A response to send back. -/
structure Response where
  status : Nat
  reason : String
  cseq : UInt32
  headers : List (String × String)
  body : Option String
  deriving DecidableEq, Repr

namespace Response

def ok (cseq : UInt32) : Response := ⟨200, "OK", cseq, [], none⟩

def error (status : Nat) (reason : String) (cseq : UInt32) : Response :=
  ⟨status, reason, cseq, [], none⟩

def withHeader (r : Response) (name value : String) : Response :=
  { r with headers := r.headers ++ [(name, value)] }

def withBody (r : Response) (contentType body : String) : Response :=
  { r with headers := r.headers ++ [("Content-Type", contentType)], body := some body }

/-- The Content-Length line of a body, with its length in bytes. -/
def contentLengthLine : Option String → String
  | some body => "Content-Length: " ++ toString body.utf8ByteSize ++ "\r\n"
  | none => ""

/-- The text that is sent. -/
def format (r : Response) : String :=
  "RTSP/1.0 " ++ toString r.status ++ " " ++ r.reason ++ "\r\nCSeq: " ++ toString r.cseq ++ "\r\n" ++
    contentLengthLine r.body ++ String.join (r.headers.map fun h => h.1 ++ ": " ++ h.2 ++ "\r\n") ++
    "\r\n" ++ r.body.getD ""

@[simp] theorem status_ok (cseq : UInt32) : (ok cseq).status = 200 := rfl

@[simp] theorem status_error (status : Nat) (reason : String) (cseq : UInt32) :
    (error status reason cseq).status = status := rfl

@[simp] theorem status_withHeader (r : Response) (name value : String) :
    (r.withHeader name value).status = r.status := rfl

@[simp] theorem status_withBody (r : Response) (contentType body : String) :
    (r.withBody contentType body).status = r.status := rfl

end Response

end Buddy3dProxy.Rtsp
