/-!
# Requests to the Prusa servers

`PrusaClient::send` of `prusa/client.rs` as far as it sorts the replies.
-/

namespace Buddy3dProxy.Prusa

/-- An HTTP response. -/
structure Response where
  status : UInt16
  /-- The URL that was requested. -/
  url : String
  /-- The Location header, the empty text when it is not visible ASCII. -/
  location : Option String
  /-- The body, or the error with which reading it fails. -/
  body : Except String (List UInt8)

def Response.isServerError (r : Response) : Bool := 500 ≤ r.status ∧ r.status < 600

def Response.isClientError (r : Response) : Bool := 400 ≤ r.status ∧ r.status < 500

/-- A response, or the error with which the request failed. -/
abbrev Reply := Except String Response

inductive ClientError where
  | network (e : String)
  | server (status : UInt16) (body : String)
  | client (status : UInt16) (body : String)
  deriving DecidableEq, Repr

/-- The first 800 characters of a body, where `text` decodes it. -/
def bodyPreview (text : List UInt8 → String) (r : Response) : String :=
  match r.body with
  | .ok bytes => String.ofList ((text bytes).toList.take 800)
  | .error _ => ""

/-- What `send` returns for a reply. -/
def send (text : List UInt8 → String) : Reply → Except ClientError Response
  | .error e => .error (.network e)
  | .ok r =>
    if r.isServerError then .error (.server r.status (bodyPreview text r))
    else if r.isClientError then .error (.client r.status (bodyPreview text r))
    else .ok r

end Buddy3dProxy.Prusa
