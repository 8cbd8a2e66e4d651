import Buddy3dProxy.Rust.Time
import Buddy3dProxy.Signaling.SocketIo

/-!
# The expiry of a JWT

`read_exp` of `jwt.rs`, which does not verify the token.
-/

namespace Buddy3dProxy.Jwt

open SocketIo (Json)

inductive JwtError where
  | malformed
  | base64
  | json
  | missingExp
  deriving DecidableEq, Repr

def JwtError.text : JwtError → String
  | malformed => "malformed jwt: expected 3 dot-separated parts"
  | base64 => "jwt payload is not valid base64url"
  | json => "jwt payload is not valid json"
  | missingExp => "jwt payload missing `exp` claim"

/-- What the code uses of `base64` and `serde_json`. -/
structure Libs where
  /-- `URL_SAFE_NO_PAD.decode`. -/
  base64Decode : List Char → Option (List UInt8)
  /-- `from_slice::<Value>`. -/
  valueFromSlice : List UInt8 → Option Json
  /-- `Value::as_f64`. -/
  asF64 : Json → Option Rat

/-- The `exp` claim as a time; `none` when the code panics. -/
def readExp (libs : Libs) (jwt : List Char) : Option (Except JwtError Rust.SystemTime) :=
  match Rust.split ['.'] jwt with
  | [_, payload, _] =>
    match libs.base64Decode payload with
    | none => some (.error .base64)
    | some bytes =>
      match libs.valueFromSlice bytes with
      | none => some (.error .json)
      | some json =>
        match (json.get "exp").bind libs.asF64 with
        | none => some (.error .missingExp)
        | some exp =>
          ((Rust.Duration.fromSecsF64 exp).bind (Rust.SystemTime.add 0)).map Except.ok
  | _ => some (.error .malformed)

end Buddy3dProxy.Jwt
