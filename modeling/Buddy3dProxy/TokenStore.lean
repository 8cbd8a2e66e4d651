import Buddy3dProxy.Rust.Time

/-!
# The token file

`token_store.rs`. Saving writes a temporary file and renames it, so a save that fails leaves the token
file as it was.
-/

namespace Buddy3dProxy

structure StoredTokens where
  accessToken : String
  refreshToken : String
  /-- The access token's expiry, in seconds since the UNIX epoch. -/
  accessExpiresAt : UInt64
  deriving DecidableEq, Repr

/-- `access_expires`; `none` when the addition panics. -/
def StoredTokens.accessExpires (tokens : StoredTokens) : Option Rust.SystemTime :=
  Rust.SystemTime.add 0 (.fromSecs tokens.accessExpiresAt.toNat)

inductive TokenStoreError where
  | io (e : String)
  | parse (e : String)
  deriving DecidableEq, Repr

def TokenStoreError.text : TokenStoreError → String
  | io e => "io error: " ++ e
  | parse e => "token-store file is corrupt: " ++ e

/-- What the token file holds. -/
inductive TokenFile where
  | absent
  /-- No token set; the error is that of `serde_json`. -/
  | corrupt (e : String)
  | tokens (tokens : StoredTokens)
  deriving DecidableEq, Repr

/-- `load`. A read can fail with an I/O error of its own. -/
def TokenFile.load (file : TokenFile) (fault : Option String) :
    Except TokenStoreError (Option StoredTokens) :=
  match fault, file with
  | some e, _ => .error (.io e)
  | none, absent => .ok none
  | none, corrupt e => .error (.parse e)
  | none, tokens t => .ok (some t)

/-- The token file after a `save`. -/
def TokenFile.save (file : TokenFile) (t : StoredTokens) (fault : Option TokenStoreError) :
    TokenFile :=
  match fault with
  | some _ => file
  | none => .tokens t

end Buddy3dProxy
