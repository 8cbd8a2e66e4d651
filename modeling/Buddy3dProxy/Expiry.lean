import Buddy3dProxy.Jwt
import Buddy3dProxy.TokenStore

/-!
# Expiry times that panic

The expiry of an access token comes as a number in a JWT and is kept as a `u64` in the token file. On
the way to a `SystemTime` both can be too large, and the former negative.
-/

namespace Buddy3dProxy

/-- The `exp` claim of a JWT. -/
def Jwt.exp? (libs : Jwt.Libs) (jwt : List Char) : Option Rat :=
  match Rust.split ['.'] jwt with
  | [_, payload, _] =>
    (libs.base64Decode payload).bind fun bytes =>
      (libs.valueFromSlice bytes).bind fun json => (json.get "exp").bind libs.asF64
  | _ => none

theorem Jwt.readExp_isSome (libs : Jwt.Libs) (jwt : List Char) :
    (Jwt.readExp libs jwt).isSome ↔ ∀ exp, Jwt.exp? libs jwt = some exp →
      ((Rust.Duration.fromSecsF64 exp).bind (Rust.SystemTime.add 0)).isSome := by
  unfold Jwt.readExp Jwt.exp?
  generalize Rust.split ['.'] jwt = parts
  match parts with
  | [] | [_] | [_, _] | _ :: _ :: _ :: _ :: _ => simp
  | [_, payload, _] =>
    cases hbytes : libs.base64Decode payload with
    | none => simp [hbytes]
    | some bytes =>
      cases hjson : libs.valueFromSlice bytes with
      | none => simp [hbytes, hjson]
      | some json =>
        cases hexp : (json.get "exp").bind libs.asF64 with
        | none => simp [hbytes, hjson, hexp]
        | some exp =>
          simp only [hbytes, hjson, hexp, Option.bind_some, Option.isSome_map, Option.some.injEq,
            forall_eq']

/-- The expiry of a token is read and that of a token file computed without a panic if and only if the
`exp` claim, if there is one, is not negative and in nanoseconds less than 2^63 seconds by more than a
half, and the seconds in the file are less than 2^63. -/
theorem expiry_returns_iff (libs : Jwt.Libs) (jwt : List Char) (tokens : StoredTokens) :
    ((∃ result, Jwt.readExp libs jwt = some result) ∧ ∃ expires, tokens.accessExpires = some expires) ↔
      (∀ exp, Jwt.exp? libs jwt = some exp →
        0 ≤ exp ∧ exp * 1000000000 < 9223372036854775808 * 1000000000 - 1 / 2) ∧
      tokens.accessExpiresAt.toNat < 9223372036854775808 := by
  have hread := Jwt.readExp_isSome libs jwt
  simp only [Rust.fromSecsF64_add_isSome] at hread
  rw [← hread, ← Rust.fromSecs_add_isSome, Option.isSome_iff_exists, StoredTokens.accessExpires,
    Option.isSome_iff_exists]

/-- What the libraries make of a token whose payload is `{"exp":-1}`. -/
def Jwt.Sample.libs : Jwt.Libs where
  base64Decode text :=
    if text = "eyJleHAiOi0xfQ".toList then some ("\x7b\"exp\":-1\x7d".toUTF8.toList) else none
  valueFromSlice bytes :=
    if bytes = "\x7b\"exp\":-1\x7d".toUTF8.toList then some (.obj [("exp", .otherNumber "-1")]) else none
  asF64
    | .otherNumber "-1" => some (-1)
    | _ => none

/-- A negative `exp` claim panics, and so does an expiry in the token file of 2^64 - 1 seconds. -/
theorem not_expiry_returns :
    Jwt.readExp Jwt.Sample.libs "e30.eyJleHAiOi0xfQ.s".toList = none ∧
      StoredTokens.accessExpires ⟨"a", "r", 18446744073709551615⟩ = none := by
  have hexp : Jwt.exp? Jwt.Sample.libs "e30.eyJleHAiOi0xfQ.s".toList = some (-1) := by decide +kernel
  constructor
  · rw [← Option.not_isSome_iff_eq_none, Jwt.readExp_isSome]
    intro h
    have hpos := (Rust.fromSecsF64_add_isSome (-1)).mp (h (-1) hexp)
    exact absurd hpos.1 (by decide)
  · decide +kernel

end Buddy3dProxy
