import Buddy3dProxy.Rtsp.Sdp
import Buddy3dProxy.Rust.Lines

/-!
# The H.264 parameters of an offer

`extract_h264_params` of `rtsp/sdp.rs`, and which of an offer's `a=fmtp:` lines it takes.
-/

namespace Buddy3dProxy.Rtsp

/-- What the parameters of an `a=fmtp:` line have set so far. -/
structure FmtpFields where
  profileLevelId : Option String
  sprop : String
  packetizationMode : UInt8
  deriving DecidableEq, Repr

def FmtpFields.new : FmtpFields := ⟨none, "", 1⟩

/-- One `key=value` of the line. Of several values for a key the last one stays. -/
def FmtpFields.set (fields : FmtpFields) (kv : List Char) : FmtpFields :=
  match Rust.splitOnce '=' kv with
  | none => fields
  | some (k, v) =>
    match String.ofList (Rust.trim k) with
    | "profile-level-id" => { fields with profileLevelId := some (String.ofList (Rust.trim v)) }
    | "sprop-parameter-sets" => { fields with sprop := String.ofList (Rust.trim v) }
    | "packetization-mode" =>
      match Rust.parseUnsigned 256 (Rust.trim v) with
      | some n => { fields with packetizationMode := UInt8.ofNat n }
      | none => fields
    | _ => fields

/-- The parameters in a line, if it is an `a=fmtp:` line with a profile-level-id. -/
def fmtpParams (line : List Char) : Option H264Params := do
  let kvPart ← "a=fmtp:".toList.isPrefixOf? (Rust.trimEndMatches '\r' line)
  let (pt, kvPart) ← Rust.splitOnce ' ' kvPart
  let payloadType ← Rust.parseUnsigned 256 (Rust.trim pt)
  let fields := (Rust.split [';'] kvPart).foldl FmtpFields.set .new
  let profileLevelId ← fields.profileLevelId
  return ⟨profileLevelId, fields.sprop, fields.packetizationMode, UInt8.ofNat payloadType⟩

def extractH264Params (remoteSdp : String) : Option H264Params :=
  (Rust.lines remoteSdp.toList).findSome? fmtpParams

/-! ## What a line says -/

/-- The value of a parameter with this key: what stands behind its first `=`, without the blanks around
it. -/
def valueOf (key : String) (parameter : List Char) : Option String :=
  match Rust.splitOnce '=' parameter with
  | none => none
  | some (k, v) => if String.ofList (Rust.trim k) = key then some (String.ofList (Rust.trim v)) else none

/-- The values that a parameter list gives a key, in order. -/
def valuesOf (key : String) (parameters : List Char) : List String :=
  (Rust.split [';'] parameters).filterMap (valueOf key)

def readNumber (text : String) : Option UInt8 := (Rust.parseUnsigned 256 text.toList).map UInt8.ofNat

/-- A parameter list gives these values. The last value of a key counts; without one there are no
parameter sets, and without a number the mode is 1. -/
structure Gives (parameters : List Char) (params : H264Params) : Prop where
  profileLevelId : (valuesOf "profile-level-id" parameters).getLast? = some params.profileLevelId
  spropParameterSets :
    (valuesOf "sprop-parameter-sets" parameters).getLast?.getD "" = params.spropParameterSets
  packetizationMode :
    ((valuesOf "packetization-mode" parameters).filterMap readNumber).getLast?.getD 1 =
      params.packetizationMode

/-- The line is an `a=fmtp:` line, for this payload type and with these values. -/
def IsFmtp (line : List Char) (params : H264Params) : Prop :=
  ∃ pt parameters, Rust.trimEndMatches '\r' line = "a=fmtp:".toList ++ (pt ++ ' ' :: parameters) ∧
    ' ' ∉ pt ∧ Rust.parseUnsigned 256 (Rust.trim pt) = some params.payloadType.toNat ∧
    Gives parameters params

/-- A fold whose steps overwrite what `g` reads leaves the last value there. -/
theorem foldl_overwrite {σ α β : Type} {step : σ → α → σ} {g : σ → β} {v : α → Option β}
    (h : ∀ s x, g (step s x) = (v x).getD (g s)) (s : σ) (xs : List α) :
    g (xs.foldl step s) = (xs.filterMap v).getLast?.getD (g s) := by
  induction xs generalizing s with
  | nil => rfl
  | cons x xs ih =>
    rw [List.foldl_cons, ih, h, List.filterMap_cons]
    cases v x with
    | none => rfl
    | some y => simp [List.getLast?_cons]

/-! ## What the parser takes from a line -/

namespace FmtpFields

variable (fields : FmtpFields) (kv : List Char)

theorem profileLevelId_set : (fields.set kv).profileLevelId =
    ((valueOf "profile-level-id" kv).map some).getD fields.profileLevelId := by
  unfold FmtpFields.set valueOf
  cases Rust.splitOnce '=' kv with
  | none => rfl
  | some pair =>
    simp only
    split
    · rename_i hkey
      rw [if_pos hkey]
      rfl
    · rename_i hkey
      simp [hkey]
    · rename_i hkey
      split <;> simp [hkey]
    · rename_i hprofile _ _
      rw [if_neg hprofile]
      rfl

theorem sprop_set : (fields.set kv).sprop =
    (valueOf "sprop-parameter-sets" kv).getD fields.sprop := by
  unfold FmtpFields.set valueOf
  cases Rust.splitOnce '=' kv with
  | none => rfl
  | some pair =>
    simp only
    split
    · rename_i hkey
      simp [hkey]
    · rename_i hkey
      rw [if_pos hkey]
      rfl
    · rename_i hkey
      split <;> simp [hkey]
    · rename_i _ hsprop _
      rw [if_neg hsprop]
      rfl

theorem packetizationMode_set : (fields.set kv).packetizationMode =
    ((valueOf "packetization-mode" kv).bind readNumber).getD fields.packetizationMode := by
  unfold FmtpFields.set valueOf
  cases Rust.splitOnce '=' kv with
  | none => rfl
  | some pair =>
    simp only
    split
    · rename_i hkey
      simp [hkey]
    · rename_i hkey
      simp [hkey]
    · rename_i hkey
      rw [if_pos hkey, Option.bind_some, readNumber, String.toList_ofList]
      split <;> rename_i hnumber <;> rw [hnumber] <;> rfl
    · rename_i _ _ hmode
      rw [if_neg hmode]
      rfl

end FmtpFields

/-- The fields at the end of a parameter list are the last values of their keys. -/
theorem gives_iff {parameters : List Char} {params : H264Params} :
    Gives parameters params ↔
      (Rust.split [';'] parameters).foldl FmtpFields.set .new =
        ⟨some params.profileLevelId, params.spropParameterSets, params.packetizationMode⟩ := by
  have hprofile : ((Rust.split [';'] parameters).foldl FmtpFields.set .new).profileLevelId =
      (valuesOf "profile-level-id" parameters).getLast? := by
    rw [foldl_overwrite FmtpFields.profileLevelId_set, ← List.map_filterMap, List.getLast?_map, valuesOf]
    cases List.getLast? _ <;> rfl
  have hsprop : ((Rust.split [';'] parameters).foldl FmtpFields.set .new).sprop =
      (valuesOf "sprop-parameter-sets" parameters).getLast?.getD "" :=
    foldl_overwrite FmtpFields.sprop_set _ _
  have hmode : ((Rust.split [';'] parameters).foldl FmtpFields.set .new).packetizationMode =
      ((valuesOf "packetization-mode" parameters).filterMap readNumber).getLast?.getD 1 := by
    rw [foldl_overwrite FmtpFields.packetizationMode_set, valuesOf, List.filterMap_filterMap]
    rfl
  constructor
  · intro h
    rw [h.profileLevelId] at hprofile
    rw [h.spropParameterSets] at hsprop
    rw [h.packetizationMode] at hmode
    rw [← hprofile, ← hsprop, ← hmode]
  · intro h
    rw [h] at hprofile hsprop hmode
    exact ⟨hprofile.symm, hsprop.symm, hmode.symm⟩

theorem fmtpParams_eq_some_iff {line : List Char} {params : H264Params} :
    fmtpParams line = some params ↔ IsFmtp line params := by
  constructor
  · intro h
    unfold fmtpParams at h
    obtain ⟨kvPart, hbegins, h⟩ := Option.bind_eq_some_iff.mp h
    obtain ⟨⟨pt, parameters⟩, hsplit, h⟩ := Option.bind_eq_some_iff.mp h
    obtain ⟨payloadType, hpt, h⟩ := Option.bind_eq_some_iff.mp h
    obtain ⟨profileLevelId, hprofile, h⟩ := Option.bind_eq_some_iff.mp h
    cases h
    obtain ⟨rfl, hspace⟩ := Rust.eq_of_splitOnce hsplit
    have hlt : payloadType < 256 := Rust.parseUnsigned_lt hpt
    refine ⟨pt, parameters, (List.append_eq_of_isPrefixOf?_eq_some hbegins).symm, hspace, ?_,
      gives_iff.mpr ?_⟩
    · rw [hpt, UInt8.toNat_ofNat_of_lt' hlt]
    · rw [← hprofile]
  · rintro ⟨pt, parameters, hline, hspace, hpt, hgives⟩
    have hbegins : "a=fmtp:".toList.isPrefixOf? (Rust.trimEndMatches '\r' line) =
        some (pt ++ ' ' :: parameters) := List.isPrefixOf?_eq_some_iff_append_eq.mpr hline.symm
    unfold fmtpParams
    rw [hbegins]
    simp only [Option.bind_eq_bind, Option.bind_some, Rust.splitOnce_append hspace, hpt,
      gives_iff.mp hgives, UInt8.ofNat_toNat]
    rfl

/-! ## Media sections -/

/-- A line that begins a media section. -/
def isMedia (line : List Char) : Bool := "m=".toList.isPrefixOf line

/-- The lines of the media section in which `line` stands between `pre` and `post`. -/
def mediaSection (pre : List (List Char)) (line : List Char) (post : List (List Char)) :
    List (List Char) :=
  if pre.any isMedia then pre.rtakeWhile (!isMedia ·) ++ line :: post.takeWhile (!isMedia ·) else []

/-- The line gives the payload type the encoding H264. -/
def mapsToH264 (pt : UInt8) (line : List Char) : Bool :=
  match "a=rtpmap:".toList.isPrefixOf? line with
  | none => false
  | some rest =>
    match Rust.splitOnce ' ' rest with
    | none => false
    | some (text, encoding) =>
      Rust.parseUnsigned 256 (Rust.trim text) = some pt.toNat &&
        Rust.toAsciiLowercase (encoding.takeWhile (· ≠ '/')) = "h264".toList

/-- An `a=fmtp:` line of H.264: its media section maps the payload type it is for to H264. -/
def IsH264 (pre : List (List Char)) (line : List Char) (post : List (List Char)) : Prop :=
  ∃ params, IsFmtp line params ∧ (mediaSection pre line post).any (mapsToH264 params.payloadType) = true

/-- The parameters are those of an `a=fmtp:` line of H.264, and of the first line that has a
profile-level-id at all. -/
def TakenFromH264 (sdp : String) (params : H264Params) : Prop :=
  ∃ pre line post, Rust.lines sdp.toList = pre ++ line :: post ∧
    (∀ l ∈ pre, ∀ other, ¬ IsFmtp l other) ∧ IsFmtp line params ∧
      (mediaSection pre line post).any (mapsToH264 params.payloadType) = true

theorem extractH264Params_eq_some_iff {sdp : String} {params : H264Params} :
    extractH264Params sdp = some params ↔
      ∃ pre line post, Rust.lines sdp.toList = pre ++ line :: post ∧ IsFmtp line params ∧
        ∀ l ∈ pre, ∀ other, ¬ IsFmtp l other := by
  simp only [← fmtpParams_eq_some_iff, ← ne_eq, ← Option.eq_none_iff_forall_ne_some]
  exact List.findSome?_eq_some_iff

/-- What is extracted was taken from a line of H.264 if and only if every line with a profile-level-id
of another codec comes after such a line of H.264. -/
theorem extract_takenFromH264_iff (sdp : String) :
    (∀ params, extractH264Params sdp = some params → TakenFromH264 sdp params) ↔
      ∀ pre line post other, Rust.lines sdp.toList = pre ++ line :: post → IsFmtp line other →
        ¬ IsH264 pre line post →
          ∃ front h264 mid, pre = front ++ h264 :: mid ∧ IsH264 front h264 (mid ++ line :: post) := by
  constructor
  · intro htaken pre line post other hlines hstates hother
    -- the first line with parameters is this one or one before it
    obtain ⟨params, hparams⟩ : ∃ params, extractH264Params sdp = some params := by
      rw [← Option.isSome_iff_exists, extractH264Params, List.findSome?_isSome_iff]
      exact ⟨line, by simp [hlines], by simp [fmtpParams_eq_some_iff.mpr hstates]⟩
    obtain ⟨front, h264, rest, hfront, hnone, hfirst, hmaps⟩ := htaken params hparams
    have hh264 : IsH264 front h264 rest := ⟨params, hfirst, hmaps⟩
    rw [hlines] at hfront
    rcases List.append_eq_append_iff.mp hfront with ⟨mid, hpre, hmid⟩ | ⟨mid, hpre, hmid⟩
    · cases mid with
      | nil =>
        obtain ⟨rfl, rfl⟩ := List.cons.inj hmid
        rw [List.append_nil] at hpre
        exact absurd (hpre ▸ hh264) hother
      | cons x mid =>
        obtain ⟨rfl, -⟩ := List.cons.inj hmid
        exact absurd hstates (hnone line (by simp [hpre]) other)
    · cases mid with
      | nil =>
        obtain ⟨rfl, rfl⟩ := List.cons.inj hmid
        rw [List.append_nil] at hpre
        exact absurd (hpre ▸ hh264) hother
      | cons x mid =>
        obtain ⟨rfl, rfl⟩ := List.cons.inj hmid
        exact ⟨front, h264, mid, hpre, hh264⟩
  · intro hbefore params hparams
    obtain ⟨pre, line, post, hlines, hfirst, hnone⟩ := extractH264Params_eq_some_iff.mp hparams
    have hh264 : IsH264 pre line post := by
      by_contra hother
      obtain ⟨front, h264, mid, hpre, params', hstates, -⟩ :=
        hbefore pre line post params hlines hfirst hother
      exact hnone h264 (by simp [hpre]) params' hstates
    obtain ⟨params', hsame, hmaps⟩ := hh264
    have heq : params' = params :=
      Option.some.inj ((fmtpParams_eq_some_iff.mpr hsame).symm.trans (fmtpParams_eq_some_iff.mpr hfirst))
    exact ⟨pre, line, post, hlines, hnone, hfirst, heq ▸ hmaps⟩

/-- An offer with AAC audio in its first media section. -/
def aacOffer : String :=
  "v=0\r\nm=audio 9 UDP/TLS/RTP/SAVPF 97\r\na=rtpmap:97 MP4A-LATM/90000\r\n" ++
    "a=fmtp:97 profile-level-id=24;object=23\r\nm=video 9 UDP/TLS/RTP/SAVPF 96\r\n" ++
    "a=rtpmap:96 H264/90000\r\na=fmtp:96 packetization-mode=1;profile-level-id=42e01f\r\n"

/-- The parameters of the audio are taken, and nothing maps their payload type to H264. -/
theorem not_extract_takenFromH264 :
    extractH264Params aacOffer = some ⟨"24", "", 1, 97⟩ ∧
      (∀ line ∈ Rust.lines aacOffer.toList, mapsToH264 97 line = false) ∧
      ∃ line ∈ Rust.lines aacOffer.toList, mapsToH264 96 line = true := by
  decide +kernel

end Buddy3dProxy.Rtsp
