import Buddy3dProxy.Rtsp.Fmtp

/-!
# The parameters in the served SDP

What `extract_h264_params` makes of the text that `build_sdp` writes for parameters it has extracted
before. The camera name stands ahead of the media lines and may have lines of its own.
-/

namespace Buddy3dProxy.Rtsp

/-- The lines of a camera name after its first one. -/
def laterLines (name : String) : List (List Char) :=
  match Rust.splitOnce '\n' name.toList with
  | some (_, rest) => Rust.lines rest
  | none => []

/-! ## What an extracted value can be -/

/-- A value that stands in one field of one line and has been trimmed. -/
structure FieldValue (value : String) : Prop where
  line : '\n' ∉ value.toList
  field : ';' ∉ value.toList
  trimmed : Rust.trim value.toList = value.toList

theorem FieldValue.empty : FieldValue "" := ⟨by decide, by decide, rfl⟩

structure H264Params.Clean (params : H264Params) : Prop where
  profileLevelId : FieldValue params.profileLevelId
  spropParameterSets : FieldValue params.spropParameterSets

structure FmtpFields.Clean (fields : FmtpFields) : Prop where
  profileLevelId : ∀ value, fields.profileLevelId = some value → FieldValue value
  sprop : FieldValue fields.sprop

theorem FieldValue.of_trim {kv k v : List Char} (hline : '\n' ∉ kv) (hfield : ';' ∉ kv)
    (hsplit : Rust.splitOnce '=' kv = some (k, v)) : FieldValue (String.ofList (Rust.trim v)) := by
  obtain ⟨rfl, -⟩ := Rust.eq_of_splitOnce hsplit
  have hmem : ∀ c, c ∈ Rust.trim v → c ∈ k ++ '=' :: v := by
    intro c hc
    have hcv : c ∈ v := (Rust.trim_infix v).subset hc
    simp [hcv]
  refine ⟨?_, ?_, ?_⟩
  · rw [String.toList_ofList]
    exact fun h => hline (hmem _ h)
  · rw [String.toList_ofList]
    exact fun h => hfield (hmem _ h)
  · rw [String.toList_ofList, Rust.trim_trim]

theorem FmtpFields.Clean.set {fields : FmtpFields} (h : fields.Clean) {kv : List Char}
    (hline : '\n' ∉ kv) (hfield : ';' ∉ kv) : (fields.set kv).Clean := by
  unfold FmtpFields.set
  cases hsplit : Rust.splitOnce '=' kv with
  | none => exact h
  | some pair =>
    obtain ⟨k, v⟩ := pair
    have hvalue := FieldValue.of_trim hline hfield hsplit
    simp only
    split
    · exact ⟨by simpa using hvalue, h.sprop⟩
    · exact ⟨h.profileLevelId, hvalue⟩
    · split
      · exact ⟨h.profileLevelId, h.sprop⟩
      · exact h
    · exact h

theorem FmtpFields.Clean.foldl {fields : FmtpFields} (h : fields.Clean) {kvs : List (List Char)}
    (hkvs : ∀ kv ∈ kvs, '\n' ∉ kv ∧ ';' ∉ kv) : (kvs.foldl FmtpFields.set fields).Clean := by
  induction kvs generalizing fields with
  | nil => exact h
  | cons kv kvs ih =>
    obtain ⟨hline, hfield⟩ := hkvs kv (by simp)
    exact ih (h.set hline hfield) fun kv' hkv' => hkvs kv' (by simp [hkv'])

theorem clean_of_fmtpParams {line : List Char} (hline : '\n' ∉ line) {params : H264Params}
    (h : fmtpParams line = some params) : params.Clean := by
  unfold fmtpParams at h
  obtain ⟨kvPart, hprefix, h⟩ := Option.bind_eq_some_iff.mp h
  obtain ⟨⟨pt, kvs⟩, hsplit, h⟩ := Option.bind_eq_some_iff.mp h
  obtain ⟨payloadType, -, h⟩ := Option.bind_eq_some_iff.mp h
  obtain ⟨profileLevelId, hprofile, h⟩ := Option.bind_eq_some_iff.mp h
  cases h
  have hkvs : '\n' ∉ kvs := by
    intro hmem
    obtain ⟨rfl, -⟩ := Rust.eq_of_splitOnce hsplit
    have hbody := List.append_eq_of_isPrefixOf?_eq_some hprefix
    have htrimmed : '\n' ∈ Rust.trimEndMatches '\r' line := by simp [← hbody, hmem]
    exact hline ((List.rdropWhile_prefix _ line).subset htrimmed)
  have hpieces : ∀ kv ∈ Rust.split [';'] kvs, '\n' ∉ kv ∧ ';' ∉ kv := by
    intro kv hkv
    have hnone : ¬ [';'] <:+: kv := Rust.not_infix_of_mem_split (by simp) hkv
    exact ⟨fun h => hkvs (Rust.mem_of_mem_split hkv h), fun h => hnone ((List.singleton_infix_iff _ _).mpr h)⟩
  have hnew : FmtpFields.new.Clean := ⟨by simp [FmtpFields.new], .empty⟩
  have hclean := hnew.foldl hpieces
  exact ⟨hclean.profileLevelId _ hprofile, hclean.sprop⟩

/-! ## The lines of the description -/

/-- The parameters of the first line of a text that has any. -/
def firstParams (text : List Char) : Option H264Params := (Rust.lines text).findSome? fmtpParams

theorem fmtpParams_congr {l l' : List Char} (h : Rust.trimEndMatches '\r' l = Rust.trimEndMatches '\r' l') :
    fmtpParams l = fmtpParams l' := by
  unfold fmtpParams
  rw [h]

theorem fmtpParams_eq_none {line : List Char} (h : ¬ "a=fmtp:".toList <+: line) : fmtpParams line = none := by
  unfold fmtpParams
  cases hprefix : "a=fmtp:".toList.isPrefixOf? (Rust.trimEndMatches '\r' line) with
  | none => rfl
  | some rest =>
    have hbody := List.append_eq_of_isPrefixOf?_eq_some hprefix
    have htrimmed : "a=fmtp:".toList <+: Rust.trimEndMatches '\r' line := ⟨rest, hbody⟩
    exact absurd (htrimmed.trans (List.rdropWhile_prefix _ line)) h

theorem firstParams_cons {line : List Char} (h : '\n' ∉ line) (t : List Char) :
    firstParams (line ++ '\n' :: t) = (fmtpParams line).or (firstParams t) := by
  have hline := fmtpParams_congr (Rust.trimEndMatches_stripLineEnd line)
  unfold firstParams
  rw [Rust.lines_append h, List.findSome?_cons, hline]
  cases fmtpParams line <;> rfl

theorem firstParams_line {line : List Char} (h : '\n' ∉ line) : firstParams line = fmtpParams line := by
  by_cases hne : line = []
  · subst hne
    rfl
  · unfold firstParams
    rw [Rust.lines_of_not_mem h hne, List.findSome?_singleton]

/-- A text that goes on after a line end has the parameters of its first part, else of its second. -/
theorem firstParams_append (s t : List Char) :
    firstParams (s ++ ['\r', '\n'] ++ t) = (firstParams s).or (firstParams t) := by
  induction s using Rust.lines_induction with
  | last s hs =>
    have hcr : '\n' ∉ s ++ ['\r'] := by simp [hs]
    have hline : fmtpParams (s ++ ['\r']) = fmtpParams s := by
      apply fmtpParams_congr
      exact List.rdropWhile_concat_pos _ s '\r' (by simp)
    have htext : s ++ ['\r', '\n'] ++ t = s ++ ['\r'] ++ '\n' :: t := by simp
    rw [htext, firstParams_cons hcr, hline, firstParams_line hs]
  | line s rest hs ih =>
    have htext : s ++ '\n' :: rest ++ ['\r', '\n'] ++ t = s ++ '\n' :: (rest ++ ['\r', '\n'] ++ t) := by simp
    rw [htext, firstParams_cons hs, firstParams_cons hs, ih, Option.or_assoc]

theorem toString_uint8 (n : UInt8) : (toString n).toList = Nat.toDigits 10 n.toNat := by
  simp [toString]

theorem not_mem_toString_uint8 {c : Char} (hc : c.isDigit = false) (n : UInt8) : c ∉ (toString n).toList := by
  rw [toString_uint8]
  exact Rust.not_mem_toDigits hc n.toNat

/-- Nothing but the session name and the `a=fmtp:` line can state parameters. -/
theorem firstParams_render {line : SdpLine} (hname : ∀ name, line ≠ .sessionName name)
    (hfmtp : ∀ pt mode pli sprop, line ≠ .fmtp pt mode pli sprop) (t : List Char) :
    firstParams (line.render.toList ++ t) = firstParams t := by
  have hcrlf : "\r\n".toList = ['\r', '\n'] := rfl
  have hencoding : " H264/90000\r\n".toList = " H264/90000".toList ++ ['\r', '\n'] := rfl
  have hbody : ∃ body, line.render.toList = body ++ ['\r', '\n'] ∧ firstParams body = none := by
    cases line with
    | version => exact ⟨"v=0".toList, rfl, by decide +kernel⟩
    | origin => exact ⟨"o=- 0 0 IN IP4 0.0.0.0".toList, rfl, by decide +kernel⟩
    | sessionName name => exact absurd rfl (hname name)
    | connection => exact ⟨"c=IN IP4 0.0.0.0".toList, rfl, by decide +kernel⟩
    | timing => exact ⟨"t=0 0".toList, rfl, by decide +kernel⟩
    | media pt =>
      refine ⟨"m=video 0 RTP/AVP ".toList ++ (toString pt).toList, ?_, ?_⟩
      · unfold SdpLine.render
        rw [String.toList_append, String.toList_append, hcrlf]
      · rw [firstParams_line (by simpa using not_mem_toString_uint8 (c := '\n') rfl pt)]
        exact fmtpParams_eq_none fun h => by simp at h
    | rtpmap pt =>
      refine ⟨"a=rtpmap:".toList ++ ((toString pt).toList ++ " H264/90000".toList), ?_, ?_⟩
      · unfold SdpLine.render
        rw [String.toList_append, String.toList_append, hencoding]
        simp only [List.append_assoc]
      · rw [firstParams_line (by simpa using not_mem_toString_uint8 (c := '\n') rfl pt)]
        exact fmtpParams_eq_none fun h => by simp at h
    | fmtp pt mode pli sprop => exact absurd rfl (hfmtp pt mode pli sprop)
    | control => exact ⟨"a=control:streamid=0".toList, rfl, by decide +kernel⟩
  obtain ⟨body, hrender, hnone⟩ := hbody
  rw [hrender, firstParams_append, hnone, Option.none_or]

/-! ## Its `a=fmtp:` line -/

/-- One `key=value` of the line. -/
def keyValue (key value : String) : List Char := key.toList ++ '=' :: value.toList

theorem splitOnce_keyValue {key : String} (h : '=' ∉ key.toList) (value : String) :
    Rust.splitOnce '=' (keyValue key value) = some (key.toList, value.toList) :=
  Rust.splitOnce_append h value.toList

theorem trim_toString (n : UInt8) : Rust.trim (toString n).toList = (toString n).toList := by
  rw [toString_uint8, Rust.trim_toDigits]

theorem parseUnsigned_toString (n : UInt8) : Rust.parseUnsigned 256 (toString n).toList = some n.toNat := by
  rw [toString_uint8]
  exact Rust.parseUnsigned_toDigits n.toNat_lt

theorem FmtpFields.set_packetizationMode (fields : FmtpFields) (mode : UInt8) :
    fields.set (keyValue "packetization-mode" (toString mode)) =
      { fields with packetizationMode := mode } := by
  have hkey : String.ofList (Rust.trim "packetization-mode".toList) = "packetization-mode" := rfl
  unfold FmtpFields.set
  rw [splitOnce_keyValue (by decide)]
  simp only [hkey, trim_toString, parseUnsigned_toString, UInt8.ofNat_toNat]

theorem FmtpFields.set_profileLevelId (fields : FmtpFields) {value : String} (h : FieldValue value) :
    fields.set (keyValue "profile-level-id" value) = { fields with profileLevelId := some value } := by
  have hkey : String.ofList (Rust.trim "profile-level-id".toList) = "profile-level-id" := rfl
  unfold FmtpFields.set
  rw [splitOnce_keyValue (by decide)]
  simp only [hkey, h.trimmed, String.ofList_toList]

theorem FmtpFields.set_sprop (fields : FmtpFields) {value : String} (h : FieldValue value) :
    fields.set (keyValue "sprop-parameter-sets" value) = { fields with sprop := value } := by
  have hkey : String.ofList (Rust.trim "sprop-parameter-sets".toList) = "sprop-parameter-sets" := rfl
  unfold FmtpFields.set
  rw [splitOnce_keyValue (by decide)]
  simp only [hkey, h.trimmed, String.ofList_toList]

/-- The `key=value`s of the line. -/
def fmtpPieces (params : H264Params) : List (List Char) :=
  keyValue "packetization-mode" (toString params.packetizationMode) ::
    keyValue "profile-level-id" params.profileLevelId ::
      if params.spropParameterSets.isEmpty then []
      else [keyValue "sprop-parameter-sets" params.spropParameterSets]

/-- The line without its end. -/
def fmtpBody (params : H264Params) : List Char :=
  "a=fmtp:".toList ++ ((toString params.payloadType).toList ++ ' ' :: [';'].intercalate (fmtpPieces params))

theorem intercalate_pair (first second : List Char) :
    [';'].intercalate [first, second] = first ++ ';' :: second := by
  simp

theorem intercalate_three (first second third : List Char) :
    [';'].intercalate [first, second, third] = first ++ ';' :: (second ++ ';' :: third) := by
  simp

theorem toList_render_fmtp (params : H264Params) :
    (SdpLine.fmtp params.payloadType params.packetizationMode params.profileLevelId
      params.spropParameterSets).render.toList = fmtpBody params ++ ['\r', '\n'] := by
  have hcrlf : "\r\n".toList = ['\r', '\n'] := rfl
  have hmode : " packetization-mode=".toList = ' ' :: ("packetization-mode".toList ++ ['=']) := rfl
  have hprofile : ";profile-level-id=".toList = ';' :: ("profile-level-id".toList ++ ['=']) := rfl
  have hsprop : ";sprop-parameter-sets=".toList = ';' :: ("sprop-parameter-sets".toList ++ ['=']) := rfl
  have hrender (pt mode : UInt8) (pli sprop : String) : (SdpLine.fmtp pt mode pli sprop).render =
      "a=fmtp:" ++ toString pt ++ " packetization-mode=" ++ toString mode ++ ";profile-level-id=" ++ pli ++
        (if sprop.isEmpty then "" else ";sprop-parameter-sets=" ++ sprop) ++ "\r\n" := rfl
  rw [hrender]
  unfold fmtpBody fmtpPieces
  generalize toString params.payloadType = pt
  generalize toString params.packetizationMode = mode
  cases hempty : params.spropParameterSets.isEmpty with
  | true =>
    simp only [↓reduceIte, intercalate_pair, keyValue, String.toList_append, hcrlf, hmode, hprofile,
      String.toList_empty, List.append_assoc, List.cons_append, List.nil_append]
  | false =>
    simp only [Bool.false_eq_true, ↓reduceIte, intercalate_three, keyValue, String.toList_append, hcrlf,
      hmode, hprofile, hsprop, List.append_assoc, List.cons_append, List.nil_append]

theorem not_mem_keyValue {c : Char} {key value : String} (hc : c ≠ '=') (hkey : c ∉ key.toList)
    (hvalue : c ∉ value.toList) : c ∉ keyValue key value := by
  simp [keyValue, hc, hkey, hvalue]

theorem not_mem_of_mem_fmtpPieces {c : Char} {params : H264Params} (hc : c = '\n' ∨ c = ';')
    (h : params.Clean) {piece : List Char} (hpiece : piece ∈ fmtpPieces params) : c ∉ piece := by
  have hdigits : c ∉ (toString params.packetizationMode).toList := by
    rcases hc with rfl | rfl <;> exact not_mem_toString_uint8 rfl _
  have hprofile : c ∉ params.profileLevelId.toList := by
    rcases hc with rfl | rfl
    · exact h.profileLevelId.line
    · exact h.profileLevelId.field
  have hsprop : c ∉ params.spropParameterSets.toList := by
    rcases hc with rfl | rfl
    · exact h.spropParameterSets.line
    · exact h.spropParameterSets.field
  have hkeys : ∀ key ∈ ["packetization-mode", "profile-level-id", "sprop-parameter-sets"],
      c ≠ '=' ∧ c ∉ key.toList := by
    rcases hc with rfl | rfl <;> decide
  have hpieces : ∃ key ∈ ["packetization-mode", "profile-level-id", "sprop-parameter-sets"],
      ∃ value, c ∉ value.toList ∧ piece = keyValue key value := by
    simp only [fmtpPieces, List.mem_cons] at hpiece
    rcases hpiece with rfl | rfl | hlast
    · exact ⟨_, by simp, _, hdigits, rfl⟩
    · exact ⟨_, by simp, _, hprofile, rfl⟩
    · split at hlast
      · cases hlast
      · rw [List.mem_singleton] at hlast
        exact ⟨_, by simp, _, hsprop, hlast⟩
  obtain ⟨key, hkey, value, hvalue, rfl⟩ := hpieces
  obtain ⟨heq, hnotin⟩ := hkeys key hkey
  exact not_mem_keyValue heq hnotin hvalue

theorem foldl_fmtpPieces {params : H264Params} (h : params.Clean) :
    (fmtpPieces params).foldl FmtpFields.set .new =
      ⟨some params.profileLevelId, params.spropParameterSets, params.packetizationMode⟩ := by
  unfold fmtpPieces
  rw [List.foldl_cons, List.foldl_cons, FmtpFields.set_packetizationMode,
    FmtpFields.set_profileLevelId _ h.profileLevelId]
  split
  · next hempty =>
    rw [String.isEmpty_iff.mp hempty]
    rfl
  · rw [List.foldl_cons, FmtpFields.set_sprop _ h.spropParameterSets]
    rfl

/-- The line ends in a value, or in the `=` before an empty one. -/
theorem trimEndMatches_fmtpBody {params : H264Params} (h : params.Clean) :
    Rust.trimEndMatches '\r' (fmtpBody params) = fmtpBody params := by
  have hlast : ∃ key value, keyValue key value <:+ [';'].intercalate (fmtpPieces params) ∧
      FieldValue value := by
    unfold fmtpPieces
    split
    · rw [intercalate_pair]
      exact ⟨_, _, (List.suffix_cons ';' _).trans (List.suffix_append _ _), h.profileLevelId⟩
    · rw [intercalate_three, ← List.cons_append, ← List.append_assoc]
      exact ⟨_, _, (List.suffix_cons ';' _).trans (List.suffix_append _ _), h.spropParameterSets⟩
  obtain ⟨key, value, hpiece, hvalue⟩ := hlast
  have hends : '=' :: value.toList <:+ fmtpBody params := by
    have hbody : [';'].intercalate (fmtpPieces params) <:+ fmtpBody params :=
      ((List.suffix_cons ' ' _).trans (List.suffix_append _ _)).trans (List.suffix_append _ _)
    exact ((List.suffix_append key.toList _).trans hpiece).trans hbody
  obtain ⟨s, hs⟩ := hends
  rw [← hs, List.append_cons]
  refine Rust.trimEndMatches_append rfl ?_ hvalue.trimmed
  exact List.rdropWhile_concat_neg _ s '=' (by simp)

theorem fmtpParams_fmtpBody {params : H264Params} (h : params.Clean) :
    fmtpParams (fmtpBody params) = some params := by
  have hprefix : "a=fmtp:".toList.isPrefixOf? (fmtpBody params) =
      some ((toString params.payloadType).toList ++ ' ' :: [';'].intercalate (fmtpPieces params)) :=
    List.isPrefixOf?_eq_some_iff_append_eq.mpr rfl
  have hspace : ' ' ∉ (toString params.payloadType).toList := not_mem_toString_uint8 rfl _
  have hsplit : Rust.split [';'] ([';'].intercalate (fmtpPieces params)) = fmtpPieces params :=
    Rust.split_intercalate (by simp [fmtpPieces]) fun piece => not_mem_of_mem_fmtpPieces (.inr rfl) h
  unfold fmtpParams
  rw [trimEndMatches_fmtpBody h, hprefix]
  simp only [Option.bind_eq_bind, Option.bind_some, Rust.splitOnce_append hspace, trim_toString,
    parseUnsigned_toString, hsplit, foldl_fmtpPieces h, UInt8.ofNat_toNat]
  rfl

theorem newline_not_mem_fmtpBody {params : H264Params} (h : params.Clean) : '\n' ∉ fmtpBody params := by
  have hpieces : '\n' ∉ [';'].intercalate (fmtpPieces params) := by
    rw [Rust.not_mem_intercalate (by decide)]
    exact fun piece => not_mem_of_mem_fmtpPieces (.inl rfl) h
  unfold fmtpBody
  rw [List.mem_append, List.mem_append, List.mem_cons]
  rintro (hkey | hdigits | hspace | hpiece)
  · exact absurd hkey (by decide)
  · exact not_mem_toString_uint8 rfl params.payloadType hdigits
  · exact absurd hspace (by decide)
  · exact hpieces hpiece

/-! ## Parsing the description -/

/-- The line of the session name states what the name states in its later lines. -/
theorem firstParams_sessionName (name : String) :
    firstParams ("s=".toList ++ name.toList) = (laterLines name).findSome? fmtpParams := by
  have hfirst : ∀ s, fmtpParams ("s=".toList ++ s) = none := fun s => fmtpParams_eq_none fun h => by simp at h
  unfold laterLines
  by_cases hname : '\n' ∈ name.toList
  · obtain ⟨first, rest, hsplit, hnone⟩ := List.eq_append_cons_of_mem hname
    have hline : '\n' ∉ "s=".toList ++ first := by simpa using hnone
    rw [hsplit, Rust.splitOnce_append hnone, ← List.append_assoc, firstParams_cons hline, hfirst,
      Option.none_or]
    rfl
  · rw [Rust.splitOnce_eq_none hname, firstParams_line (by simpa using hname), hfirst]
    rfl

theorem firstParams_render_sessionName (name : String) (t : List Char) :
    firstParams ((SdpLine.sessionName name).render.toList ++ t) =
      ((laterLines name).findSome? fmtpParams).or (firstParams t) := by
  have hrender : (SdpLine.sessionName name).render.toList = "s=".toList ++ name.toList ++ ['\r', '\n'] := by
    have hcrlf : "\r\n".toList = ['\r', '\n'] := rfl
    unfold SdpLine.render
    rw [String.toList_append, String.toList_append, hcrlf]
  rw [hrender, firstParams_append, firstParams_sessionName]

theorem firstParams_render_fmtp {params : H264Params} (h : params.Clean) (t : List Char) :
    firstParams ((SdpLine.fmtp params.payloadType params.packetizationMode params.profileLevelId
      params.spropParameterSets).render.toList ++ t) = some params := by
  rw [toList_render_fmtp, firstParams_append, firstParams_line (newline_not_mem_fmtpBody h),
    fmtpParams_fmtpBody h, Option.some_or]

/-- Parsing what `build_sdp` wrote gives the parameters back, unless a later line of the name states
some itself. -/
theorem extractH264Params_buildSdp (name : String) {params : H264Params} (h : params.Clean) :
    extractH264Params (buildSdp name params) =
      ((laterLines name).findSome? fmtpParams).or (some params) := by
  have htext : (buildSdp name params).toList =
      (sdpLines name params).flatMap fun line => line.render.toList := by
    rw [buildSdp, String.toList_join, List.flatMap_map]
  show firstParams (buildSdp name params).toList = _
  rw [htext, sdpLines]
  simp only [List.flatMap_cons]
  rw [firstParams_render (by simp) (by simp), firstParams_render (by simp) (by simp),
    firstParams_render_sessionName, firstParams_render (by simp) (by simp),
    firstParams_render (by simp) (by simp), firstParams_render (by simp) (by simp),
    firstParams_render (by simp) (by simp), firstParams_render_fmtp h]

/-- What is extracted can be written without breaking a line or a field. -/
theorem clean_of_extractH264Params {remoteSdp : String} {params : H264Params}
    (h : extractH264Params remoteSdp = some params) : params.Clean := by
  obtain ⟨pre, line, post, hlines, hparams, -⟩ := extractH264Params_eq_some_iff.mp h
  have hline : line ∈ Rust.lines remoteSdp.toList := by simp [hlines]
  exact clean_of_fmtpParams (Rust.not_mem_of_mem_lines hline) (fmtpParams_eq_some_iff.mpr hparams)

/-- The parameters survive being served if and only if the first of the later lines of the name that
states any states the same. -/
theorem extract_buildSdp_iff {remoteSdp : String} {params : H264Params}
    (h : extractH264Params remoteSdp = some params) (name : String) :
    extractH264Params (buildSdp name params) = some params ↔
      ∀ pre line post other, laterLines name = pre ++ line :: post → (∀ l ∈ pre, fmtpParams l = none) →
        fmtpParams line = some other → other = params := by
  rw [extractH264Params_buildSdp name (clean_of_extractH264Params h)]
  constructor
  · intro hfirst pre line post other hlines hnone hother
    have hfound : (laterLines name).findSome? fmtpParams = some other :=
      List.findSome?_eq_some_iff.mpr ⟨pre, line, post, hlines, hother, hnone⟩
    rw [hfound] at hfirst
    exact Option.some.inj hfirst
  · intro hsame
    cases hfound : (laterLines name).findSome? fmtpParams with
    | none => rfl
    | some other =>
      obtain ⟨pre, line, post, hlines, hother, hnone⟩ := List.findSome?_eq_some_iff.mp hfound
      rw [hsame pre line post other hlines hnone hother, Option.some_or]

theorem extract_offer :
    extractH264Params "a=fmtp:96 profile-level-id=42e01f\r\n" = some ⟨"42e01f", "", 1, 96⟩ := by
  have hlines : Rust.lines "a=fmtp:96 profile-level-id=42e01f\r\n".toList =
      ["a=fmtp:96 profile-level-id=42e01f".toList] := by
    decide +kernel
  have hparams : fmtpParams "a=fmtp:96 profile-level-id=42e01f".toList =
      some ⟨"42e01f", "", 1, 96⟩ := by
    decide +kernel
  rw [extractH264Params, hlines, List.findSome?_singleton, hparams]

theorem extract_buildSdp_iff_camera :
    extractH264Params "a=fmtp:96 profile-level-id=42e01f\r\n" = some ⟨"42e01f", "", 1, 96⟩ ∧
      extractH264Params (buildSdp "Core One" ⟨"42e01f", "", 1, 96⟩) = some ⟨"42e01f", "", 1, 96⟩ := by
  have hname : laterLines "Core One" = [] := by decide +kernel
  refine ⟨extract_offer, (extract_buildSdp_iff extract_offer "Core One").mpr ?_⟩
  intro pre line post other hlines
  rw [hname] at hlines
  simp at hlines

/-- A name with an `a=fmtp:` line of its own has that line's parameters announced. -/
theorem not_extract_buildSdp :
    extractH264Params "a=fmtp:96 profile-level-id=42e01f\r\n" = some ⟨"42e01f", "", 1, 96⟩ ∧
      extractH264Params (buildSdp "Core\na=fmtp:97 profile-level-id=1" ⟨"42e01f", "", 1, 96⟩) =
        some ⟨"1", "", 1, 97⟩ := by
  have hname : laterLines "Core\na=fmtp:97 profile-level-id=1" =
      ["a=fmtp:97 profile-level-id=1".toList] := by
    decide +kernel
  have hparams : fmtpParams "a=fmtp:97 profile-level-id=1".toList = some ⟨"1", "", 1, 97⟩ := by
    decide +kernel
  have hclean := clean_of_extractH264Params extract_offer
  refine ⟨extract_offer, ?_⟩
  rw [extractH264Params_buildSdp _ hclean, hname, List.findSome?_singleton, hparams, Option.some_or]

end Buddy3dProxy.Rtsp
