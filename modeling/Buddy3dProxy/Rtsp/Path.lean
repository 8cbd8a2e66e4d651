import Buddy3dProxy.Rtsp.Session
import Buddy3dProxy.Rust.Lines

/-!
# The path of the stream

How `main` chooses the path at start-up, the URL it announces, and which of these URLs `uri_matches`
accepts.
-/

namespace Buddy3dProxy.Rtsp

/-- `opt` of `Config::from_env`: a variable that is set to the empty text counts as unset. -/
def opt (var : Option String) : Option String := var.filter (!·.isEmpty)

/-- What `slugify` has written so far, and whether a dash may not follow. -/
def slugStep : List Char × Bool → Char → List Char × Bool
  | (out, lastDash), c =>
    if c.isAlphanum then (out ++ [c.toLower], false)
    else if !lastDash then (out ++ ['-'], true)
    else (out, lastDash)

/-- Lowercase, replace what is neither a letter nor a digit by `-`, collapse runs. -/
def slugify (name : String) : String :=
  String.ofList (Rust.trimMatches '-' (name.toList.foldl slugStep ([], true)).1)

/-- The configured path, else the slug of the camera name. -/
def rtspPath (rtspPathVar : Option String) (cameraName : String) : String :=
  (opt rtspPathVar).getD (slugify cameraName)

/-- The URL that is announced once the server runs. -/
def announcedUrl (host port path : String) : String :=
  "rtsp://" ++ host ++ ":" ++ port ++ "/" ++ path

/-- The announced URL is accepted, and so is that of any of its streams. -/
def Reachable (path : String) : Prop :=
  ∀ host port : String, '/' ∉ host.toList → '/' ∉ port.toList →
    uriMatches (announcedUrl host port path) path = true ∧
      ∀ n : String, uriMatches (announcedUrl host port path ++ "/streamid=" ++ n) path = true

/-! ## Slugs -/

theorem mem_foldl_slugStep {d : Char} (hd : d ≠ '-') (cs out : List Char) (lastDash : Bool) :
    d ∈ (cs.foldl slugStep (out, lastDash)).1 ↔
      d ∈ out ∨ ∃ c ∈ cs, c.isAlphanum = true ∧ c.toLower = d := by
  induction cs generalizing out lastDash with
  | nil => simp
  | cons c cs ih =>
    rw [List.foldl_cons]
    by_cases hc : c.isAlphanum = true
    · have hstep : slugStep (out, lastDash) c = (out ++ [c.toLower], false) := if_pos hc
      rw [hstep, ih, List.mem_append, List.mem_singleton, or_assoc]
      simp [hc, @eq_comm _ d]
    · cases lastDash <;> simp [slugStep, hc, ih, hd]

/-- But for the dashes, the characters of a slug are the letters and digits of the name. -/
theorem mem_slugify {d : Char} (hd : d ≠ '-') (name : String) :
    d ∈ (slugify name).toList ↔ ∃ c ∈ name.toList, c.isAlphanum = true ∧ c.toLower = d := by
  rw [slugify, String.toList_ofList, Rust.mem_trimMatches hd, mem_foldl_slugStep hd]
  simp

/-- A slug is one field of one segment of a path. -/
theorem not_mem_slugify {d : Char} (hd : d ≠ '-') (hsmall : d.toNat < 97) (hother : d.isAlphanum = false)
    (name : String) : d ∉ (slugify name).toList := by
  rw [mem_slugify hd]
  rintro ⟨c, -, halnum, hlower⟩
  rw [Rust.eq_of_toLower hlower hsmall, hother] at halnum
  cases halnum

theorem slugify_eq_empty_iff (name : String) :
    slugify name = "" ↔ ∀ c ∈ name.toList, c.isAlphanum = false := by
  constructor
  · intro hempty c hc
    by_contra halnum
    rw [Bool.not_eq_false] at halnum
    have hdash : c.toLower ≠ '-' := by
      intro hlower
      rw [Rust.eq_of_toLower hlower (by decide)] at halnum
      cases halnum
    have hmem := (mem_slugify hdash name).mpr ⟨c, hc, halnum, rfl⟩
    simp [hempty] at hmem
  · intro hnone
    have hdashes : ∀ d ∈ (name.toList.foldl slugStep ([], true)).1, d = '-' := by
      intro d hd
      by_contra hdash
      rcases (mem_foldl_slugStep hdash name.toList [] true).mp hd with hnil | ⟨c, hc, halnum, -⟩
      · cases hnil
      · rw [hnone c hc] at halnum
        cases halnum
    rw [slugify, Rust.trimMatches_eq_nil hdashes]

/-! ## Announced URLs -/

/-- Of what follows the authority, only the text up to the next slash or semicolon counts. -/
theorem uriMatches_announcedUrl {host port : String} (hhost : '/' ∉ host.toList)
    (hport : '/' ∉ port.toList) (rest path : String) : uriMatches (announcedUrl host port rest) path = true ↔
      String.ofList (((rest.toList.dropWhile (· = '/')).takeWhile (· ≠ '/')).takeWhile (· ≠ ';')) = path := by
  have hscheme : "rtsp://".toList = "rtsp:".toList ++ '/' :: ['/'] := rfl
  have hcolon : ":".toList = [':'] := rfl
  have hslash : "/".toList = ['/'] := rfl
  have hauthority : '/' ∉ host.toList ++ ':' :: port.toList := by simp [hhost, hport]
  have htext : (announcedUrl host port rest).toList =
      "rtsp:".toList ++ '/' :: ([] ++ '/' :: (host.toList ++ ':' :: port.toList ++ '/' :: rest.toList)) := by
    unfold announcedUrl
    simp only [String.toList_append, hscheme, hcolon, hslash, List.append_assoc, List.cons_append,
      List.nil_append]
  have hpath : (Rust.splitN 4 '/' (announcedUrl host port rest).toList)[3]? = some rest.toList := by
    rw [htext, Rust.splitN_cons (by decide), Rust.splitN_cons (by simp), Rust.splitN_cons hauthority]
    rfl
  unfold uriMatches
  simp only [hpath, Rust.head?_split_singleton, Option.getD_some, decide_eq_true_eq]

/-- The path is the whole path of its own URL if and only if it is one field of one segment. -/
theorem uriMatches_announcedUrl_self {host port : String} (hhost : '/' ∉ host.toList)
    (hport : '/' ∉ port.toList) (path : String) :
    uriMatches (announcedUrl host port path) path = true ↔ '/' ∉ path.toList ∧ ';' ∉ path.toList := by
  rw [uriMatches_announcedUrl hhost hport]
  constructor
  · intro hself
    have hchars := congrArg String.toList hself
    rw [String.toList_ofList] at hchars
    refine ⟨fun hslash => ?_, fun hsemicolon => ?_⟩
    · rw [← hchars] at hslash
      exact Rust.not_mem_takeWhile_ne _ ((List.takeWhile_prefix _).subset hslash)
    · rw [← hchars] at hsemicolon
      exact Rust.not_mem_takeWhile_ne _ hsemicolon
  · rintro ⟨hslash, hsemicolon⟩
    have hdrop : path.toList.dropWhile (· = '/') = path.toList := by
      rw [List.dropWhile_eq_self_iff]
      intro hlen
      simpa using fun heq : path.toList[0] = '/' => hslash (heq ▸ List.getElem_mem hlen)
    rw [hdrop, Rust.takeWhile_ne_eq_self hslash, Rust.takeWhile_ne_eq_self hsemicolon, String.ofList_toList]

theorem announcedUrl_append (host port path stream : String) :
    announcedUrl host port path ++ stream = announcedUrl host port (path ++ stream) := by
  simp only [announcedUrl, String.append_assoc]

/-- What follows the path as a further segment does not count, unless the path is empty. -/
theorem uriMatches_stream {host port : String} (hhost : '/' ∉ host.toList) (hport : '/' ∉ port.toList)
    {path : String} (hslash : '/' ∉ path.toList) (hsemicolon : ';' ∉ path.toList) (n : String) :
    uriMatches (announcedUrl host port path ++ "/streamid=" ++ n) path = true ↔ path ≠ "" := by
  have hstream : "/streamid=".toList = '/' :: "streamid=".toList := rfl
  have htext : (path ++ ("/streamid=" ++ n)).toList =
      path.toList ++ '/' :: ("streamid=".toList ++ n.toList) := by
    rw [String.toList_append, String.toList_append, hstream, List.cons_append]
  rw [String.append_assoc, announcedUrl_append, uriMatches_announcedUrl hhost hport, htext]
  cases hpath : path.toList with
  | nil =>
    have hempty : path = "" := String.toList_eq_nil_iff.mp hpath
    have hfirst : "streamid=".toList = 's' :: "treamid=".toList := rfl
    simp [hempty, hfirst]
  | cons x rest =>
    have hne : path ≠ "" := by
      rintro rfl
      cases hpath
    have hx : x ≠ '/' := fun hx => hslash (by simp [hpath, hx])
    have hdrop (t : List Char) : ((x :: rest) ++ t).dropWhile (· = '/') = (x :: rest) ++ t := by
      simp [hx]
    rw [hdrop, ← hpath, Rust.takeWhile_ne_append hslash, Rust.takeWhile_ne_eq_self hsemicolon,
      String.ofList_toList]
    simp [hne]

theorem reachable_iff (path : String) :
    Reachable path ↔ path ≠ "" ∧ '/' ∉ path.toList ∧ ';' ∉ path.toList := by
  constructor
  · intro h
    obtain ⟨hself, hstream⟩ := h "localhost" "8554" (by decide) (by decide)
    obtain ⟨hslash, hsemicolon⟩ := (uriMatches_announcedUrl_self (by decide) (by decide) path).mp hself
    have hne := (uriMatches_stream (by decide) (by decide) hslash hsemicolon "0").mp (hstream "0")
    exact ⟨hne, hslash, hsemicolon⟩
  · rintro ⟨hne, hslash, hsemicolon⟩ host port hhost hport
    refine ⟨(uriMatches_announcedUrl_self hhost hport path).mpr ⟨hslash, hsemicolon⟩, fun n => ?_⟩
    exact (uriMatches_stream hhost hport hslash hsemicolon n).mpr hne

/-- The announced URLs are accepted if and only if a configured path has neither a slash nor a
semicolon, and without one the camera name has a letter or a digit. -/
theorem rtspPath_reachable_iff (rtspPathVar : Option String) (cameraName : String) :
    Reachable (rtspPath rtspPathVar cameraName) ↔
      match opt rtspPathVar with
      | some path => '/' ∉ path.toList ∧ ';' ∉ path.toList
      | none => ∃ c ∈ cameraName.toList, c.isAlphanum = true := by
  rw [reachable_iff, rtspPath]
  cases hvar : opt rtspPathVar with
  | some path =>
    have hne : path ≠ "" := by
      intro hempty
      have hset := (Option.filter_eq_some_iff.mp hvar).2
      rw [hempty] at hset
      cases hset
    simp [hne]
  | none =>
    have hslash := not_mem_slugify (d := '/') (by decide) (by decide) rfl cameraName
    have hsemicolon := not_mem_slugify (d := ';') (by decide) (by decide) rfl cameraName
    simp [hslash, hsemicolon, slugify_eq_empty_iff]

/-- A path of two segments and a name without a letter of the ASCII alphabet are announced in vain. -/
theorem not_rtspPath_reachable :
    ¬ Reachable (rtspPath (some "live/cam") "Core One") ∧ ¬ Reachable (rtspPath none "カメラ") := by
  constructor
  · intro h
    have hself := (h "localhost" "8554" (by decide) (by decide)).1
    revert hself
    decide +kernel
  · intro h
    have hstream := (h "localhost" "8554" (by decide) (by decide)).2 "0"
    revert hstream
    decide +kernel

end Buddy3dProxy.Rtsp
