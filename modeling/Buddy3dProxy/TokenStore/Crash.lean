import Buddy3dProxy.Rust.Fs
import Buddy3dProxy.Rust.Utf8
import Buddy3dProxy.TokenStore
import Buddy3dProxy.Transition.System

/-!
# Crashes while the tokens are saved

`load`, `save` and `write_atomic` of `token_store.rs` on the files they read and write. A save can end
after each of its steps: the process crashes, or the step after it fails.
-/

namespace Buddy3dProxy.TokenStore

open Rust (Path FileSystem)
open Transition

/-- What the code uses of `serde_json`. -/
structure Serde where
  /-- What `to_writer` writes. -/
  toVec : StoredTokens → List UInt8
  fromSlice : List UInt8 → Except String StoredTokens

section Model

variable (serde : Serde) (path : Path)

def load (fs : FileSystem) : Except TokenStoreError (Option StoredTokens) :=
  match fs.read path with
  | .ok bytes =>
    match serde.fromSlice bytes with
    | .ok t => .ok (some t)
    | .error e => .error (.parse e)
  | .error .notFound => .ok none
  | .error (.other e) => .error (.io e)

/-- The path of the temporary file. -/
def tmp : Path := path.setExtension "tmp".toList

/-- Where a save stands. -/
inductive SavePc where
  /-- In `create_dir_all`. -/
  | creatingDirs
  | opening
  /-- In `to_writer`, with the bytes still to be written. -/
  | writing (rest : List UInt8)
  /-- About to rename: the bytes are written and synced. -/
  | renaming
  | done
  deriving DecidableEq, Repr

structure Saving where
  pc : SavePc
  fs : FileSystem

inductive SaveStep where
  | createDirs
  | openTmp
  /-- So many of the bytes are written, at least one. -/
  | write (n : Nat)
  | sync
  | rename
  deriving DecidableEq, Repr

def saveStep (new : StoredTokens) (s : Saving) : SaveStep → Option Saving
  | .createDirs => if s.pc = .creatingDirs then some { s with pc := .opening } else none
  | .openTmp =>
    if s.pc = .opening then
      (s.fs.openTruncate (tmp path)).map fun fs => ⟨.writing (serde.toVec new), fs⟩
    else none
  | .write n =>
    match s.pc with
    | .writing rest =>
      if 0 < n ∧ n ≤ rest.length then
        some ⟨.writing (rest.drop n), s.fs.write (tmp path) (rest.take n)⟩
      else none
    | _ => none
  | .sync => if s.pc = .writing [] then some { s with pc := .renaming } else none
  | .rename => if s.pc = .renaming then some ⟨.done, s.fs.rename (tmp path) path⟩ else none

/-- The runs of one save. Each state they reach is one that a crash can leave behind. -/
def saveSystem (new : StoredTokens) (fs : FileSystem) : System Saving SaveStep :=
  ⟨⟨.creatingDirs, fs⟩, saveStep serde path new⟩

/-- The store holds these tokens, as a save writes them. -/
def Holds (fs : FileSystem) (tokens : Option StoredTokens) : Prop :=
  path.fileName.isSome ∧ fs path = tokens.map serde.toVec

/-- The token file, as far as `load` tells it apart. -/
def tokenFile (fs : FileSystem) : TokenFile :=
  match fs path with
  | none => .absent
  | some bytes =>
    match serde.fromSlice bytes with
    | .ok t => .tokens t
    | .error e => .corrupt e

end Model

section Store

variable {serde : Serde} {path : Path} {old : Option StoredTokens} {new : StoredTokens}
  {fs : FileSystem} {s s' : Saving}

/-- For a path with a file name, `load` sees of the files what `tokenFile` does. -/
theorem load_eq (hname : path.fileName.isSome) (fs : FileSystem) :
    load serde path fs = (tokenFile serde path fs).load none := by
  have hfile : ¬ (path.fileName = none ∧ path ≠ []) := by
    rintro ⟨hnone, -⟩
    rw [hnone] at hname
    cases hname
  unfold load tokenFile FileSystem.read
  cases fs path with
  | none => simp only [if_neg hfile, TokenFile.load]
  | some bytes => cases hparse : serde.fromSlice bytes <;> simp only [hparse, TokenFile.load]

theorem tokenFile_of_holds (hinv : ∀ t, old = some t → serde.fromSlice (serde.toVec t) = .ok t)
    (h : Holds serde path fs old) :
    tokenFile serde path fs = match old with | none => .absent | some t => .tokens t := by
  unfold tokenFile
  rw [h.2]
  cases old with
  | none => rfl
  | some t => simp only [Option.map_some, hinv t rfl]

/-! ## The temporary file is another one -/

/-- Until the rename the file is left alone, and the temporary file gets the new tokens. -/
structure Inv (serde : Serde) (path : Path) (new : StoredTokens) (fs : FileSystem) (s : Saving) : Prop where
  untouched : s.pc ≠ .done → s.fs path = fs path
  written : ∀ rest, s.pc = .writing rest →
    ∃ front, s.fs (tmp path) = some front ∧ front ++ rest = serde.toVec new
  synced : s.pc = .renaming → s.fs (tmp path) = some (serde.toVec new)
  renamed : s.pc = .done → s.fs path = some (serde.toVec new)

theorem Inv.step (htmp : tmp path ≠ path) (h : Inv serde path new fs s) {a : SaveStep}
    (hs : saveStep serde path new s a = some s') : Inv serde path new fs s' := by
  have hother : ∀ x : Option (List UInt8), Function.update s.fs (tmp path) x path = s.fs path := fun x =>
    Function.update_of_ne (Ne.symm htmp) x s.fs
  cases a with
  | createDirs =>
    by_cases hpc : s.pc = .creatingDirs
    · simp only [saveStep, if_pos hpc, Option.some.injEq] at hs
      subst hs
      exact ⟨fun _ => h.untouched (by simp [hpc]), by simp, by simp, by simp⟩
    · simp [saveStep, hpc] at hs
  | openTmp =>
    by_cases hpc : s.pc = .opening
    · simp only [saveStep, if_pos hpc, FileSystem.openTruncate, Option.map_eq_some_iff] at hs
      obtain ⟨fs', hopen, rfl⟩ := hs
      obtain ⟨-, hfs⟩ := Option.ite_none_right_eq_some.mp hopen
      obtain rfl := Option.some.inj hfs
      refine ⟨fun _ => (hother _).trans (h.untouched (by simp [hpc])), ?_, by simp, by simp⟩
      rintro rest hrest
      obtain rfl := SavePc.writing.inj hrest
      exact ⟨[], Function.update_self _ _ _, rfl⟩
    · simp [saveStep, hpc] at hs
  | write n =>
    simp only [saveStep] at hs
    split at hs
    · rename_i rest hpc
      obtain ⟨-, hfs⟩ := Option.ite_none_right_eq_some.mp hs
      obtain rfl := Option.some.inj hfs
      obtain ⟨front, hfront, hall⟩ := h.written rest hpc
      refine ⟨fun _ => (hother _).trans (h.untouched (by simp [hpc])), ?_, by simp, by simp⟩
      rintro rest' hrest
      obtain rfl := SavePc.writing.inj hrest
      refine ⟨front ++ rest.take n, ?_, ?_⟩
      · simp [FileSystem.write, hfront]
      · rw [List.append_assoc, List.take_append_drop, hall]
    · cases hs
  | sync =>
    by_cases hpc : s.pc = .writing []
    · simp only [saveStep, if_pos hpc, Option.some.injEq] at hs
      subst hs
      obtain ⟨front, hfront, hall⟩ := h.written [] hpc
      rw [List.append_nil] at hall
      exact ⟨fun _ => h.untouched (by simp [hpc]), by simp, fun _ => hall ▸ hfront, by simp⟩
    · simp [saveStep, hpc] at hs
  | rename =>
    by_cases hpc : s.pc = .renaming
    · simp only [saveStep, if_pos hpc, Option.some.injEq] at hs
      subst hs
      refine ⟨by simp, by simp, by simp, fun _ => ?_⟩
      exact (Function.update_self path _ _).trans (h.synced hpc)
    · simp [saveStep, hpc] at hs

/-- A save that ends early leaves the token file as it was, and one that ends well replaces it. -/
theorem tokenFile_of_reachable (htmp : tmp path ≠ path)
    (hinv : serde.fromSlice (serde.toVec new) = .ok new)
    (h : Reachable (saveSystem serde path new fs) s) :
    ∃ fault, tokenFile serde path s.fs = (tokenFile serde path fs).save new fault := by
  have hi : Inv serde path new fs s :=
    h.induct ⟨fun _ => rfl, by simp [saveSystem], by simp [saveSystem], by simp [saveSystem]⟩
      fun _ _ _ _ _ hs hi => hi.step htmp hs
  by_cases hpc : s.pc = .done
  · refine ⟨none, ?_⟩
    unfold tokenFile
    rw [hi.renamed hpc]
    simp only [hinv, TokenFile.save]
  · refine ⟨some (.io ""), ?_⟩
    unfold tokenFile
    rw [hi.untouched hpc]
    rfl

/-! ## The temporary file is the file itself -/

/-- Once the file has been opened there are no tokens in it. -/
theorem exists_truncated (htmp : tmp path = path) (hname : path.fileName.isSome) (new : StoredTokens)
    (fs : FileSystem) : ∃ s, Reachable (saveSystem serde path new fs) s ∧ s.fs path = some [] := by
  have hopen : saveStep serde path new ⟨.opening, fs⟩ .openTmp =
      some ⟨.writing (serde.toVec new), Function.update fs path (some [])⟩ := by
    simp only [saveStep, htmp, FileSystem.openTruncate, if_pos hname, if_true, Option.map_some]
  have hdirs : Reachable (saveSystem serde path new fs) ⟨.opening, fs⟩ :=
    .step (a := .createDirs) .init trivial rfl
  exact ⟨_, .step (a := .openTmp) hdirs trivial hopen, Function.update_self _ _ _⟩

end Store

/-- Whatever the files are and wherever a save ends, `load` returns the old tokens or the new ones, if
and only if the path does not have the extension of the temporary file. -/
theorem load_of_reachable_iff {serde : Serde} {path : Path} {old : Option StoredTokens} {new : StoredTokens}
    (hold : ∀ t, old = some t → serde.fromSlice (serde.toVec t) = .ok t)
    (hnew : serde.fromSlice (serde.toVec new) = .ok new)
    (hempty : ∃ e, serde.fromSlice [] = .error e) :
    (∀ fs, Holds serde path fs old → ∀ s, Reachable (saveSystem serde path new fs) s →
        load serde path s.fs = .ok old ∨ load serde path s.fs = .ok (some new)) ↔
      path.extension ≠ some "tmp".toList := by
  constructor
  · intro hsafe hext
    cases hname : path.fileName with
    | none =>
      rw [Path.extension_of_fileName_eq_none hname] at hext
      cases hext
    | some name =>
      have hisSome : path.fileName.isSome := by simp [hname]
      have htmp : tmp path = path := (Path.setExtension_eq_self_iff (by decide) hname).mpr hext
      have hreach : ∃ s, Reachable (saveSystem serde path new fun _ => old.map serde.toVec) s ∧
          s.fs path = some [] := exists_truncated htmp hisSome new _
      obtain ⟨s, hr, hs⟩ := hreach
      obtain ⟨e, he⟩ := hempty
      have hload : load serde path s.fs = .error (.parse e) := by
        simp only [load, FileSystem.read, hs, he]
      rcases hsafe _ ⟨hisSome, rfl⟩ s hr with h | h
      · rw [hload] at h
        cases h
      · rw [hload] at h
        cases h
  · intro hext fs hfs s hr
    have hname := hfs.1
    have htmp : tmp path ≠ path := by
      obtain ⟨name, hfile⟩ := Option.isSome_iff_exists.mp hname
      exact fun h => hext ((Path.setExtension_eq_self_iff (by decide) hfile).mp h)
    obtain ⟨fault, hfile⟩ := tokenFile_of_reachable htmp hnew hr
    rw [load_eq hname, hfile, tokenFile_of_holds hold hfs]
    cases fault with
    | none => exact .inr rfl
    | some e =>
      left
      cases old <;> rfl

namespace Sample

def json (t : StoredTokens) : String :=
  "\x7b\"access_token\":\"" ++ t.accessToken ++ "\",\"refresh_token\":\"" ++ t.refreshToken ++
    "\",\"access_expires_at\":" ++ toString t.accessExpiresAt ++ "\x7d"

def before : StoredTokens := ⟨"a", "r", 1⟩

def after : StoredTokens := ⟨"b", "s", 2⟩

/-- `serde_json` on the texts of two token sets and on an empty file. -/
def serde : Serde where
  toVec t := Rust.utf8 (json t).toList
  fromSlice bytes :=
    match [before, after].find? fun t => Rust.utf8 (json t).toList = bytes with
    | some t => .ok t
    | none => .error "EOF while parsing a value at line 1 column 0"

end Sample

/-- A crash in the middle of the bytes, with a temporary file left behind by another one. -/
theorem load_of_reachable_iff_midway :
    let path := Path.ofText "/data/tokens.json".toList
    let fs : FileSystem := fun p =>
      if p = path then some (Sample.serde.toVec Sample.before)
      else if p = tmp path then some [123] else none
    ∃ s, Reachable (saveSystem Sample.serde path Sample.after fs) s ∧
      s.pc = .writing ((Sample.serde.toVec Sample.after).drop 3) ∧
      (load Sample.serde path s.fs = .ok (some Sample.before) ∨
        load Sample.serde path s.fs = .ok (some Sample.after)) := by
  intro path fs
  obtain ⟨s, hr, hp⟩ := exists_reachable_of_run (saveSystem Sample.serde path Sample.after fs)
    [.createDirs, .openTmp, .write 1, .write 2]
    (fun s => decide (s.pc = .writing ((Sample.serde.toVec Sample.after).drop 3))) (by decide +kernel)
  have hsafe : load Sample.serde path s.fs = .ok (some Sample.before) ∨
      load Sample.serde path s.fs = .ok (some Sample.after) :=
    (load_of_reachable_iff (by rintro t ⟨rfl⟩; decide +kernel) (by decide +kernel) ⟨_, rfl⟩).mpr
      (by decide) fs ⟨by decide, by decide +kernel⟩ s hr
  exact ⟨s, hr, of_decide_eq_true hp, hsafe⟩

/-- A path with the extension of the temporary file: a crash once the file is open loses the tokens. -/
theorem not_load_of_reachable_tmp :
    let path := Path.ofText "/data/tokens.tmp".toList
    let fs : FileSystem := fun p => if p = path then some (Sample.serde.toVec Sample.before) else none
    Holds Sample.serde path fs (some Sample.before) ∧
      ∃ s, Reachable (saveSystem Sample.serde path Sample.after fs) s ∧
        load Sample.serde path s.fs =
          .error (.parse "EOF while parsing a value at line 1 column 0") := by
  intro path fs
  have hreach : ∃ s, Reachable (saveSystem Sample.serde path Sample.after fs) s ∧
      s.fs path = some [] := exists_truncated (by decide) (by decide) Sample.after fs
  obtain ⟨s, hr, hs⟩ := hreach
  refine ⟨⟨by decide, by decide +kernel⟩, s, hr, ?_⟩
  simp only [load, FileSystem.read, hs]
  decide +kernel

end Buddy3dProxy.TokenStore
