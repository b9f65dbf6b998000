import Launchpad.Config.Discovery
import Launchpad.Proofs.Actions
import Mathlib

/-!
Which file a configuration comes from. The candidates are asked in order and the first that is there
decides, whatever it holds: a candidate that cannot be read, that is no document or that lacks
something is the answer, and those behind it are not looked at. Only where no candidate is there do
the defaults apply. What is answered lacks nothing.
-/

namespace Launchpad.Config

open Launchpad.Action Results

variable {fs gs : FileSystem} {file : Path} {files : List Path} {explicit? : Option Path}
  {settings : Path} {c : Config}

/-! ### Loading a file -/

theorem loadFrom_eq (fs : FileSystem) (file : Path) :
    loadFrom fs file =
      match readText fs file with
      | .error failure => .error failure
      | .ok text =>
        match (Toml.parse? text).bind ofTable? with
        | none => .error (.unparsable file)
        | some stated => (stated.rebase file).validate.map fun _ => stated.rebase file := by
  unfold loadFrom
  cases readText fs file with
  | error failure => rfl
  | ok text =>
    simp only [bind, Except.bind]
    cases (Toml.parse? text).bind ofTable? with
    | none => rfl
    | some stated =>
      change (stated.rebase file).validate.bind (fun _ => .ok (stated.rebase file)) =
        (stated.rebase file).validate.map fun _ => stated.rebase file
      cases (stated.rebase file).validate <;> rfl

/-- A file is loaded when it can be read as a document whose table, moved to the directory of the
file, lacks nothing. -/
theorem loadFrom_eq_ok :
    loadFrom fs file = .ok c ↔
      ∃ text stated, readText fs file = .ok text ∧ (Toml.parse? text).bind ofTable? = some stated ∧
        stated.rebase file = c ∧ c.validate = .ok () := by
  rw [loadFrom_eq]
  cases htext : readText fs file with
  | error failure => simp
  | ok text =>
    cases hstated : (Toml.parse? text).bind ofTable? with
    | none => simp [hstated]
    | some stated =>
      simp only [map_eq_ok, Except.ok.injEq, hstated, Option.some.injEq, exists_eq_left',
        exists_and_left]
      constructor
      · rintro ⟨_, hvalid, rfl⟩
        exact ⟨rfl, hvalid⟩
      · rintro ⟨rfl, hvalid⟩
        exact ⟨(), hvalid, rfl⟩

theorem validate_of_loadFrom (h : loadFrom fs file = .ok c) : c.validate = .ok () := by
  obtain ⟨text, stated, -, -, -, hvalid⟩ := loadFrom_eq_ok.mp h
  exact hvalid

theorem loadFrom_congr (h : fs.readFile file = gs.readFile file) :
    loadFrom fs file = loadFrom gs file := by
  rw [loadFrom, loadFrom, readText, readText, h]

theorem perform_load (file : Path) (w : World) :
    ((load file).perform w).1 = (loadFrom w.files file).mapError .config := by
  unfold load
  simp only [perform_bind, perform_files, perform_ofExcept]
  cases loadFrom w.files file with
  | ok c => rfl
  | error failure => rfl

/-! ### The candidate that decides -/

/-- The places where a configuration may be, in the order in which they are asked. -/
def candidates (explicit? : Option Path) (settings : Path) : List Path :=
  match explicit? with
  | some file => [file]
  | none => [localFile, userFile settings]

/-- A candidate is asked when none in front of it is there. -/
def IsAsked (fs : FileSystem) (files : List Path) (file : Path) : Prop :=
  ∃ before after, files = before ++ file :: after ∧
    ∀ earlier ∈ before, fs.pathExists earlier = false

/-- A candidate decides when it is the first that is there; an explicit one decides in any case. -/
structure Decides (fs : FileSystem) (explicit? : Option Path) (settings file : Path) : Prop where
  asked : IsAsked fs (candidates explicit? settings) file
  there : explicit? = none → fs.pathExists file = true

structure AgreeAt (fs gs : FileSystem) (file : Path) : Prop where
  pathExists : fs.pathExists file = gs.pathExists file
  readFile : fs.readFile file = gs.readFile file

theorem isAsked_cons {first : Path} :
    IsAsked fs (first :: files) file ↔
      file = first ∨ fs.pathExists first = false ∧ IsAsked fs files file := by
  constructor
  · rintro ⟨before, after, hfiles, hmissing⟩
    cases before with
    | nil =>
      cases hfiles
      exact .inl rfl
    | cons earlier before =>
      cases hfiles
      obtain ⟨hfirst, hmissing⟩ := List.forall_mem_cons.mp hmissing
      exact .inr ⟨hfirst, before, after, rfl, hmissing⟩
  · rintro (rfl | ⟨hfirst, before, after, rfl, hmissing⟩)
    · exact ⟨[], files, rfl, List.forall_mem_nil _⟩
    · exact ⟨first :: before, after, rfl, List.forall_mem_cons.mpr ⟨hfirst, hmissing⟩⟩

theorem not_isAsked_nil : ¬IsAsked fs [] file := by
  rintro ⟨before, after, hfiles, -⟩
  cases before <;> cases hfiles

theorem candidate?_eq_some_iff :
    candidate? fs explicit? settings = some file ↔ Decides fs explicit? settings file := by
  have hdecides : Decides fs explicit? settings file ↔
      IsAsked fs (candidates explicit? settings) file ∧
        (explicit? = none → fs.pathExists file = true) :=
    ⟨fun h => ⟨h.asked, h.there⟩, fun h => ⟨h.1, h.2⟩⟩
  rw [hdecides]
  cases explicit? with
  | some explicit =>
    simp only [candidate?, candidates, isAsked_cons, not_isAsked_nil, and_false, or_false,
      Option.some.injEq, reduceCtorEq, false_imp_iff, and_true]
    exact eq_comm
  | none =>
    simp only [candidate?, candidates, isAsked_cons, not_isAsked_nil, and_false, or_false,
      forall_const]
    cases hlocal : fs.pathExists localFile with
    | true =>
      simp only [if_true, Option.some.injEq, Bool.true_eq_false, false_and, or_false]
      constructor
      · rintro rfl
        exact ⟨rfl, hlocal⟩
      · rintro ⟨rfl, -⟩
        rfl
    | false =>
      cases huser : fs.pathExists (userFile settings) with
      | true =>
        simp only [Bool.false_eq_true, if_false, if_true, Option.some.injEq, true_and]
        constructor
        · rintro rfl
          exact ⟨.inr rfl, huser⟩
        · rintro ⟨rfl | rfl, hthere⟩
          · rw [hlocal] at hthere
            cases hthere
          · rfl
      | false =>
        simp only [Bool.false_eq_true, if_false, reduceCtorEq, true_and, false_iff, not_and]
        rintro (rfl | rfl)
        · simp [hlocal]
        · simp [huser]

theorem candidate?_eq_none_iff :
    candidate? fs explicit? settings = none ↔
      explicit? = none ∧ ∀ file ∈ candidates explicit? settings, fs.pathExists file = false := by
  cases explicit? with
  | some explicit => simp [candidate?]
  | none =>
    simp only [candidate?, candidates, List.forall_mem_cons, true_and]
    cases fs.pathExists localFile <;> cases fs.pathExists (userFile settings) <;> simp

/-- The candidate that decides is the same where the candidates that are asked are. -/
theorem candidate?_congr
    (h : ∀ file, IsAsked fs (candidates explicit? settings) file → AgreeAt fs gs file) :
    candidate? fs explicit? settings = candidate? gs explicit? settings := by
  cases explicit? with
  | some explicit => rfl
  | none =>
    simp only [candidates, isAsked_cons, not_isAsked_nil, and_false, or_false] at h
    have hlocal := (h localFile (.inl rfl)).pathExists
    rw [candidate?, candidate?, ← hlocal]
    cases hthere : fs.pathExists localFile with
    | true => rfl
    | false => rw [(h (userFile settings) (.inr ⟨hthere, rfl⟩)).pathExists]

/-! ### The configuration that applies -/

theorem perform_discover (explicit? : Option Path) (settings : Path) (w : World) :
    ((discover explicit? settings).perform w).1 =
      (discoverFrom w.files explicit? settings).mapError .config := by
  unfold discover discoverFrom
  simp only [perform_bind, perform_files]
  cases candidate? w.files explicit? settings with
  | some file => exact perform_load file w
  | none => rfl

theorem discoverFrom_congr
    (h : ∀ file, IsAsked fs (candidates explicit? settings) file → AgreeAt fs gs file) :
    discoverFrom fs explicit? settings = discoverFrom gs explicit? settings := by
  rw [discoverFrom, discoverFrom, ← candidate?_congr h]
  cases hfile : candidate? fs explicit? settings with
  | none => rfl
  | some file =>
    have hasked := (candidate?_eq_some_iff.mp hfile).asked
    exact loadFrom_congr (h file hasked).readFile

theorem validate_of_discoverFrom (h : discoverFrom fs explicit? settings = .ok c) :
    c.validate = .ok () := by
  unfold discoverFrom at h
  split at h
  · exact validate_of_loadFrom h
  · cases h
    rfl

theorem perform_discover_of_decides {w : World} (h : Decides w.files explicit? settings file) :
    (discover explicit? settings).perform w = (load file).perform w := by
  unfold discover
  simp only [perform_bind, perform_files, candidate?_eq_some_iff.mpr h]

theorem perform_discover_of_none {w : World} (hexplicit : explicit? = none)
    (h : ∀ file ∈ candidates explicit? settings, w.files.pathExists file = false) :
    (discover explicit? settings).perform w =
      (.ok {}, w.record (.logged ⟨.debug, "No config file found, using defaults", []⟩)) := by
  unfold discover
  simp only [perform_bind, perform_files, candidate?_eq_none_iff.mpr ⟨hexplicit, h⟩, perform_log,
    perform_pure]

/-- The configuration that applies depends on the candidates up to the first one that is there, and
is what this one is loaded as, a failure included. The defaults apply exactly where there is no
explicit candidate and no other is there. What applies lacks nothing. -/
theorem first_candidate_decides (explicit? : Option Path) (settings : Path) (w w' : World)
    (hagree : ∀ file, IsAsked w.files (candidates explicit? settings) file →
      AgreeAt w.files w'.files file) :
    ((discover explicit? settings).perform w').1 = ((discover explicit? settings).perform w).1 ∧
      (∀ file, Decides w.files explicit? settings file →
        (discover explicit? settings).perform w = (load file).perform w ∧
          ((load file).perform w).1 = (loadFrom w.files file).mapError .config) ∧
      ((¬∃ file, Decides w.files explicit? settings file) ↔
        explicit? = none ∧ ∀ file ∈ candidates explicit? settings,
          w.files.pathExists file = false) ∧
      ((¬∃ file, Decides w.files explicit? settings file) →
        (discover explicit? settings).perform w =
          (.ok {}, w.record (.logged ⟨.debug, "No config file found, using defaults", []⟩))) ∧
      (∀ c, ((discover explicit? settings).perform w).1 = .ok c → c.validate = .ok ()) := by
  have hnone : (¬∃ file, Decides w.files explicit? settings file) ↔
      explicit? = none ∧ ∀ file ∈ candidates explicit? settings,
        w.files.pathExists file = false := by
    rw [← candidate?_eq_none_iff, Option.eq_none_iff_forall_ne_some, not_exists]
    exact forall_congr' fun file => not_congr candidate?_eq_some_iff.symm
  refine ⟨?_, fun file hfile => ?_, hnone, fun hfree => ?_, fun c hc => ?_⟩
  · rw [perform_discover, perform_discover, discoverFrom_congr hagree]
  · exact ⟨perform_discover_of_decides hfile, perform_load file w⟩
  · obtain ⟨hexplicit, hmissing⟩ := hnone.mp hfree
    exact perform_discover_of_none hexplicit hmissing
  · rw [perform_discover, mapError_eq_ok] at hc
    exact validate_of_discoverFrom hc

/-- A working directory in which a directory stands in the place of a configuration. -/
def besideDirectory : FileSystem :=
  { entries :=
      [([], ⟨0, .directory, directoryMode, ⟨0⟩⟩),
        (.ofTexts ["work"], ⟨1, .directory, directoryMode, ⟨0⟩⟩),
        (.ofTexts ["work", "jsgate.toml"], ⟨2, .directory, directoryMode, ⟨0⟩⟩)]
    nextSerial := 3
    now := ⟨0⟩
    here := .ofTexts ["work"] }

def besideDirectoryOfUser : FileSystem :=
  { besideDirectory with
    entries := besideDirectory.entries ++
      [(.ofTexts ["jsgate"], ⟨3, .directory, directoryMode, ⟨0⟩⟩),
        (.ofTexts ["jsgate", "config.toml"], ⟨4, .file ByteArray.empty, fileMode, ⟨0⟩⟩)] }

/-- A directory in the place of the local candidate is the answer, although the user has a
configuration that could be loaded. -/
theorem directory_decides_before_user :
    let settings : Path := .ofText "/"
    (∀ file, IsAsked besideDirectory (candidates none settings) file →
        AgreeAt besideDirectory besideDirectoryOfUser file) ∧
      (loadFrom besideDirectoryOfUser (userFile settings)).isOk = true ∧
      ((discover none settings).perform { files := besideDirectoryOfUser }).1 =
        .error (.config (.unreadable localFile (.os .isDirectory))) := by
  intro settings
  have hthere : besideDirectory.pathExists localFile = true := by cbv
  have hagree : ∀ file, IsAsked besideDirectory (candidates none settings) file →
      AgreeAt besideDirectory besideDirectoryOfUser file := by
    intro file hfile
    rcases isAsked_cons.mp hfile with rfl | ⟨hmissing, -⟩
    · exact ⟨by cbv, by cbv⟩
    · rw [hthere] at hmissing
      cases hmissing
  have hasked : IsAsked besideDirectory (candidates none settings) localFile :=
    isAsked_cons.mpr (.inl rfl)
  obtain ⟨hsame, hdecides, -, -, -⟩ := first_candidate_decides none settings
    { files := besideDirectory } { files := besideDirectoryOfUser } hagree
  obtain ⟨hdiscover, hload⟩ := hdecides localFile ⟨hasked, fun _ => hthere⟩
  refine ⟨hagree, by cbv, ?_⟩
  rw [hsame, hdiscover, hload]
  cbv

end Launchpad.Config
