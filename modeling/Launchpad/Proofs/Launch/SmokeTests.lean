import Launchpad.Proofs.FileSystem.Listing
import Launchpad.Proofs.Launch.Once
import Mathlib

/-!
Which scripts the launch over smoke tests gets: all files below the directory whose names have a stem
before `.js`, in the order in which the tree is walked, which is the order of the names on the way.
-/

namespace Launchpad.SmokeTests

variable {files : FileSystem} {top : Path} {l : Location} {e : Entry} {way : List Name} {name : Name}

/-- The name of a script. Something stands before the extension. -/
def IsScriptName (name : Name) : Prop := ∃ stem, stem ≠ [] ∧ name = stem ++ Name.ofText ".js"

/-- A path leads from a directory to a script below: to a file, no link, with the name of one. -/
def LeadsToScript (files : FileSystem) (top : Path) (l : Location) (p : Path) : Prop :=
  ∃ way name e, files.entry? (l ++ (way ++ [name])) = some e ∧ e.isFile = true ∧
    IsScriptName name ∧ p = top.along (way ++ [name])

/-- Its kind and its name make an entry of a tree a script. -/
theorem isScript_iff (htree : files.IsTreeBelow l)
    (hentry : files.entry? (l ++ (way ++ [name])) = some e) :
    isScript (top.along (way ++ [name])) e = true ↔ e.isFile = true ∧ IsScriptName name := by
  have hproper := htree.named hentry name (by simp)
  have hway : ∀ other ∈ way, Path.IsSingle other := fun other hother =>
    htree.isSingle hentry other (List.mem_append_left [name] hother)
  have hext : Text.Glyph.char '.' ∉ Name.ofText "js" := by decide
  have hdot : Name.ofText ".js" = .char '.' :: Name.ofText "js" := rfl
  rw [isScript, Path.extension?_along_concat hway hproper.toIsSingle hproper.notUp,
    Bool.and_eq_true, decide_eq_true_eq, Path.extensionOf?_eq_some_iff hext]
  rw [IsScriptName, hdot]

/-- The scripts of a listing, under the paths that lead there. -/
def listed (files : FileSystem) (top : Path) (l : Location) : List Path :=
  ((files.listingFuel files.entries.length l []).filter
    fun x => isScript (top.along x.1) x.2).map fun x => top.along x.1

theorem scripts_eq (htree : files.IsReadableTree top l) (hstatus : files.status top = .ok (l, e))
    (hdir : e.isDirectory = true) : scripts files top = .ok (listed files top l) := by
  have htop : isScript top e = false := by
    have hnode : e.node = .directory := of_decide_eq_true hdir
    simp [isScript, Entry.isFile, hnode]
  unfold scripts
  rw [htree.walkTree_eq hstatus hdir]
  simp only [List.filter_cons, htop, Bool.false_eq_true, if_false, List.filter_map, List.map_map]
  rfl

theorem mem_listed (htree : files.IsTreeBelow l) {p : Path} :
    p ∈ listed files top l ↔ LeadsToScript files top l p := by
  rw [listed, List.mem_map]
  constructor
  · rintro ⟨⟨w, e⟩, hmem, rfl⟩
    obtain ⟨hlisted, hscript⟩ := List.mem_filter.mp hmem
    obtain ⟨hne, hentry⟩ := htree.mem_listing.mp hlisted
    obtain ⟨way, name, rfl⟩ := (List.eq_nil_or_concat' w).resolve_left hne
    change isScript (top.along (way ++ [name])) e = true at hscript
    obtain ⟨hfile, hname⟩ := (isScript_iff htree hentry).mp hscript
    exact ⟨way, name, e, hentry, hfile, hname, rfl⟩
  · rintro ⟨way, name, e, hentry, hfile, hname, rfl⟩
    have hlisted := htree.mem_listing.mpr ⟨List.concat_ne_nil name way, hentry⟩
    have hscript : isScript (top.along (way ++ [name])) e = true :=
      (isScript_iff htree hentry).mpr ⟨hfile, hname⟩
    exact ⟨(way ++ [name], e), List.mem_filter.mpr ⟨hlisted, hscript⟩, rfl⟩

theorem pairwise_listed (htree : files.IsTreeBelow l) :
    (listed files top l).Pairwise Path.Precedes := by
  have hsingle : ∀ x ∈ files.listingFuel files.entries.length l [],
      ∀ name ∈ x.1, Path.IsSingle name :=
    fun x hx => htree.isSingle (htree.mem_listing.mp hx).2
  have hlisting := (htree.pairwise_listingFuel files.entries.length []).filter
    fun x => isScript (top.along x.1) x.2
  refine List.pairwise_map.mpr (hlisting.imp_of_mem fun {x y} hx hy hlt => ?_)
  have hleft := hsingle x (List.mem_of_mem_filter hx)
  have hright := hsingle y (List.mem_of_mem_filter hy)
  exact Path.precedes_along hleft hright hlt

/-! ### The launch -/

/-- With a directory in place the launch depends on the scripts in it alone. -/
theorem perform_run {found : List Path} (host : Host) (binary : Path) {w : World}
    (hdir : w.files.isDirectory (host.config.suitePath directory) = true)
    (hfound : scripts w.files (host.config.suitePath directory) = .ok found) :
    (run host binary).perform w =
      if found = [] then (.error (.noSmokeTests (host.config.suitePath directory)), w)
      else (host.await (command binary found) .success).perform w := by
  unfold run
  simp only [Action.perform_bind, Action.perform_files, hdir, Bool.not_true, Bool.false_eq_true,
    if_false, Action.perform_ofExcept, hfound, Results.mapError_id]
  split
  · rfl
  · rfl

/-- In a readable tree every script is found, once and in order, and nothing else is. The launch
happens exactly if there is one, and gets all of them behind the flag; without any it is refused and
nothing changes. -/
theorem launches_every_script_in_order (htree : files.IsReadableTree top l)
    (hstatus : files.status top = .ok (l, e)) (hdir : e.isDirectory = true) :
    ∃ found, scripts files top = .ok found ∧
      (∀ p, p ∈ found ↔ LeadsToScript files top l p) ∧
      found.Nodup ∧ found.Pairwise Path.Precedes ∧
      ∀ (host : Host) (binary : Path) (w : World),
        w.files = files → host.config.suitePath directory = top →
          let launch : Command :=
            { program := binary.text, args := "--js.intl-402" :: found.map Path.text, cwd? := none }
          (found = [] → (run host binary).perform w = (.error (.noSmokeTests top), w)) ∧
          (found ≠ [] →
            (run host binary).perform w = (host.await launch .success).perform w ∧
            ((run host binary).perform w).2.calls = w.calls ++ [(.run, launch)]) := by
  have hsorted : (listed files top l).Pairwise Path.Precedes :=
    pairwise_listed htree.toIsTreeBelow
  have hnodup : (listed files top l).Nodup := hsorted.imp fun {p q} hlt heq => by
    rw [heq] at hlt
    exact q.not_precedes_self hlt
  refine ⟨listed files top l, scripts_eq htree hstatus hdir, fun p => mem_listed htree.toIsTreeBelow,
    hnodup, hsorted, ?_⟩
  rintro host binary w rfl rfl launch
  have hplace : w.files.isDirectory (host.config.suitePath directory) = true := by
    rw [FileSystem.isDirectory, hstatus]
    exact hdir
  have hrun := perform_run host binary hplace (scripts_eq htree hstatus hdir)
  constructor
  · intro hnone
    rw [hrun, if_pos hnone]
  · intro hsome
    rw [if_neg hsome] at hrun
    refine ⟨hrun, ?_⟩
    rw [hrun]
    exact host.calls_await launch .success w

/-- A tree of two scripts. A file, a directory and a link look like some. -/
def decoys : FileSystem :=
  { entries :=
      [([], ⟨0, .directory, directoryMode, ⟨0⟩⟩),
        (.ofTexts ["test"], ⟨1, .directory, directoryMode, ⟨0⟩⟩),
        (.ofTexts ["test", "smoketest"], ⟨2, .directory, directoryMode, ⟨0⟩⟩),
        (.ofTexts ["test", "smoketest", "a.js"], ⟨3, .file ByteArray.empty, fileMode, ⟨0⟩⟩),
        (.ofTexts ["test", "smoketest", ".js"], ⟨4, .file ByteArray.empty, fileMode, ⟨0⟩⟩),
        (.ofTexts ["test", "smoketest", "l.js"], ⟨5, .link (.ofText "a.js"), 0o777, ⟨0⟩⟩),
        (.ofTexts ["test", "smoketest", "d.js"], ⟨6, .directory, directoryMode, ⟨0⟩⟩),
        (.ofTexts ["test", "smoketest", "a"], ⟨7, .directory, directoryMode, ⟨0⟩⟩),
        (.ofTexts ["test", "smoketest", "a", "x.js"], ⟨8, .file ByteArray.empty, fileMode, ⟨0⟩⟩)]
    nextSerial := 9
    now := ⟨0⟩
    here := [] }

/-- The script in the directory `a` stands before the script `a.js`. -/
theorem launches_two_scripts_among_decoys :
    let host : Host := ⟨{}, ⟨fun _ _ w => ⟨.ok (0, ""), w.files, []⟩⟩, .standard, .tar⟩
    let launch : Command :=
      { program := "js"
        args := ["--js.intl-402", "./test/smoketest/a/x.js", "./test/smoketest/a.js"]
        cwd? := none }
    decoys.IsReadableTree (.ofText "./test/smoketest") (.ofTexts ["test", "smoketest"]) ∧
      decoys.isDirectory (.ofText "./test/smoketest") = true ∧
      ((run host (.ofText "js")).perform ⟨decoys, []⟩).2.calls = [(.run, launch)] := by
  have htree : decoys.IsReadableTree (.ofText "./test/smoketest")
      (.ofTexts ["test", "smoketest"]) :=
    (FileSystem.sound_of_rows (by decide)).isReadableTree (by decide +kernel) (by decide +kernel)
  have hstatus : decoys.status (.ofText "./test/smoketest") =
      .ok (.ofTexts ["test", "smoketest"], ⟨2, .directory, directoryMode, ⟨0⟩⟩) := by
    cbv
  have hfound : scripts decoys (.ofText "./test/smoketest") =
      .ok [.ofText "./test/smoketest/a/x.js", .ofText "./test/smoketest/a.js"] := by
    cbv
  obtain ⟨found, hscripts, -, -, -, hrun⟩ := launches_every_script_in_order htree hstatus rfl
  rw [hfound] at hscripts
  cases hscripts
  intro host launch
  refine ⟨htree, ?_, ?_⟩
  · rw [FileSystem.isDirectory, hstatus]
    rfl
  · exact ((hrun host (.ofText "js") ⟨decoys, []⟩ rfl rfl).2 (by simp)).2

end Launchpad.SmokeTests
