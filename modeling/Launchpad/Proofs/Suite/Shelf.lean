import Launchpad.Launch.Conformance
import Launchpad.Proofs.FileSystem.Below

/-!
The shelf: the one directory in which the copies of all suites stand, each under a name of its own.
What happens to a copy touches nothing beside the shelf but time stamps, so a path that leads to a
place whatever the copies hold goes on leading there.
-/

namespace Launchpad

open Launchpad.Path FileSystem

/-- The directory that the copies of suites stand in. -/
def Config.shelf (c : Config) : Path := c.suitePath (.ofText "lib")

namespace TestSuite

def place : TestSuite → Name
  | .test262 => .ofText "test262"
  | .testNashorn => .ofText "testnashorn"
  | .testV8 => .ofText "testv8"

def copy (suite : TestSuite) (c : Config) : Copy := (suite.profile .standard).copy c

theorem copy_profile (suite : TestSuite) (arch : Arch) (c : Config) :
    (suite.profile arch).copy c = suite.copy c := by
  cases suite <;> rfl

theorem isSingle_place (suite : TestSuite) : IsSingle suite.place := by
  cases suite <;> exact ⟨by decide, by decide⟩

theorem descends_place (suite : TestSuite) : Descends suite.place := by
  cases suite <;> exact ⟨by decide, by decide, by decide +kernel⟩

theorem place_injective {suite other : TestSuite} (h : suite.place = other.place) :
    suite = other := by
  revert h
  cases suite <;> cases other <;> decide

end TestSuite

theorem Config.endsInName_shelf (c : Config) : c.shelf.EndsInName := by
  have hlib : separator ∉ (Path.ofText "lib").glyphs := by decide
  have hstep : isStep (Path.ofText "lib").glyphs = true := by decide
  unfold shelf suitePath join
  rw [if_neg (by decide), if_neg (by decide)]
  split
  · rename_i hend
    rcases Bool.or_eq_true_iff.mp hend with hempty | hslash
    · have hglyphs : c.suite.directory.glyphs = [] := List.isEmpty_iff.mp hempty
      refine ⟨[], _, ?_, hstep⟩
      rw [hglyphs, List.nil_append, List.nil_append, Text.splitOn_of_not_mem hlib]
    · obtain ⟨front, hglyphs⟩ := List.getLast?_eq_some_iff.mp (of_decide_eq_true hslash)
      refine ⟨Text.splitOn separator front, _, ?_, hstep⟩
      rw [hglyphs, List.append_assoc, List.singleton_append, Text.splitOn_append_separator,
        Text.splitOn_of_not_mem hlib]
  · exact ⟨_, _, by rw [Text.splitOn_append_separator, Text.splitOn_of_not_mem hlib], hstep⟩

theorem TestSuite.directory_copy (suite : TestSuite) (c : Config) :
    (suite.copy c).directory = c.shelf.below suite.place := by
  have hsplit : (suite.profile .standard).destination.glyphs =
      (Path.ofText "lib").glyphs ++ separator :: suite.place := by
    cases suite <;> rfl
  have hrelative : (suite.profile .standard).destination.isAbsolute = false := by
    cases suite <;> rfl
  have hlib : (Path.ofText "lib").isAbsolute = false := rfl
  have hdirectory : (suite.copy c).directory =
      c.suitePath (suite.profile .standard).destination := rfl
  rw [hdirectory, Config.shelf]
  unfold Config.suitePath join
  rw [hrelative, hlib]
  simp only [Bool.false_eq_true, if_false]
  split
  · simp [below, hsplit]
  · simp [below, hsplit]

/-! ### Beside the shelf -/

/-- A location is that of a copy on a shelf, or lies below one. -/
def OnShelf (shelf l : Location) : Prop :=
  ∃ suite : TestSuite, shelf ++ [suite.place] <+: l

theorem not_onShelf_shelf (shelf : Location) : ¬OnShelf shelf shelf := by
  rintro ⟨suite, hbelow⟩
  have hle := hbelow.length_le
  rw [List.length_append, List.length_singleton] at hle
  omega

namespace FileSystem

variable {shelf l : Location} {fs gs hs : FileSystem} {p : Path} {e : Entry}

structure AlikeBeside (shelf : Location) (fs gs : FileSystem) : Prop where
  here : gs.here = fs.here
  kept : ∀ {l e}, ¬OnShelf shelf l → fs.entry? l = some e → ∃ e', gs.entry? l = some e' ∧ e.Alike e'
  none : ∀ {l}, ¬OnShelf shelf l → fs.entry? l = none → gs.entry? l = none

namespace AlikeBeside

theorem refl (shelf : Location) (fs : FileSystem) : AlikeBeside shelf fs fs :=
  ⟨rfl, fun _ hentry => ⟨_, hentry, .refl _⟩, fun _ hnone => hnone⟩

theorem trans (h : AlikeBeside shelf fs gs) (h' : AlikeBeside shelf gs hs) :
    AlikeBeside shelf fs hs := by
  refine ⟨h'.here.trans h.here, fun hl hentry => ?_, fun hl hnone => h'.none hl (h.none hl hnone)⟩
  obtain ⟨e', hentry', halike⟩ := h.kept hl hentry
  obtain ⟨e'', hentry'', halike'⟩ := h'.kept hl hentry'
  exact ⟨e'', hentry'', halike.trans halike'⟩

end AlikeBeside

/-- Beside a shelf nothing happens but that directories get other time stamps. -/
structure KeepsBeside (shelf : Location) (fs gs : FileSystem) : Prop where
  alike : AlikeBeside shelf fs gs
  entry?_eq : ∀ {l e}, ¬OnShelf shelf l → fs.entry? l = some e → e.isDirectory = false →
    gs.entry? l = some e

namespace KeepsBeside

theorem refl (shelf : Location) (fs : FileSystem) : KeepsBeside shelf fs fs :=
  ⟨.refl shelf fs, fun _ hentry _ => hentry⟩

theorem trans (h : KeepsBeside shelf fs gs) (h' : KeepsBeside shelf gs hs) :
    KeepsBeside shelf fs hs :=
  ⟨h.alike.trans h'.alike, fun hl hentry hfile =>
    h'.entry?_eq hl (h.entry?_eq hl hentry hfile) hfile⟩

end KeepsBeside

/-- What happens in one copy happens on the shelf. -/
theorem SameOutside.keepsBeside {suite : TestSuite}
    (h : SameOutside (shelf ++ [suite.place]) fs gs) : KeepsBeside shelf fs gs := by
  have hoff : ∀ {l}, ¬OnShelf shelf l → gs.entry? l = fs.entry? l :=
    fun hl => h.entry?_eq fun hbelow => hl ⟨suite, hbelow⟩
  refine ⟨⟨h.here, fun hl hentry => ⟨_, (hoff hl).trans hentry, .refl _⟩, fun hl hnone => ?_⟩,
    fun hl hentry _ => (hoff hl).trans hentry⟩
  exact (hoff hl).trans hnone

/-- A new time stamp for the shelf changes nothing else beside it. -/
theorem keepsBeside_of_stamped (hshelf : ∃ d, fs.entry? shelf = some d ∧ d.isDirectory = true)
    (hhere : gs.here = fs.here)
    (h : ∀ {l}, ¬OnShelf shelf l → gs.entry? l = (fs.entry? l).map fun e =>
      if l = shelf then { e with modified := fs.now } else e) : KeepsBeside shelf fs gs := by
  refine ⟨⟨hhere, fun {l e} hl hentry => ?_, fun hl hnone => by rw [h hl, hnone]; rfl⟩,
    fun {l e} hl hentry hfile => ?_⟩
  · rw [h hl, hentry]
    refine ⟨_, rfl, ?_⟩
    split
    · exact ⟨rfl, .inl rfl⟩
    · exact .refl e
  · have hne : l ≠ shelf := by
      rintro rfl
      obtain ⟨d, hd, hdir⟩ := hshelf
      cases hentry.symm.trans hd
      rw [hfile] at hdir
      cases hdir
    rw [h hl, hentry, Option.map_some, if_neg hne]

theorem keepsBeside_remove (suite : TestSuite)
    (hshelf : ∃ d, fs.entry? shelf = some d ∧ d.isDirectory = true) :
    KeepsBeside shelf fs (fs.remove (shelf ++ [suite.place])) := by
  refine keepsBeside_of_stamped hshelf rfl fun {l} hl => ?_
  rw [entry?_remove, if_neg fun hbelow => hl ⟨suite, hbelow⟩, List.dropLast_concat]

theorem keepsBeside_add (suite : TestSuite) (node : Node) (mode : Nat)
    (hshelf : ∃ d, fs.entry? shelf = some d ∧ d.isDirectory = true) :
    KeepsBeside shelf fs (fs.add (shelf ++ [suite.place]) node mode) := by
  refine keepsBeside_of_stamped hshelf rfl fun {l} hl => ?_
  have hne : l ≠ shelf ++ [suite.place] := by
    rintro rfl
    exact hl ⟨suite, List.prefix_refl _⟩
  rw [entry?_add_of_ne fs node mode hne, entry?_stamp, List.dropLast_concat]

/-- A path leads to a location, whatever stands on a shelf. -/
def LeadsBeside (shelf : Location) (fs : FileSystem) (p : Path) (l : Location) : Prop :=
  ∀ gs, AlikeBeside shelf fs gs → ∃ e, gs.status p = .ok (l, e)

namespace LeadsBeside

theorem status (h : LeadsBeside shelf fs p l) : ∃ e, fs.status p = .ok (l, e) :=
  h fs (.refl shelf fs)

theorem of_alikeBeside (h : LeadsBeside shelf fs p l) (halike : AlikeBeside shelf fs gs) :
    LeadsBeside shelf gs p l :=
  fun _ hother => h _ (halike.trans hother)

/-- What does not depend on the shelf does not stand on it. -/
theorem not_onShelf (h : LeadsBeside shelf fs p l) : ¬OnShelf shelf l := by
  rintro ⟨suite, hbelow⟩
  -- Without the copy on it the path would still lead there.
  have hsame : SameOutside (shelf ++ [suite.place]) fs
      (fs.eraseBelow (shelf ++ [suite.place])) :=
    ⟨rfl, fun houtside => (entry?_eraseBelow fs _ _).trans (if_neg houtside)⟩
  obtain ⟨e, hstatus⟩ := h _ hsame.keepsBeside.alike
  exact (entry?_eraseBelow_eq_some.mp (entry?_of_find hstatus)).1 hbelow

/-- What such a path leads to stays as it is, but for the time stamp of a directory. -/
theorem status_of_keepsBeside {l' : Location} (h : LeadsBeside shelf fs p l)
    (hkeeps : KeepsBeside shelf fs gs) (hstatus : fs.status p = .ok (l', e)) :
    ∃ e', gs.status p = .ok (l', e') ∧ e.Alike e' ∧ (e.isDirectory = false → e' = e) := by
  obtain ⟨own, hown⟩ := h.status
  cases hown.symm.trans hstatus
  obtain ⟨e', hstatus'⟩ := h gs hkeeps.alike
  have hentry := entry?_of_find hstatus
  have hentry' := entry?_of_find hstatus'
  obtain ⟨e'', hentry'', halike⟩ := hkeeps.alike.kept h.not_onShelf hentry
  cases hentry'.symm.trans hentry''
  refine ⟨e', hstatus', halike, fun hfile => ?_⟩
  have hsame := hentry'.symm.trans (hkeeps.entry?_eq h.not_onShelf hentry hfile)
  exact Option.some.inj hsame

/-- A path that leads to a place without a shelf leads there beside every shelf. -/
theorem of_within {base : FileSystem} (hwithin : base.Within fs)
    (hfree : ∀ {l}, OnShelf shelf l → base.entry? l = none) (h : base.status p = .ok (l, e)) :
    LeadsBeside shelf fs p l := by
  intro gs halike
  have hbase : base.Within gs := by
    refine ⟨hwithin.here.trans halike.here.symm, fun {m own} hown => ?_⟩
    have hoff : ¬OnShelf shelf m := fun hon => by
      rw [hfree hon] at hown
      cases hown
    obtain ⟨e', hentry', halike'⟩ := hwithin.entry hown
    obtain ⟨e'', hentry'', halike''⟩ := halike.kept hoff hentry'
    exact ⟨e'', hentry'', halike'.trans halike''⟩
  obtain ⟨e', hstatus, -⟩ := hbase.find h
  exact ⟨e', hstatus⟩

end LeadsBeside

end FileSystem

end Launchpad
