import Launchpad.Proofs.FileSystem.Ancestors
import Launchpad.Proofs.Path.Below

/-!
File systems as they come about. Every entry is held by a directory and has a name that a path can
spell, and the number for the next entry is not in use, so that what is written to a new entry is
written nowhere else. What removes entries or adds new ones keeps it so.
-/

namespace Launchpad

/-- A name under which a directory can hold something. -/
structure Name.IsProper (name : Name) : Prop extends Path.IsSingle name where
  notUp : name ≠ Name.up

theorem Path.isProper_of_mem_pieces {p : Path} {piece : Name} (hpiece : piece ∈ p.pieces)
    (hhere : piece ≠ [.char '.']) (hup : piece ≠ Name.up) : Name.IsProper piece := by
  obtain ⟨hmem, hne⟩ := List.mem_filter.mp hpiece
  have hstep : Path.isStep piece = true := by
    simp only [ne_eq, decide_eq_true_eq] at hne
    simp [Path.isStep, hne, hhere]
  exact ⟨⟨Text.separator_not_mem_of_mem_splitOn hmem, hstep⟩, hup⟩

namespace FileSystem

variable {fs made : FileSystem} {p : Path} {l : Location} {e : Entry}

/-- Entries are held by directories, their names are proper, and their numbers have been given. -/
structure Sound (fs : FileSystem) : Prop where
  isTree : fs.IsTree
  isNamed : ∀ {l e}, fs.entry? l = some e → ∀ name ∈ l, Name.IsProper name
  isNumbered : ∀ {l e}, fs.entry? l = some e → e.serial < fs.nextSerial

instance (name : Name) : Decidable (Name.IsProper name) :=
  decidable_of_iff
    (Path.separator ∉ name ∧ Path.isStep name = true ∧ name ≠ Name.up)
    ⟨fun ⟨hwhole, hstep, hup⟩ => ⟨⟨hwhole, hstep⟩, hup⟩,
      fun h => ⟨h.whole, h.isStep, h.notUp⟩⟩

/-- An entry is held by a directory, its name is proper, and its number has been given. -/
def HasPlace (fs : FileSystem) (l : Location) (e : Entry) : Prop :=
  (l = [] ∨ (fs.entry? l.dropLast).any (·.isDirectory) = true) ∧
    (∀ name ∈ l, Name.IsProper name) ∧ e.serial < fs.nextSerial

instance (fs : FileSystem) (l : Location) (e : Entry) : Decidable (fs.HasPlace l e) :=
  inferInstanceAs (Decidable (_ ∧ _))

/-- That a file system is sound can be seen from the rows of its table. -/
theorem sound_of_rows (h : ∀ x ∈ fs.entries, fs.HasPlace x.1 x.2) : fs.Sound := by
  have hplace : ∀ {l e}, fs.entry? l = some e → fs.HasPlace l e := of_entry?_eq_some h
  refine ⟨⟨fun hentry hroot => ?_⟩, fun hentry => (hplace hentry).2.1,
    fun hentry => (hplace hentry).2.2⟩
  exact (Option.any_eq_true _ _).mp ((hplace hentry).1.resolve_left hroot)

/-! ### Trees -/

/-- What stands above an entry is a directory. -/
theorem IsTree.exists_directory (h : fs.IsTree) {m : Location} (hentry : fs.entry? m = some e)
    (habove : l <+: m) (hne : l ≠ m) : ∃ d, fs.entry? l = some d ∧ d.isDirectory = true := by
  obtain ⟨below, rfl⟩ := habove
  induction below using List.reverseRecOn generalizing e with
  | nil => exact absurd (List.append_nil l).symm hne
  | append_singleton below name ih =>
    obtain ⟨d, hd, hdir⟩ := h.held hentry (by simp)
    rw [← List.append_assoc, List.dropLast_concat] at hd
    by_cases hbelow : below = []
    · rw [hbelow, List.append_nil] at hd
      exact ⟨d, hd, hdir⟩
    · exact ih hd (by simpa using hbelow)

/-- Below what is no directory nothing stands. -/
theorem IsTree.entry?_eq_none_below (h : fs.IsTree) (hentry : fs.entry? l = some e)
    (hdir : e.isDirectory = false) {m : Location} (hbelow : l <+: m) (hne : m ≠ l) :
    fs.entry? m = none := by
  cases hm : fs.entry? m with
  | none => rfl
  | some own =>
    obtain ⟨d, hd, hdir'⟩ := h.exists_directory hm hbelow hne.symm
    rw [hentry] at hd
    cases hd
    rw [hdir] at hdir'
    cases hdir'

/-! ### Names of free locations -/

/-- A look-up that ends at a free location ends below a directory at a name that is proper. -/
theorem isProper_of_walk_free {follow : Bool} {links : Nat} {place : Location}
    {pieces : List Name} {onlyDirectory : Bool} {found : Found} (hnamed : fs.Sound)
    (hpieces : ∀ piece ∈ pieces, ∃ q : Path, piece ∈ q.pieces)
    (h : fs.walk follow links place pieces onlyDirectory = .ok found)
    (hfree : found.entry? = none) : ∀ name ∈ found.location, Name.IsProper name := by
  revert h
  fun_induction FileSystem.walk fs follow links place pieces onlyDirectory with
  | case8 links place onlyDirectory piece hsearch hhere hup hfits next hentry =>
    intro h
    cases h
    obtain ⟨d, hd, -⟩ := exists_directory_of_searchable hsearch
    obtain ⟨q, hpiece⟩ := hpieces piece List.mem_cons_self
    intro name hname
    rcases List.mem_append.mp hname with hname | hname
    · exact hnamed.isNamed hd name hname
    · rw [List.mem_singleton.mp hname]
      exact Path.isProper_of_mem_pieces hpiece hhere hup
  | case5 links place onlyDirectory rest hsearch ih
  | case6 links place onlyDirectory rest hsearch _ ih =>
    exact ih fun piece hpiece => hpieces piece (List.mem_cons_of_mem _ hpiece)
  | case13 place onlyDirectory piece rest hsearch hhere hup hfits next e hentry target hnode hstop
      links htarget ih =>
    refine ih fun piece hpiece => ?_
    rcases List.mem_append.mp hpiece with hpiece | hpiece
    · exact ⟨target, hpiece⟩
    · exact hpieces piece (List.mem_cons_of_mem _ hpiece)
  | case14 links place onlyDirectory piece rest hsearch hhere hup hfits next e hentry hnode ih =>
    exact ih fun piece hpiece => hpieces piece (List.mem_cons_of_mem _ hpiece)
  | case3 | case10 =>
    intro h
    cases h
    cases hfree
  | case1 | case2 | case4 | case7 | case9 | case11 | case12 =>
    intro h
    cases h

theorem Sound.isProper_of_locate_free (h : fs.Sound) {follow : Bool}
    (hlocate : fs.locate p follow = .ok ⟨l, none⟩) : ∀ name ∈ l, Name.IsProper name :=
  isProper_of_walk_free h (fun _ hpiece => ⟨p, hpiece⟩) (locate_eq_ok.mp hlocate).2 rfl

/-! ### Changes -/

/-- All that stands in a file system stood in another one, with the same number. -/
def Thins (fs gs : FileSystem) : Prop :=
  ∀ ⦃l e⦄, gs.entry? l = some e → ∃ own, fs.entry? l = some own ∧ e.serial = own.serial ∧
    e.isDirectory = own.isDirectory

theorem thins_stamp (fs : FileSystem) (l : Location) : fs.Thins (fs.stamp l) := by
  intro m e hentry
  rw [entry?_stamp, Option.map_eq_some_iff] at hentry
  obtain ⟨own, hown, rfl⟩ := hentry
  exact ⟨own, hown, by split <;> rfl, by split <;> rfl⟩

theorem thins_remove (fs : FileSystem) (l : Location) : fs.Thins (fs.remove l) := by
  intro m e hentry
  rw [entry?_remove] at hentry
  split at hentry
  · cases hentry
  · obtain ⟨own, hown, rfl⟩ := Option.map_eq_some_iff.mp hentry
    exact ⟨own, hown, by split <;> rfl, by split <;> rfl⟩

/-- Other permissions and another time for the entries of one number. -/
theorem thins_alter (fs : FileSystem) (serial : Nat) {change : Entry → Entry}
    (hchange : ∀ e, (change e).node = e.node ∧ (change e).serial = e.serial) :
    fs.Thins (fs.alter serial change) := by
  intro m e hentry
  rw [entry?_alter, Option.map_eq_some_iff] at hentry
  obtain ⟨own, hown, rfl⟩ := hentry
  refine ⟨own, hown, ?_, ?_⟩
  · split
    · exact (hchange own).2
    · rfl
  · split
    · rw [Entry.isDirectory, (hchange own).1, Entry.isDirectory]
    · rfl

/-- An entry comes to stand under a name in a directory, which is stamped, and nothing else is
changed. -/
structure Gains (place : Location) (name : Name) (own : Entry) (fs gs : FileSystem) : Prop where
  here : gs.here = fs.here
  clock : fs.now ≤ gs.now
  holder : ∃ d, fs.entry? place = some d ∧ d.isDirectory = true
  free : fs.entry? (place ++ [name]) = none
  self : gs.entry? (place ++ [name]) = some own
  others : ∀ {m}, m ≠ place ++ [name] → gs.entry? m = FileSystem.entry? (fs.stamp place) m
  grows : fs.nextSerial ≤ gs.nextSerial
  numbered : own.serial < gs.nextSerial

/-- What is added where a directory holds a free location. -/
theorem exists_gains_add (hfree : fs.entry? l = none)
    (hholder : ∃ d, fs.entry? l.dropLast = some d ∧ d.isDirectory = true) (node : Node)
    (mode : Nat) :
    ∃ place name, l = place ++ [name] ∧
      Gains place name ⟨fs.nextSerial, node, mode, fs.now⟩ fs (fs.add l node mode) := by
  have hroot : l ≠ [] := by
    rintro rfl
    obtain ⟨d, hd, -⟩ := hholder
    rw [List.dropLast_nil, hfree] at hd
    cases hd
  have hl := List.dropLast_append_getLast hroot
  exact
    ⟨l.dropLast, l.getLast hroot, hl.symm,
      { here := rfl
        clock := fs.now_le_add l node mode
        holder := hholder
        free := by rwa [hl]
        self := by rw [hl, entry?_add_self]
        others := fun {m} hm => entry?_add_of_ne fs node mode (by rwa [hl] at hm)
        grows := Nat.le_succ fs.nextSerial
        numbered := Nat.lt_succ_self fs.nextSerial }⟩

namespace Gains

variable {place : Location} {name : Name} {own : Entry} {gs : FileSystem}
  (h : Gains place name own fs gs)
include h

/-- Beside the new entry nothing is new. -/
theorem eq_or_old (hentry : gs.entry? l = some e) :
    l = place ++ [name] ∧ e = own ∨
      l ≠ place ++ [name] ∧ ∃ old, fs.entry? l = some old ∧ e.serial = old.serial ∧
        e.isDirectory = old.isDirectory := by
  by_cases hl : l = place ++ [name]
  · rw [hl, h.self, Option.some.injEq] at hentry
    exact .inl ⟨hl, hentry.symm⟩
  · rw [h.others hl] at hentry
    exact .inr ⟨hl, thins_stamp fs place hentry⟩

theorem within : fs.Within gs := by
  refine ⟨h.here.symm, fun {l e} hentry => ?_⟩
  have hl : l ≠ place ++ [name] := by
    rintro rfl
    rw [h.free] at hentry
    cases hentry
  rw [h.others hl, entry?_stamp, hentry]
  refine ⟨_, rfl, ?_⟩
  split
  · exact ⟨rfl, .inl rfl⟩
  · exact .refl e

theorem isTree (htree : fs.IsTree) : gs.IsTree := by
  refine ⟨fun {l e} hentry hroot => ?_⟩
  have hheld : ∃ d, fs.entry? l.dropLast = some d ∧ d.isDirectory = true := by
    rcases h.eq_or_old hentry with ⟨rfl, -⟩ | ⟨-, old, hold, -⟩
    · rw [List.dropLast_concat]
      exact h.holder
    · exact htree.held hold hroot
  obtain ⟨d, hd, hdir⟩ := hheld
  obtain ⟨d', hd', halike⟩ := h.within.entry hd
  exact ⟨d', hd', halike.isDirectory_eq ▸ hdir⟩

theorem sound (hsound : fs.Sound) (hnames : ∀ n ∈ place ++ [name], Name.IsProper n) :
    gs.Sound := by
  refine ⟨h.isTree hsound.isTree, fun hentry => ?_, fun hentry => ?_⟩
  · rcases h.eq_or_old hentry with ⟨rfl, -⟩ | ⟨-, old, hold, -⟩
    · exact hnames
    · exact hsound.isNamed hold
  · rcases h.eq_or_old hentry with ⟨-, rfl⟩ | ⟨-, old, hold, hserial, -⟩
    · exact h.numbered
    · rw [hserial]
      exact Nat.lt_of_lt_of_le (hsound.isNumbered hold) h.grows

end Gains

namespace Sound

variable {gs : FileSystem}

theorem of_thins (h : fs.Sound) (hthins : fs.Thins gs) (htree : gs.IsTree)
    (hgrows : fs.nextSerial ≤ gs.nextSerial) : gs.Sound := by
  refine ⟨htree, fun hentry => ?_, fun hentry => ?_⟩
  · obtain ⟨own, hown, -⟩ := hthins hentry
    exact h.isNamed hown
  · obtain ⟨own, hown, hserial, -⟩ := hthins hentry
    rw [hserial]
    exact Nat.lt_of_lt_of_le (h.isNumbered hown) hgrows

/-- A new entry at a location that a directory holds. -/
theorem add (h : fs.Sound) (hfree : fs.entry? l = none)
    (hholder : ∃ d, fs.entry? l.dropLast = some d ∧ d.isDirectory = true)
    (hnames : ∀ name ∈ l, Name.IsProper name) (node : Node) (mode : Nat) :
    (fs.add l node mode).Sound := by
  obtain ⟨place, name, rfl, hgains⟩ := exists_gains_add hfree hholder node mode
  exact hgains.sound h hnames

theorem remove (h : fs.Sound) (l : Location) : (fs.remove l).Sound :=
  h.of_thins (thins_remove fs l) (h.isTree.remove l) (Nat.le_refl _)

theorem alter (h : fs.Sound) (serial : Nat) {change : Entry → Entry}
    (hchange : ∀ e, (change e).node = e.node ∧ (change e).serial = e.serial) :
    (fs.alter serial change).Sound := by
  refine h.of_thins (thins_alter fs serial hchange) ⟨fun hentry hroot => ?_⟩ (Nat.le_refl _)
  obtain ⟨own, hown, -⟩ := thins_alter fs serial hchange hentry
  obtain ⟨d, hd, hdir⟩ := h.isTree.held hown hroot
  refine ⟨if d.serial = serial then change d else d, by rw [entry?_alter, hd, Option.map_some], ?_⟩
  split
  · rwa [Entry.isDirectory, (hchange d).1]
  · exact hdir

theorem makeDirectory (h : fs.Sound) (hmade : fs.makeDirectory p = .ok made) : made.Sound := by
  obtain ⟨l, -, hlocate, -, rfl⟩ := makeDirectory_eq_ok.mp hmade
  exact h.add (entry?_of_locate hlocate) (holder_of_walk_free (locate_eq_ok.mp hlocate).2 rfl)
    (h.isProper_of_locate_free hlocate) _ _

theorem makeDirectories (h : fs.Sound) {outcome : Except IoError Unit}
    (hmade : fs.makeDirectories p = (outcome, made)) : made.Sound :=
  makeDirectoriesFuel_preserves (fun _ hgs hone => hgs.makeDirectory hone) h hmade

end Sound

/-! ### Directories with one name -/

/-- A sound file system in which no directory stands at two locations. -/
structure WellFormed (fs : FileSystem) : Prop extends Sound fs where
  unshared : ∀ {l m e e'}, fs.entry? l = some e → fs.entry? m = some e' →
    e.serial = e'.serial → e.isDirectory = true → l = m

/-- That a file system is well-formed can be seen from the rows of its table. -/
theorem wellFormed_of_rows (h : ∀ x ∈ fs.entries, fs.HasPlace x.1 x.2)
    (hone : ∀ x ∈ fs.entries, ∀ y ∈ fs.entries, x.2.serial = y.2.serial →
      x.2.isDirectory = true → x.1 = y.1) : fs.WellFormed := by
  refine ⟨sound_of_rows h, fun {l m e e'} hl hm => ?_⟩
  have hrow : ∀ y ∈ fs.entries, e.serial = y.2.serial → e.isDirectory = true → l = y.1 :=
    of_entry?_eq_some (P := fun l e => ∀ y ∈ fs.entries, e.serial = y.2.serial →
      e.isDirectory = true → l = y.1) hone hl
  exact of_entry?_eq_some (P := fun m e' => e.serial = e'.serial → e.isDirectory = true → l = m)
    hrow hm

namespace WellFormed

variable {gs : FileSystem} (h : fs.WellFormed)
include h

theorem of_thins (hthins : fs.Thins gs) (hsound : gs.Sound) : gs.WellFormed := by
  refine ⟨hsound, fun hl hm hserial hdir => ?_⟩
  obtain ⟨own, hown, hserial', hsame⟩ := hthins hl
  obtain ⟨own', hown', hserial'', -⟩ := hthins hm
  rw [hsame] at hdir
  rw [hserial', hserial''] at hserial
  exact h.unshared hown hown' hserial hdir

/-- Where the same stands at the same places, up to times and contents. -/
theorem of_within (hwithin : fs.Within gs) (hthins : fs.Thins gs)
    (hgrows : fs.nextSerial ≤ gs.nextSerial) : gs.WellFormed := by
  refine h.of_thins hthins (h.toSound.of_thins hthins ⟨fun hentry hroot => ?_⟩ hgrows)
  obtain ⟨own, hown, -⟩ := hthins hentry
  obtain ⟨d, hd, hdir⟩ := h.isTree.held hown hroot
  obtain ⟨d', hd', halike⟩ := hwithin.entry hd
  exact ⟨d', hd', halike.isDirectory_eq ▸ hdir⟩

theorem remove (l : Location) : (fs.remove l).WellFormed :=
  h.of_thins (thins_remove fs l) (h.toSound.remove l)

theorem alter (serial : Nat) {change : Entry → Entry}
    (hchange : ∀ e, (change e).node = e.node ∧ (change e).serial = e.serial) :
    (fs.alter serial change).WellFormed :=
  h.of_thins (thins_alter fs serial hchange) (h.toSound.alter serial hchange)

/-- The number of a new entry is its own, unless the entry is no directory and is shared with
another that is none. -/
theorem gains {place : Location} {name : Name} {own : Entry} (hgains : Gains place name own fs gs)
    (hnames : ∀ n ∈ place ++ [name], Name.IsProper n)
    (hown : ∀ {m old}, fs.entry? m = some old → old.serial = own.serial →
      old.isDirectory = false ∧ own.isDirectory = false) : gs.WellFormed := by
  refine ⟨hgains.sound h.toSound hnames, fun hl hm hserial hdir => ?_⟩
  rcases hgains.eq_or_old hl with ⟨rfl, rfl⟩ | ⟨-, old, hold, hserial', hsame⟩
  · rcases hgains.eq_or_old hm with ⟨rfl, -⟩ | ⟨-, old', hold', hserial'', -⟩
    · rfl
    · obtain ⟨-, hfile⟩ := hown hold' (hserial''.symm.trans hserial.symm)
      rw [hfile] at hdir
      cases hdir
  · rw [hsame] at hdir
    rcases hgains.eq_or_old hm with ⟨rfl, rfl⟩ | ⟨-, old', hold', hserial'', -⟩
    · obtain ⟨hfile, -⟩ := hown hold (hserial'.symm.trans hserial)
      rw [hdir] at hfile
      cases hfile
    · rw [hserial', hserial''] at hserial
      exact h.unshared hold hold' hserial hdir

theorem add (hfree : fs.entry? l = none)
    (hholder : ∃ d, fs.entry? l.dropLast = some d ∧ d.isDirectory = true)
    (hnames : ∀ name ∈ l, Name.IsProper name) (node : Node) (mode : Nat) :
    (fs.add l node mode).WellFormed := by
  obtain ⟨place, name, rfl, hgains⟩ := exists_gains_add hfree hholder node mode
  refine h.gains hgains hnames fun hold hserial => ?_
  exact absurd hserial (Nat.ne_of_lt (h.isNumbered hold))

theorem makeDirectory (hmade : fs.makeDirectory p = .ok made) : made.WellFormed := by
  obtain ⟨l, -, hlocate, -, rfl⟩ := makeDirectory_eq_ok.mp hmade
  exact h.add (entry?_of_locate hlocate) (holder_of_walk_free (locate_eq_ok.mp hlocate).2 rfl)
    (h.isProper_of_locate_free hlocate) _ _

theorem makeDirectories {outcome : Except IoError Unit}
    (hmade : fs.makeDirectories p = (outcome, made)) : made.WellFormed :=
  makeDirectoriesFuel_preserves (fun _ hgs hone => hgs.makeDirectory hone) h hmade

end WellFormed

end FileSystem

end Launchpad
