import Launchpad.Proofs.FileSystem.Sound

/-!
Changes inside one directory. They leave everything else alone, so a path that leads to the
directory without going through what it holds still leads there. As long as the directory holds only
files and directories, the absolute path of a place in it leads to this place and to no other.
-/

namespace Launchpad

namespace Location

variable {l : Location}

theorem pieces_toPath (h : ∀ name ∈ l, Name.IsProper name) : l.toPath.pieces = l := by
  have hsplit : l.toPath.pieces =
      (Text.splitOn Path.separator (Text.joinWith Path.separator l)).filter (· ≠ []) := by
    rw [Path.pieces, toPath, Text.splitOn_cons_separator]
    rfl
  rw [hsplit]
  by_cases hl : l = []
  · rw [hl]
    rfl
  · rw [Text.splitOn_joinWith hl fun name hname => (h name hname).whole, List.filter_eq_self]
    intro name hname
    simpa using (h name hname).ne_nil

theorem isAbsolute_toPath (l : Location) : l.toPath.isAbsolute = true := rfl

end Location

/-- What a tree holds, seen from its top. -/
abbrev Tree := Location → Option Node

def Tree.empty : Tree := fun below => if below = [] then some .directory else none

namespace FileSystem

variable {fs gs hs : FileSystem} {p : Path} {top l : Location} {names : List Name} {e : Entry}

/-! ### One directory and the rest -/

def IsDirectoryAt (fs : FileSystem) (p : Path) (top : Location) : Prop :=
  ∃ e, fs.status p = .ok (top, e) ∧ e.isDirectory = true

/-- Nothing is changed but what a directory holds, and its own time stamp. -/
structure ChangesInside (top : Location) (fs gs : FileSystem) : Prop
    extends SameOutside top fs gs where
  alike : ∀ {e}, fs.entry? top = some e → ∃ e', gs.entry? top = some e' ∧ e.Alike e'

theorem ChangesInside.refl (top : Location) (fs : FileSystem) : ChangesInside top fs fs :=
  ⟨.refl top fs, fun {e} hentry => ⟨e, hentry, .refl e⟩⟩

theorem ChangesInside.trans (h : ChangesInside top fs gs) (h' : ChangesInside top gs hs) :
    ChangesInside top fs hs := by
  refine ⟨h.toSameOutside.trans h'.toSameOutside, fun {e} hentry => ?_⟩
  obtain ⟨e', hentry', halike⟩ := h.alike hentry
  obtain ⟨e'', hentry'', halike'⟩ := h'.alike hentry'
  exact ⟨e'', hentry'', halike.trans halike'⟩

/-- A path leads to a directory, whatever this directory holds. -/
def LeadsStraight (fs : FileSystem) (p : Path) (top : Location) : Prop :=
  (fs.eraseInside top).IsDirectoryAt p top

theorem entry?_eraseInside_eq_some :
    entry? (fs.eraseInside top) l = some e ↔ (l = top ∨ ¬top <+: l) ∧ fs.entry? l = some e := by
  rw [entry?_eraseInside]
  by_cases hl : l = top
  · simp [hl]
  · by_cases hbelow : top <+: l
    · simp [hl, hbelow]
    · simp [hl, hbelow]

theorem Within.isDirectoryAt (h : fs.Within gs) (hleads : fs.IsDirectoryAt p top) :
    gs.IsDirectoryAt p top := by
  obtain ⟨e, hstatus, hdir⟩ := hleads
  obtain ⟨e', hstatus', halike⟩ := h.find hstatus
  exact ⟨e', hstatus', halike.isDirectory_eq ▸ hdir⟩

theorem LeadsStraight.isDirectoryAt (h : fs.LeadsStraight p top) : fs.IsDirectoryAt p top := by
  have hwithin : (fs.eraseInside top).Within fs :=
    ⟨rfl, fun {_ e} hentry => ⟨e, (entry?_eraseInside_eq_some.mp hentry).2, .refl e⟩⟩
  exact hwithin.isDirectoryAt h

theorem below_eq_top_of_empty {below : List Name} (hempty : fs.treeAt top = Tree.empty)
    (hentry : fs.entry? (top ++ below) = some e) : below = [] := by
  by_contra hne
  have hnone := congrFun hempty below
  rw [treeAt, hentry, Tree.empty, if_neg hne] at hnone
  cases hnone

/-- A directory that is made where nothing was holds nothing. -/
theorem treeAt_add_directory (htree : fs.IsTree) (hfree : fs.entry? top = none) (mode : Nat) :
    treeAt (fs.add top .directory mode) top = Tree.empty := by
  funext below
  by_cases hbelow : below = []
  · rw [hbelow, treeAt, List.append_nil, entry?_add_self]
    rfl
  · have hne : top ++ below ≠ top := by simpa using hbelow
    rw [treeAt, entry?_add_of_ne fs .directory mode hne, entry?_stamp,
      htree.entry?_eq_none hfree (List.prefix_append top below), Tree.empty, if_neg hbelow]
    rfl

/-- To a directory that holds nothing every path leads straight. -/
theorem IsDirectoryAt.leadsStraight (h : fs.IsDirectoryAt p top)
    (hempty : fs.treeAt top = Tree.empty) : fs.LeadsStraight p top := by
  have hwithin : fs.Within (fs.eraseInside top) := by
    refine ⟨rfl, fun {l e} hentry => ⟨e, entry?_eraseInside_eq_some.mpr ⟨?_, hentry⟩, .refl e⟩⟩
    by_cases hbelow : top <+: l
    · obtain ⟨below, rfl⟩ := hbelow
      exact .inl (by rw [below_eq_top_of_empty hempty hentry, List.append_nil])
    · exact .inr hbelow
  exact hwithin.isDirectoryAt h

/-- What is put into a directory that held nothing comes on top of what there was. -/
theorem ChangesInside.within (h : ChangesInside top fs gs) (hempty : fs.treeAt top = Tree.empty) :
    fs.Within gs := by
  refine ⟨h.here.symm, fun {l e} hentry => ?_⟩
  by_cases hbelow : top <+: l
  · obtain ⟨below, rfl⟩ := hbelow
    cases below_eq_top_of_empty hempty hentry
    rw [List.append_nil] at hentry ⊢
    exact h.alike hentry
  · exact ⟨e, by rw [h.entry?_eq hbelow, hentry], .refl e⟩

theorem ChangesInside.leadsStraight (h : ChangesInside top fs gs)
    (hleads : fs.LeadsStraight p top) : gs.LeadsStraight p top := by
  have hwithin : (fs.eraseInside top).Within (gs.eraseInside top) := by
    refine ⟨h.here.symm, fun {l e} hshell => ?_⟩
    obtain ⟨hl, hentry⟩ := entry?_eraseInside_eq_some.mp hshell
    by_cases htop : l = top
    · rw [htop] at hentry ⊢
      obtain ⟨e', hentry', halike⟩ := h.alike hentry
      exact ⟨e', entry?_eraseInside_eq_some.mpr ⟨.inl rfl, hentry'⟩, halike⟩
    · have houtside := hl.resolve_left htop
      refine ⟨e, entry?_eraseInside_eq_some.mpr ⟨.inr houtside, ?_⟩, .refl e⟩
      rw [h.entry?_eq houtside, hentry]
  exact hwithin.isDirectoryAt hleads

/-! ### Files and directories alone -/

/-- A directory with nothing but files and directories in it. -/
structure IsPlain (fs : FileSystem) (top : Location) : Prop where
  sound : fs.Sound
  isDirectory : ∃ e, fs.entry? top = some e ∧ e.isDirectory = true
  noLink : ∀ {below e target}, fs.entry? (top ++ below) = some e → e.node ≠ .link target

namespace IsPlain

variable (h : fs.IsPlain top)
include h

theorem isProper {name : Name} (hname : name ∈ top) : Name.IsProper name := by
  obtain ⟨e, hentry, -⟩ := h.isDirectory
  exact h.sound.isNamed hentry name hname

theorem isProper_append (hnames : ∀ name ∈ names, Name.IsProper name) :
    ∀ name ∈ top ++ names, Name.IsProper name := by
  intro name hname
  rcases List.mem_append.mp hname with hname | hname
  · exact h.isProper hname
  · exact hnames name hname

/-- Down from the root there is no link on the way to a place in the directory. -/
theorem noLink_above {target : Path} (hfront : l <+: top ++ names)
    (hentry : fs.entry? l = some e) : e.node ≠ .link target := by
  intro hnode
  rcases List.prefix_or_prefix_of_prefix hfront (List.prefix_append top names) with
    habove | hbelow
  · obtain ⟨own, hown, hdir⟩ := h.isDirectory
    have hdir' : e.isDirectory = true := by
      by_cases hl : l = top
      · rw [hl, hown] at hentry
        cases hentry
        exact hdir
      · obtain ⟨d, hd, hdir'⟩ := h.sound.isTree.exists_directory hown habove hl
        rw [hentry] at hd
        cases hd
        exact hdir'
    simp [Entry.isDirectory, hnode] at hdir'
  · obtain ⟨below, rfl⟩ := hbelow
    exact h.noLink hentry hnode

end IsPlain

/-- Where no piece goes up and none is a link, a look-up goes down piece by piece. -/
theorem location_of_walk {follow : Bool} {links : Nat} {place : Location} {pieces : List Name}
    {onlyDirectory : Bool} {found : Found} (hproper : ∀ piece ∈ pieces, Name.IsProper piece)
    (hlinks : ∀ {m e target}, m <+: place ++ pieces → fs.entry? m = some e →
      e.node ≠ .link target)
    (h : fs.walk follow links place pieces onlyDirectory = .ok found) :
    found.location = place ++ pieces := by
  induction pieces generalizing place with
  | nil =>
    rw [walk_nil] at h
    split at h
    · cases h
    · split at h
      · cases h
      · cases h
        exact (List.append_nil place).symm
  | cons piece rest ih =>
    obtain ⟨hpiece, hrest⟩ := List.forall_mem_cons.mp hproper
    have hassoc : place ++ piece :: rest = place ++ [piece] ++ rest := by simp
    have hhere : piece ≠ [.char '.'] := by
      rintro rfl
      cases hpiece.isStep
    cases hsearch : fs.searchable place with
    | error n =>
      rw [walk_unsearchable hsearch] at h
      cases h
    | ok u =>
      by_cases hlong : (Name.bytes piece).length > nameLimit
      · rw [walk_long hsearch hhere hpiece.notUp hlong] at h
        cases h
      · have hdown : Descends piece := ⟨hhere, hpiece.notUp, hlong⟩
        cases hentry : fs.entry? (place ++ [piece]) with
        | none =>
          rw [walk_missing hsearch hdown hentry] at h
          split at h
          · rename_i hlast
            cases h
            rw [hlast]
          · cases h
        | some e =>
          have hnode : ∀ target, e.node ≠ .link target := fun target =>
            hlinks (hassoc ▸ List.prefix_append _ _) hentry
          rw [walk_on hsearch hdown hentry hnode] at h
          rw [hassoc] at hlinks ⊢
          exact ih hrest hlinks h

/-- A look-up from the root through names on the way to a place in the directory arrives where the
names say. -/
theorem IsPlain.location_of_locate (h : fs.IsPlain top)
    (hnames : ∀ name ∈ names, Name.IsProper name) {q : Path} (habsolute : q.isAbsolute = true)
    (hpieces : q.pieces <+: top ++ names) {follow : Bool} {found : Found}
    (hlocate : fs.locate q follow = .ok found) : found.location = q.pieces := by
  have hwalk := (locate_eq_ok.mp hlocate).2
  rw [startOf, if_pos habsolute] at hwalk
  refine location_of_walk (fun piece hpiece => ?_) (fun hfront => ?_) hwalk
  · exact h.isProper_append hnames piece (hpieces.subset hpiece)
  · exact h.noLink_above (hfront.trans hpieces)

theorem IsPlain.location_of_locate_toPath (h : fs.IsPlain top)
    (hnames : ∀ name ∈ names, Name.IsProper name) (hfront : l <+: top ++ names) {follow : Bool}
    {found : Found} (hlocate : fs.locate l.toPath follow = .ok found) : found.location = l := by
  have hpieces : l.toPath.pieces = l := Location.pieces_toPath fun name hname =>
    h.isProper_append hnames name (hfront.subset hname)
  rw [← hpieces] at hfront
  have hlocation := h.location_of_locate hnames (Location.isAbsolute_toPath l) hfront hlocate
  rwa [hpieces] at hlocation

end FileSystem

end Launchpad
