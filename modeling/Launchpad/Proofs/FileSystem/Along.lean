import Launchpad.Proofs.FileSystem.Inside

/-!
Changes at one place inside a directory and on the way there. What is done to the absolute path of
the place, as long as the directory holds only files and directories, changes nothing else: making
the directories on the way, taking away the file that was there, writing a new one.
-/

namespace Launchpad

namespace FileSystem

open Results

variable {fs gs hs : FileSystem} {top l : Location} {names : List Name} {e : Entry}

/-- A directory holds files and directories alone, and nothing was changed but at a place in it and
on the way there. -/
structure ChangesAlong (top : Location) (names : List Name) (fs gs : FileSystem) : Prop
    extends ChangesInside top fs gs where
  isPlain : gs.IsPlain top
  others : ∀ {below}, ¬below <+: names → gs.treeAt top below = fs.treeAt top below

theorem ChangesAlong.refl (h : fs.IsPlain top) (names : List Name) :
    ChangesAlong top names fs fs :=
  ⟨.refl top fs, h, fun _ => rfl⟩

theorem ChangesAlong.trans (h : ChangesAlong top names fs gs) (h' : ChangesAlong top names gs hs) :
    ChangesAlong top names fs hs :=
  ⟨h.toChangesInside.trans h'.toChangesInside, h'.isPlain,
    fun hbelow => (h'.others hbelow).trans (h.others hbelow)⟩

theorem node_stamp (fs : FileSystem) (l m : Location) :
    (FileSystem.entry? (fs.stamp l) m).map (·.node) = (fs.entry? m).map (·.node) := by
  rw [entry?_stamp, Option.map_map]
  congr 1
  funext e
  simp only [Function.comp_apply]
  split <;> rfl

/-- What holds a place in a directory is not outside of it. -/
theorem entry?_stamp_holder {below : List Name} (hne : below ≠ []) (houtside : ¬top <+: l) :
    FileSystem.entry? (fs.stamp (top ++ below).dropLast) l = fs.entry? l := by
  have hholder : l ≠ (top ++ below).dropLast := by
    rw [List.dropLast_append_of_ne_nil hne]
    exact fun heq => houtside (heq ▸ List.prefix_append top below.dropLast)
  rw [entry?_stamp]
  simp [hholder]

section Along

variable (h : fs.IsPlain top) (hnames : ∀ name ∈ names, Name.IsProper name)
include h

/-- A change inside the directory that brings no link stays on the way if it shows nowhere else. -/
theorem IsPlain.changesAlong (hinside : ChangesInside top fs gs) (hsound : gs.Sound)
    (hlinks : ∀ {below target}, gs.treeAt top below = some (.link target) →
      fs.treeAt top below = some (.link target))
    (hothers : ∀ {below}, ¬below <+: names → gs.treeAt top below = fs.treeAt top below) :
    ChangesAlong top names fs gs := by
  refine ⟨hinside, ⟨hsound, ?_, fun {below e target} hentry hnode => ?_⟩, hothers⟩
  · obtain ⟨e, hentry, hdir⟩ := h.isDirectory
    obtain ⟨e', hentry', hsame⟩ := hinside.alike hentry
    exact ⟨e', hentry', hsame.isDirectory_eq ▸ hdir⟩
  · have hlink : gs.treeAt top below = some (.link target) := by
      rw [treeAt, hentry, Option.map_some, hnode]
    obtain ⟨own, hown, hown'⟩ := Option.map_eq_some_iff.mp (hlinks hlink)
    exact h.noLink hown hown'

include hnames in
/-- A new file or directory on the way. -/
theorem IsPlain.add {below : List Name} (hbelow : below <+: names) (hne : below ≠ [])
    (hfree : fs.entry? (top ++ below) = none)
    (hholder : ∃ d, fs.entry? (top ++ below).dropLast = some d ∧ d.isDirectory = true)
    {node : Node} (hnode : ∀ target, node ≠ .link target) (mode : Nat) :
    ChangesAlong top names fs (fs.add (top ++ below) node mode) := by
  have hkept : ∀ {other}, other ≠ below →
      treeAt (fs.add (top ++ below) node mode) top other = fs.treeAt top other := by
    intro other hother
    have hm : top ++ other ≠ top ++ below := by simpa using hother
    rw [treeAt, treeAt, entry?_add_of_ne fs node mode hm, node_stamp]
  have hsound : (fs.add (top ++ below) node mode).Sound :=
    h.sound.add hfree hholder
      (h.isProper_append fun name hname => hnames name (hbelow.subset hname)) node mode
  have hinside : ChangesInside top fs (fs.add (top ++ below) node mode) := by
    refine ⟨⟨rfl, fun {l} houtside => ?_⟩, (within_add hfree mode node).entry⟩
    have hl : l ≠ top ++ below := fun heq => houtside (heq ▸ List.prefix_append top below)
    rw [entry?_add_of_ne fs node mode hl, entry?_stamp_holder hne houtside]
  refine h.changesAlong hinside hsound (fun {other target} hlink => ?_) fun {other} hother => ?_
  · by_cases hplace : other = below
    · rw [hplace, treeAt, entry?_add_self, Option.map_some, Option.some.injEq] at hlink
      exact absurd hlink (hnode target)
    · rwa [← hkept hplace]
  · exact hkept fun heq => hother (heq ▸ hbelow)

/-- The file at the place taken away. -/
theorem IsPlain.remove (hne : names ≠ []) (hentry : fs.entry? (top ++ names) = some e)
    (hfile : e.isDirectory = false) : ChangesAlong top names fs (fs.remove (top ++ names)) := by
  have hkept : ∀ {m}, ¬top ++ names <+: m →
      entry? (fs.remove (top ++ names)) m = entry? (fs.stamp (top ++ names).dropLast) m := by
    intro m hm
    rw [entry?_remove, if_neg hm, entry?_stamp]
  have hinside : ChangesInside top fs (fs.remove (top ++ names)) := by
    refine ⟨⟨rfl, fun {l} houtside => ?_⟩, fun {e} hentry => ?_⟩
    · have hl : ¬top ++ names <+: l := fun hfront =>
        houtside ((List.prefix_append top names).trans hfront)
      rw [hkept hl, entry?_stamp_holder hne houtside]
    · have htop : ¬top ++ names <+: top := by
        intro hfront
        have hlength := hfront.length_le
        rw [List.length_append] at hlength
        exact hne (List.length_eq_zero_iff.mp (by omega))
      rw [hkept htop, entry?_stamp, hentry]
      refine ⟨_, rfl, ?_⟩
      split
      · exact ⟨rfl, .inl rfl⟩
      · exact .refl e
  refine h.changesAlong hinside (h.sound.remove _) (fun {below target} hlink => ?_)
    fun {below} hother => ?_
  · by_cases hm : top ++ names <+: top ++ below
    · rw [treeAt, entry?_remove, if_pos hm] at hlink
      cases hlink
    · rwa [treeAt, hkept hm, node_stamp] at hlink
  · rw [treeAt, treeAt]
    by_cases hm : top ++ names <+: top ++ below
    · -- Nothing stood below the file.
      have hplace : top ++ below ≠ top ++ names := fun heq => by
        rw [List.append_cancel_left_eq] at heq
        exact hother (heq ▸ List.prefix_refl _)
      rw [entry?_remove, if_pos hm, h.sound.isTree.entry?_eq_none_below hentry hfile hm hplace]
    · rw [hkept hm, node_stamp]

/-- A file has the place, and shares its entry with no other. -/
structure IsWritten (fs : FileSystem) (l : Location) (content : ByteArray) (e : Entry) : Prop where
  entry : fs.entry? l = some e
  node : e.node = .file content
  alone : ∀ {m own}, fs.entry? m = some own → own.serial = e.serial → m = l

/-- Other permissions, or another time, for the file at the place. -/
theorem IsPlain.alter {content : ByteArray} (hwritten : fs.IsWritten (top ++ names) content e)
    (hne : names ≠ []) {change : Entry → Entry}
    (hchange : ∀ e, (change e).node = e.node ∧ (change e).serial = e.serial) :
    ChangesAlong top names fs (fs.alter e.serial change) ∧
      FileSystem.IsWritten (fs.alter e.serial change) (top ++ names) content (change e) := by
  have hnode : ∀ m, (FileSystem.entry? (fs.alter e.serial change) m).map (·.node) =
      (fs.entry? m).map (·.node) := by
    intro m
    rw [entry?_alter, Option.map_map]
    congr 1
    funext own
    simp only [Function.comp_apply]
    split
    · exact (hchange own).1
    · rfl
  have hkept : ∀ {m}, m ≠ top ++ names →
      entry? (fs.alter e.serial change) m = fs.entry? m := by
    intro m hm
    rw [entry?_alter]
    cases hentry : fs.entry? m with
    | none => rfl
    | some own =>
      have hother : own.serial ≠ e.serial := fun hserial => hm (hwritten.alone hentry hserial)
      rw [Option.map_some, if_neg hother]
  have hinside : ChangesInside top fs (fs.alter e.serial change) := by
    refine ⟨⟨rfl, fun {l} houtside => hkept ?_⟩, fun {own} hentry => ⟨own, ?_, .refl own⟩⟩
    · exact fun heq => houtside (heq ▸ List.prefix_append top names)
    · have htop : top ≠ top ++ names := by simpa using hne
      rw [hkept htop, hentry]
  refine ⟨h.changesAlong hinside (h.sound.alter _ hchange) (fun hlink => ?_) fun _ => hnode _,
    ?_, ?_, ?_⟩
  · rwa [treeAt, hnode] at hlink
  · rw [entry?_alter, hwritten.entry, Option.map_some, if_pos rfl]
  · exact (hchange e).1.trans hwritten.node
  · intro m own hentry hserial
    rw [entry?_alter, Option.map_eq_some_iff] at hentry
    obtain ⟨own', hown', rfl⟩ := hentry
    refine hwritten.alone hown' ?_
    rw [(hchange e).2] at hserial
    split at hserial
    · rwa [(hchange own').2] at hserial
    · exact hserial

end Along

/-! ### Paths to the place -/

namespace IsPlain

variable (h : fs.IsPlain top) (hnames : ∀ name ∈ names, Name.IsProper name)
include h hnames

/-- Making a directory on the way, with its ancestors. -/
theorem makeDirectories {outcome : Except IoError Unit} (hfront : l <+: top ++ names)
    (hmade : fs.makeDirectories l.toPath = (outcome, gs)) : ChangesAlong top names fs gs := by
  have hpieces : l.toPath.pieces = l := Location.pieces_toPath fun name hname =>
    h.isProper_append hnames name (hfront.subset hname)
  refine makeDirectoriesFuel_preserves (motive := ChangesAlong top names fs) ?_ (.refl h names)
    hmade
  intro between after q habove hbetween hone
  obtain ⟨m, hsought, hlocate, -, rfl⟩ := makeDirectory_eq_ok.mp hone
  have hempty : q.isEmpty = false := by simpa using hsought.2.1
  obtain ⟨hq, habsolute⟩ := habove.pieces_isPrefix hempty
  rw [hpieces] at hq
  have hm : m = q.pieces := by
    have hlocation := hbetween.isPlain.location_of_locate hnames (q := q.withoutSlash)
      (by rw [Path.isAbsolute_withoutSlash, habsolute, Location.isAbsolute_toPath])
      (by rw [Path.pieces_withoutSlash]; exact hq.trans hfront) hlocate
    rwa [Path.pieces_withoutSlash] at hlocation
  have hfree : between.entry? m = none := entry?_of_locate hlocate
  have hholder := holder_of_walk_free (locate_eq_ok.mp hlocate).2 rfl
  have hplace : m <+: top ++ names := hm ▸ hq.trans hfront
  -- The new directory is below the top, since everything above and the top itself is there.
  obtain ⟨e, hentry, -⟩ := hbetween.isPlain.isDirectory
  have hnotAbove : ¬m <+: top := by
    intro habove
    rw [hbetween.isPlain.sound.isTree.entry?_eq_none hfree habove] at hentry
    cases hentry
  obtain ⟨below, rfl⟩ :=
    (List.prefix_or_prefix_of_prefix hplace (List.prefix_append top names)).resolve_left hnotAbove
  have hbelow : below <+: names := (List.prefix_append_right_inj top).mp hplace
  have hne : below ≠ [] := by
    rintro rfl
    exact hnotAbove (by simp)
  exact hbetween.trans (hbetween.isPlain.add hnames hbelow hne hfree hholder (by simp) _)

/-- Taking away the file at the place. -/
theorem unlink (hne : names ≠ []) (hok : fs.unlink (Location.toPath (top ++ names)) = .ok gs) :
    ChangesAlong top names fs gs := by
  obtain ⟨⟨m, e⟩, hfound, hrest⟩ := bind_eq_ok.mp hok
  have hm : m = top ++ names :=
    h.location_of_locate_toPath hnames (List.prefix_refl _) (find_eq_ok.mp hfound)
  subst hm
  cases hdir : e.isDirectory with
  | true => simp [hdir] at hrest
  | false =>
    simp only [hdir, Bool.false_eq_true, if_false] at hrest
    obtain ⟨-, -, hremoved⟩ := bind_eq_ok.mp hrest
    cases hremoved
    exact h.remove hne (entry?_of_find hfound) hdir

/-- Writing a new file at the place. -/
theorem createNew {content : ByteArray} {mode serial : Nat} (hne : names ≠ [])
    (hok : fs.createNew (Location.toPath (top ++ names)) content mode = .ok (serial, gs)) :
    ChangesAlong top names fs gs ∧ ∃ e, gs.IsWritten (top ++ names) content e := by
  obtain ⟨⟨m, e?⟩, hlocate, hrest⟩ := bind_eq_ok.mp hok
  have hm : m = top ++ names :=
    h.location_of_locate_toPath hnames (List.prefix_refl _) hlocate
  subst hm
  cases e? with
  | some e => cases hrest
  | none =>
    have hfree := entry?_of_locate hlocate
    have hholder := holder_of_walk_free (locate_eq_ok.mp hlocate).2 rfl
    simp only at hrest
    split at hrest
    · cases hrest
    · obtain ⟨-, -, hadded⟩ := bind_eq_ok.mp hrest
      cases hadded
      refine ⟨h.add hnames (List.prefix_refl _) hne hfree hholder (by simp) _, _,
        entry?_add_self fs _ _ _, rfl, fun {m own} hown hserial => ?_⟩
      -- The number of the new file was not in use.
      by_contra hm
      rw [entry?_add_of_ne fs _ _ hm, entry?_stamp, Option.map_eq_some_iff] at hown
      obtain ⟨old, hold, rfl⟩ := hown
      have hused := h.sound.isNumbered hold
      have hserial' : old.serial = fs.nextSerial := by
        split at hserial <;> exact hserial
      omega

/-- The path to the place leads to the file that was written there. -/
theorem status_written {content : ByteArray} {own : Entry}
    (hwritten : fs.IsWritten (top ++ names) content e)
    (hstatus : fs.status (Location.toPath (top ++ names)) = .ok (l, own)) : own = e := by
  have hl : l = top ++ names :=
    h.location_of_locate_toPath hnames (List.prefix_refl _) (find_eq_ok.mp hstatus)
  have hentry := entry?_of_find hstatus
  rw [hl, hwritten.entry] at hentry
  cases hentry
  rfl

end IsPlain

end FileSystem

end Launchpad
