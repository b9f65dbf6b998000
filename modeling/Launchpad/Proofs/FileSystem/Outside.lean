import Launchpad.Proofs.FileSystem.Within

/-!
Changes that stay on one side of a location: new contents for files outside it, and its removal.
What lies on the other side stays as it is, but for a time stamp.
-/

namespace Launchpad

namespace FileSystem

variable {fs gs : FileSystem} {p : Path} {l : Location} {e : Entry}

/-- What is found in a file system is found in a larger one with the same entry at its place. -/
theorem Within.find_of_entry?_eq (h : fs.Within gs) {follow : Bool}
    (hentry : gs.entry? l = fs.entry? l) (hfound : fs.find p follow = .ok (l, e)) :
    gs.find p follow = .ok (l, e) := by
  obtain ⟨e', hfound', -⟩ := h.find hfound
  have hsame := (entry?_of_find hfound').symm.trans (hentry.trans (entry?_of_find hfound))
  cases hsame
  exact hfound'

/-- What stands somewhere stands outside a location that is free. -/
theorem not_prefix_of_entry {top : Location} (hfree : ∀ {l}, top <+: l → fs.entry? l = none)
    (hentry : fs.entry? l = some e) : ¬top <+: l := by
  intro hbelow
  rw [hfree hbelow] at hentry
  cases hentry

/-- Outside a location nothing is touched. -/
structure SameOutside (top : Location) (fs gs : FileSystem) : Prop where
  here : gs.here = fs.here
  entry?_eq : ∀ {l}, ¬top <+: l → gs.entry? l = fs.entry? l

theorem SameOutside.refl (top : Location) (fs : FileSystem) : SameOutside top fs fs :=
  ⟨rfl, fun _ => rfl⟩

theorem SameOutside.trans {hs : FileSystem} {top : Location} (h : SameOutside top fs gs)
    (h' : SameOutside top gs hs) : SameOutside top fs hs :=
  ⟨h'.here.trans h.here, fun hl => (h'.entry?_eq hl).trans (h.entry?_eq hl)⟩

/-- What lies outside a location stays where nothing outside is touched. -/
theorem Within.of_sameOutside {base : FileSystem} {top : Location} (h : base.Within fs)
    (hfree : ∀ {l}, top <+: l → base.entry? l = none) (hsame : SameOutside top fs gs) :
    base.Within gs := by
  refine ⟨h.here.trans hsame.here.symm, fun {l e} hentry => ?_⟩
  rw [hsame.entry?_eq (not_prefix_of_entry hfree hentry)]
  exact h.entry hentry

/-! ### New contents -/

/-- Give a file new content, under all its names; it carries the current time. -/
def rewrite (fs : FileSystem) (serial : Nat) (content : ByteArray) : FileSystem :=
  fs.alter serial fun e => { e with node := .file content, modified := fs.now }

theorem entry?_rewrite (fs : FileSystem) (serial : Nat) (content : ByteArray) (l : Location) :
    entry? (fs.rewrite serial content) l =
      (fs.entry? l).map fun e =>
        if e.serial = serial then { e with node := .file content, modified := fs.now } else e :=
  entry?_alter fs serial _ l

/-- New content for a file makes an alike file system. -/
theorem within_rewrite {serial : Nat} (content : ByteArray)
    (hfile : ∀ {l e}, fs.entry? l = some e → e.serial = serial → e.isFile = true) :
    fs.Within (fs.rewrite serial content) ∧ (fs.rewrite serial content).Within fs := by
  have halike : ∀ {l e}, fs.entry? l = some e → e.Alike (if e.serial = serial then
      { e with node := .file content, modified := fs.now } else e) := by
    intro l e hentry
    split
    · rename_i hserial
      exact ⟨rfl, .inr ⟨hfile hentry hserial, rfl⟩⟩
    · exact .refl e
  constructor
  · refine ⟨rfl, fun {l e} hentry => ⟨_, ?_, halike hentry⟩⟩
    rw [entry?_rewrite, hentry]
    rfl
  · refine ⟨rfl, fun {l e} hentry => ?_⟩
    rw [entry?_rewrite, Option.map_eq_some_iff] at hentry
    obtain ⟨e', hentry', rfl⟩ := hentry
    exact ⟨e', hentry', (halike hentry').symm⟩

/-! ### Removal -/

theorem within_remove (fs : FileSystem) (top : Location) :
    (fs.remove top).Within (fs.eraseBelow top) := by
  refine ⟨rfl, fun {l e} hentry => ?_⟩
  rw [entry?_remove] at hentry
  split at hentry
  · cases hentry
  · rename_i houtside
    rw [Option.map_eq_some_iff] at hentry
    obtain ⟨e', hentry', rfl⟩ := hentry
    refine ⟨e', entry?_eraseBelow_eq_some.mpr ⟨houtside, hentry'⟩, ?_⟩
    split
    · exact ⟨rfl, .inl rfl⟩
    · exact .refl e'

theorem Within.remove {base : FileSystem} {top : Location} (h : base.Within fs)
    (hfree : ∀ {l}, top <+: l → base.entry? l = none) : base.Within (fs.remove top) := by
  refine ⟨h.here, fun {l e} hentry => ?_⟩
  obtain ⟨e', hentry', halike⟩ := h.entry hentry
  rw [entry?_remove, if_neg (not_prefix_of_entry hfree hentry), hentry']
  refine ⟨_, rfl, ?_⟩
  split
  · exact halike
  · exact halike

theorem Within.eraseBelow (h : fs.Within gs) (top : Location) :
    (fs.eraseBelow top).Within (gs.eraseBelow top) := by
  refine ⟨h.here, fun {l e} hentry => ?_⟩
  obtain ⟨houtside, hentry⟩ := entry?_eraseBelow_eq_some.mp hentry
  obtain ⟨e', hentry', halike⟩ := h.entry hentry
  exact ⟨e', entry?_eraseBelow_eq_some.mpr ⟨houtside, hentry'⟩, halike⟩

/-- Outside a location the same stands in two file systems that are the same there. -/
theorem SameOutside.within_eraseBelow {top : Location} (h : SameOutside top fs gs) :
    (gs.eraseBelow top).Within (fs.eraseBelow top) := by
  refine ⟨h.here, fun {l e} hentry => ⟨e, ?_, .refl e⟩⟩
  obtain ⟨houtside, hentry⟩ := entry?_eraseBelow_eq_some.mp hentry
  rw [h.entry?_eq houtside] at hentry
  exact entry?_eraseBelow_eq_some.mpr ⟨houtside, hentry⟩

theorem eraseBelow_within (fs : FileSystem) (top : Location) : (fs.eraseBelow top).Within fs :=
  ⟨rfl, fun {_ e} hentry => ⟨e, (entry?_eraseBelow_eq_some.mp hentry).2, .refl e⟩⟩

theorem sameOutside_empty (fs : FileSystem) (l : Location) : SameOutside l fs (fs.empty l) := by
  unfold FileSystem.empty
  split
  · exact .refl l fs
  · refine ⟨rfl, fun {m} houtside => ?_⟩
    have hne : m ≠ l := fun heq => houtside (heq ▸ List.prefix_refl l)
    have hstamp : ∀ e : Entry, (if m = l then { e with modified := fs.now } else e) = e :=
      fun e => if_neg hne
    rw [entry?_tick, entry?_stamp, entry?_eraseInside, if_neg fun h => houtside h.2]
    cases fs.entry? m with
    | none => rfl
    | some e => exact congrArg some (hstamp e)

/-- A tree that cannot be removed may be emptied all the same, and nothing outside changes. -/
theorem sameOutside_of_removeTree {cause : IoError} {after : FileSystem}
    (h : fs.removeTree p = (.error cause, after)) :
    after = fs ∨ ∃ l e, fs.find p false = .ok (l, e) ∧ SameOutside l fs after := by
  unfold removeTree at h
  cases hfound : fs.find p false with
  | error cause' =>
    simp only [hfound] at h
    cases h
    exact .inl rfl
  | ok found =>
    obtain ⟨l, e⟩ := found
    simp only [hfound] at h
    have hemptied : SameOutside l fs (fs.empty l) := sameOutside_empty fs l
    split at h
    · split at h
      · cases h
      · cases h
        exact .inl rfl
    · split at h
      · cases h
        exact .inl rfl
      · split at h
        · cases h
          exact .inr ⟨l, e, rfl, hemptied⟩
        · split at h
          · cases h
          · cases h
            exact .inr ⟨l, e, rfl, hemptied⟩
    · cases h
      exact .inl rfl

end FileSystem

end Launchpad
