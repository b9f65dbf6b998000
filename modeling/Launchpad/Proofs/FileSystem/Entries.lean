import Launchpad.FileSystem.Change

/-!
What stands at a location after each of the small changes from which all others are made. A change
to a location leaves what stands at any other as it is, but for the time stamp of the directory that
holds it.
-/

namespace Launchpad

namespace Timestamp

theorem lt_iff (a b : Timestamp) : a < b ↔ a.nanoseconds < b.nanoseconds := Iff.rfl

theorem le_iff (a b : Timestamp) : a ≤ b ↔ a.nanoseconds ≤ b.nanoseconds := Iff.rfl

theorem le_refl (a : Timestamp) : a ≤ a := Int.le_refl a.nanoseconds

theorem le_trans {a b c : Timestamp} (hab : a ≤ b) (hbc : b ≤ c) : a ≤ c := by
  rw [le_iff] at hab hbc ⊢
  omega

theorem lt_of_le_of_lt {a b c : Timestamp} (hab : a ≤ b) (hbc : b < c) : a < c := by
  rw [le_iff] at hab
  rw [lt_iff] at hbc ⊢
  omega

theorem le_of_lt {a b : Timestamp} (h : a < b) : a ≤ b := by
  rw [lt_iff] at h
  rw [le_iff]
  omega

end Timestamp

namespace FileSystem

private theorem lookup_filter (entries : List (Location × Entry)) (keep : Location → Bool)
    (l : Location) :
    (entries.filter fun x => keep x.1).lookup l = if keep l then entries.lookup l else none := by
  induction entries with
  | nil => simp
  | cons head rest ih =>
    obtain ⟨m, e⟩ := head
    by_cases hm : l = m
    · subst hm
      cases hkeep : keep l with
      | true => simp [hkeep]
      | false => simp [hkeep, ih]
    · have hbeq : (l == m) = false := beq_eq_false_iff_ne.mpr hm
      cases hkeep : keep m with
      | true => simp [hkeep, List.lookup_cons, hbeq, ih]
      | false => simp [hkeep, List.lookup_cons, hbeq, ih]

private theorem lookup_map (entries : List (Location × Entry)) (f : Location → Entry → Entry)
    (l : Location) :
    (entries.map fun x => (x.1, f x.1 x.2)).lookup l = (entries.lookup l).map (f l) := by
  induction entries with
  | nil => rfl
  | cons head rest ih =>
    obtain ⟨m, e⟩ := head
    by_cases hm : l = m
    · subst hm
      simp
    · have hbeq : (l == m) = false := beq_eq_false_iff_ne.mpr hm
      simp [List.lookup_cons, hbeq, ih]

/-- What holds of every row of the table holds of every entry. -/
theorem of_entry?_eq_some {fs : FileSystem} {P : Location → Entry → Prop}
    (h : ∀ x ∈ fs.entries, P x.1 x.2) {l : Location} {e : Entry} (hentry : fs.entry? l = some e) :
    P l e := by
  obtain ⟨before, after, hrows, -⟩ := List.lookup_eq_some_iff.mp hentry
  exact h (l, e) (by rw [hrows]; simp)

theorem entry?_eq_none_of_rows {fs : FileSystem} {P : Location → Prop}
    (h : ∀ x ∈ fs.entries, ¬P x.1) {l : Location} (hl : P l) : fs.entry? l = none := by
  cases hentry : fs.entry? l with
  | none => rfl
  | some e => exact absurd hl (of_entry?_eq_some (P := fun m _ => ¬P m) h hentry)

/-! ### Single changes -/

@[simp]
theorem entry?_tick (fs : FileSystem) (l : Location) : fs.tick.entry? l = fs.entry? l := rfl

theorem entry?_insert (fs : FileSystem) (l m : Location) (e : Entry) :
    entry? (fs.insert l e) m = if m = l then some e else fs.entry? m := by
  unfold entry? insert
  by_cases hm : m = l
  · simp [hm]
  · have hbeq : (m == l) = false := beq_eq_false_iff_ne.mpr hm
    simp only [List.lookup_cons, hbeq, if_neg hm]
    rw [lookup_filter fs.entries (fun k => k ≠ l) m]
    simp [hm]

theorem entry?_stamp (fs : FileSystem) (l m : Location) :
    entry? (fs.stamp l) m =
      (fs.entry? m).map fun e => if m = l then { e with modified := fs.now } else e :=
  lookup_map fs.entries (fun k e => if k = l then { e with modified := fs.now } else e) m

theorem entry?_alter (fs : FileSystem) (serial : Nat) (change : Entry → Entry) (m : Location) :
    entry? (fs.alter serial change) m =
      (fs.entry? m).map fun e => if e.serial = serial then change e else e :=
  lookup_map fs.entries (fun _ e => if e.serial = serial then change e else e) m

theorem entry?_eraseBelow (fs : FileSystem) (l m : Location) :
    entry? (fs.eraseBelow l) m = if l <+: m then none else fs.entry? m := by
  have h := lookup_filter fs.entries (fun k => !l.isPrefixOf k) m
  unfold entry? eraseBelow
  rw [h]
  by_cases hm : l <+: m
  · have hbelow : l.isPrefixOf m = true := List.isPrefixOf_iff_prefix.mpr hm
    simp [hm, hbelow]
  · have hbelow : l.isPrefixOf m = false :=
      Bool.eq_false_iff.mpr fun h => hm (List.isPrefixOf_iff_prefix.mp h)
    simp [hm, hbelow]

theorem entry?_eraseBelow_eq_some {fs : FileSystem} {l m : Location} {e : Entry} :
    entry? (fs.eraseBelow l) m = some e ↔ ¬l <+: m ∧ fs.entry? m = some e := by
  rw [entry?_eraseBelow]
  by_cases hm : l <+: m
  · simp [hm]
  · simp [hm]

theorem entry?_eraseInside (fs : FileSystem) (l m : Location) :
    entry? (fs.eraseInside l) m = if m ≠ l ∧ l <+: m then none else fs.entry? m := by
  have h := lookup_filter fs.entries (fun k => k = l || !l.isPrefixOf k) m
  unfold entry? eraseInside
  rw [h]
  by_cases hl : m = l
  · simp [hl]
  · by_cases hm : l <+: m
    · have hbelow : l.isPrefixOf m = true := List.isPrefixOf_iff_prefix.mpr hm
      simp [hl, hm, hbelow]
    · have hbelow : l.isPrefixOf m = false :=
        Bool.eq_false_iff.mpr fun h => hm (List.isPrefixOf_iff_prefix.mp h)
      simp [hm, hbelow]

/-! ### Additions and removals -/

theorem entry?_add_self (fs : FileSystem) (l : Location) (node : Node) (mode : Nat) :
    entry? (fs.add l node mode) l = some ⟨fs.nextSerial, node, mode, fs.now⟩ := by
  simp [add, entry?_insert]

theorem entry?_add_of_ne (fs : FileSystem) {l m : Location} (node : Node) (mode : Nat)
    (hm : m ≠ l) : entry? (fs.add l node mode) m = entry? (fs.stamp l.dropLast) m := by
  simp only [add, entry?_tick, entry?_insert, if_neg hm]
  rfl

theorem entry?_remove (fs : FileSystem) (l m : Location) :
    entry? (fs.remove l) m =
      if l <+: m then none
      else (fs.entry? m).map fun e =>
        if m = l.dropLast then { e with modified := fs.now } else e := by
  simp only [remove, entry?_tick, entry?_stamp, entry?_eraseBelow]
  by_cases hm : l <+: m
  · simp [hm]
  · simp [hm, eraseBelow]

theorem now_le_tick (fs : FileSystem) : fs.now ≤ fs.tick.now := by
  rw [Timestamp.le_iff]
  change fs.now.nanoseconds ≤ fs.now.nanoseconds + 1000
  omega

theorem now_le_add (fs : FileSystem) (l : Location) (node : Node) (mode : Nat) :
    fs.now ≤ (fs.add l node mode).now :=
  fs.now_le_tick

theorem now_le_remove (fs : FileSystem) (l : Location) : fs.now ≤ (fs.remove l).now :=
  fs.now_le_tick

end FileSystem

end Launchpad
