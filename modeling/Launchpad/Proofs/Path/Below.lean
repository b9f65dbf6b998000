import Launchpad.Proofs.Path.Parents

/-!
A path with one more name behind it. What is left of it without its last part is the path that it
was made from, letter by letter, provided that this path ends in a name itself.
-/

namespace Launchpad.Path

open Text

/-- The last part of a path is a name, or two dots. -/
def EndsInName (p : Path) : Prop :=
  ∃ front last, splitOn separator p.glyphs = front ++ [last] ∧ isStep last = true

/-- A single name, as it stands between separators. -/
structure IsSingle (name : Name) : Prop where
  whole : separator ∉ name
  isStep : isStep name = true

/-- The path to what has a name in the directory that a path leads to. -/
def below (p : Path) (name : Name) : Path := ⟨p.glyphs ++ separator :: name⟩

variable {p : Path} {name : Name}

theorem IsSingle.ne_nil (h : IsSingle name) : name ≠ [] := by
  rintro rfl
  cases h.isStep

theorem isEmpty_of_endsInName (h : p.EndsInName) : p.isEmpty = false := by
  obtain ⟨front, last, hpieces, hlast⟩ := h
  cases hempty : p.isEmpty with
  | false => rfl
  | true =>
    have hglyphs : p.glyphs = [] := List.isEmpty_iff.mp hempty
    rw [hglyphs, splitOn] at hpieces
    have hwhole : ([] : List Name) ++ [[]] = front ++ [last] := hpieces
    obtain ⟨-, heq⟩ := List.append_inj' hwhole rfl
    cases heq
    cases hlast

theorem splitOn_below (p : Path) (hname : IsSingle name) :
    splitOn separator (p.below name).glyphs = splitOn separator p.glyphs ++ [name] := by
  rw [below, splitOn_append_separator, splitOn_of_not_mem hname.whole]

theorem pieces_below (p : Path) (hname : IsSingle name) :
    (p.below name).pieces = p.pieces ++ [name] := by
  rw [pieces, splitOn_below p hname, List.filter_append]
  simp [pieces, hname.ne_nil]

theorem endsInSlash_below (p : Path) (hname : IsSingle name) :
    (p.below name).endsInSlash = false := by
  have hlast : (p.glyphs ++ separator :: name).getLast? = some (name.getLast hname.ne_nil) := by
    rw [List.getLast?_append, List.getLast?_cons, List.getLast?_eq_some_getLast hname.ne_nil]
    rfl
  have hne : name.getLast hname.ne_nil ≠ separator := fun heq =>
    hname.whole (heq ▸ List.getLast_mem hname.ne_nil)
  simp [endsInSlash, below, hlast, hne]

theorem withoutSlash_of_endsInSlash_eq_false (h : p.endsInSlash = false) :
    p.withoutSlash = p := by
  obtain ⟨slashes, hglyphs, hslashes⟩ := exists_glyphs_eq_withoutSlash_append p
  cases hlast : slashes.getLast? with
  | none =>
    rw [List.getLast?_eq_none_iff.mp hlast, List.append_nil] at hglyphs
    exact congrArg Path.mk hglyphs.symm
  | some g =>
    have hslash : p.endsInSlash = true := by
      have hg := hslashes g (List.mem_of_getLast? hlast)
      rw [endsInSlash, hglyphs, List.getLast?_append, hlast, hg]
      rfl
    rw [h] at hslash
    cases hslash

theorem withoutSlash_below (p : Path) (hname : IsSingle name) :
    (p.below name).withoutSlash = p.below name :=
  withoutSlash_of_endsInSlash_eq_false (endsInSlash_below p hname)

theorem isEmpty_below (p : Path) (name : Name) : (p.below name).isEmpty = false := by
  simp [isEmpty, below]

theorem isAbsolute_below (hp : p.isEmpty = false) (name : Name) :
    (p.below name).isAbsolute = p.isAbsolute := by
  cases hglyphs : p.glyphs with
  | nil => simp [isEmpty, hglyphs] at hp
  | cons g rest => simp [isAbsolute, below, hglyphs]

/-! ### Without the last part again -/

theorem stepEnds_append {front : List Name} (hfront : front ≠ []) (back : List Name)
    (offset : Nat) :
    stepEnds offset (front ++ back) =
      stepEnds offset front ++ stepEnds (offset + (joinWith separator front).length + 1) back := by
  induction front generalizing offset with
  | nil => exact absurd rfl hfront
  | cons piece more ih =>
    cases more with
    | nil =>
      rw [List.singleton_append, joinWith, stepEnds, stepEnds]
      split
      · simp [stepEnds]
      · simp [stepEnds]
    | cons next more =>
      have hlength : offset + piece.length + 1 + (joinWith separator (next :: more)).length + 1 =
          offset + (joinWith separator (piece :: next :: more)).length + 1 := by
        rw [joinWith_cons piece (by simp), List.length_append, List.length_cons]
        omega
      rw [List.cons_append, stepEnds, ih (by simp), hlength]
      conv_rhs => rw [stepEnds]
      split
      · simp
      · simp

/-- A path that ends in a name ends where its last part does. -/
theorem getLast?_partEnds (h : p.EndsInName) : p.partEnds.getLast? = some p.glyphs.length := by
  obtain ⟨front, last, hpieces, hlast⟩ := h
  have hjoined : joinWith separator (front ++ [last]) = p.glyphs := by
    rw [← hpieces, joinWith_splitOn]
  have hsteps : (stepEnds 0 (front ++ [last])).getLast? = some p.glyphs.length := by
    rw [← hjoined]
    by_cases hfront : front = []
    · simp [hfront, stepEnds, hlast, joinWith]
    · rw [stepEnds_append hfront, joinWith_append hfront (by simp)]
      simp [stepEnds, hlast, joinWith]
      omega
  unfold partEnds
  simp only
  rw [hpieces, List.getLast?_append, hsteps]
  rfl

theorem partEnds_below (hp : p.EndsInName) (hname : IsSingle name) :
    ∃ last, (p.below name).partEnds = p.partEnds ++ [last] := by
  obtain ⟨front, own, hpieces, hown⟩ := hp
  have hne : splitOn separator p.glyphs ≠ [] := splitOn_ne_nil _ _
  refine ⟨0 + (joinWith separator (splitOn separator p.glyphs)).length + 1 + name.length, ?_⟩
  unfold partEnds
  simp only
  rw [splitOn_below p hname, stepEnds_append hne, ← List.append_assoc]
  congr 1
  · congr 1
    -- The root is a part of its own only if something stands behind it, and a name does.
    have hroot : own ≠ [] := by
      rintro rfl
      cases hown
    rw [hpieces]
    cases front with
    | nil =>
      by_cases hdot : own = [.char '.']
      · rw [hdot]
        rfl
      · simp [hroot, hdot]
    | cons first more =>
      by_cases hdot : first = [.char '.']
      · rw [hdot]
        rfl
      · by_cases hempty : first = []
        · rw [hempty]
          cases more with
          | nil => rfl
          | cons next more => rfl
        · simp [hdot, hempty]
  · simp [stepEnds, hname.isStep]

/-- Without its last part the path is what it was before the name was put behind it. -/
theorem parent?_below (hp : p.EndsInName) (hname : IsSingle name) :
    (p.below name).parent? = some p := by
  obtain ⟨last, hends⟩ := partEnds_below hp hname
  have hlast := getLast?_partEnds hp
  have hne : p.partEnds ≠ [] := by
    intro hnil
    rw [hnil] at hlast
    cases hlast
  unfold parent?
  simp only [hends, List.dropLast_concat, hlast, Option.getD_some, List.length_append,
    List.length_singleton]
  simp [below, hne]

end Launchpad.Path
