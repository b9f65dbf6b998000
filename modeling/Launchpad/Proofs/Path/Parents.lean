import Launchpad.Proofs.Path.Pieces
import Mathlib.Data.List.TakeWhile

/-!
The path without its last part, seen by the pieces that a look-up goes through. It goes through the
same pieces as long as it goes, and it stops before the last name. A path climbs when it goes up
again after a name; one that does not climb has no ancestor that does.
-/

namespace Launchpad.Path

open Text

/-- A path climbs when `..` stands somewhere behind a name. -/
def climbs (p : Path) : Bool :=
  (p.names.dropWhile (· = Name.up)).contains Name.up

/-- A path is above another when it is what is left of it after taking parts away at the end. -/
inductive IsAbove : Path → Path → Prop where
  | refl (p : Path) : IsAbove p p
  | parent {q parent p : Path} (hparent : p.parent? = some parent) (h : IsAbove q parent) :
      IsAbove q p

theorem names_eq_filter_pieces (p : Path) : p.names = p.pieces.filter isStep := by
  rw [names, pieces, List.filter_filter]
  refine List.filter_congr fun piece _ => ?_
  by_cases hempty : piece = []
  · simp [isStep, hempty]
  · simp [hempty]

/-! ### Where the steps of a path end -/

theorem joinWith_cons (piece : Name) {pieces : List Name} (h : pieces ≠ []) :
    joinWith separator (piece :: pieces) = piece ++ separator :: joinWith separator pieces := by
  cases pieces with
  | nil => exact absurd rfl h
  | cons next more => rfl

theorem joinWith_append {front back : List Name} (hfront : front ≠ []) (hback : back ≠ []) :
    joinWith separator (front ++ back) =
      joinWith separator front ++ separator :: joinWith separator back := by
  induction front with
  | nil => exact absurd rfl hfront
  | cons piece more ih =>
    cases more with
    | nil => exact joinWith_cons piece hback
    | cons next more =>
      rw [List.cons_append, joinWith_cons piece (by simp), ih (by simp),
        joinWith_cons piece (by simp)]
      simp

theorem exists_isStep_of_stepEnds_ne_nil {pieces : List Name} {offset : Nat}
    (h : stepEnds offset pieces ≠ []) : ∃ piece ∈ pieces, isStep piece = true := by
  induction pieces generalizing offset with
  | nil => exact absurd rfl h
  | cons piece pieces ih =>
    by_cases hstep : isStep piece = true
    · exact ⟨piece, List.mem_cons_self, hstep⟩
    · rw [stepEnds, if_neg hstep] at h
      obtain ⟨step, hmem, hstep⟩ := ih h
      exact ⟨step, List.mem_cons_of_mem piece hmem, hstep⟩

/-- Where a step ends that is not the last one, the pieces are cut in two. -/
theorem exists_cut_of_mem_stepEnds {pieces : List Name} {offset cut : Nat}
    (h : cut ∈ (stepEnds offset pieces).dropLast) :
    ∃ front back, pieces = front ++ back ∧ front ≠ [] ∧
      cut = offset + (joinWith separator front).length ∧ ∃ piece ∈ back, isStep piece = true := by
  induction pieces generalizing offset with
  | nil => simp [stepEnds] at h
  | cons piece pieces ih =>
    have hlater : cut ∈ (stepEnds (offset + piece.length + 1) pieces).dropLast →
        ∃ front back, piece :: pieces = front ++ back ∧ front ≠ [] ∧
          cut = offset + (joinWith separator front).length ∧
          ∃ piece ∈ back, isStep piece = true := by
      intro hlater
      obtain ⟨front, back, rfl, hfront, hcut, hback⟩ := ih hlater
      refine ⟨piece :: front, back, rfl, by simp, ?_, hback⟩
      rw [joinWith_cons piece hfront, List.length_append, List.length_cons]
      omega
    by_cases hstep : isStep piece = true
    · rw [stepEnds, if_pos hstep] at h
      cases hrest : stepEnds (offset + piece.length + 1) pieces with
      | nil => simp [hrest] at h
      | cons next more =>
        rw [hrest, List.dropLast_cons_cons, List.mem_cons] at h
        rcases h with rfl | h
        · have hsome : stepEnds (offset + piece.length + 1) pieces ≠ [] := by simp [hrest]
          exact ⟨[piece], pieces, rfl, by simp, rfl, exists_isStep_of_stepEnds_ne_nil hsome⟩
        · exact hlater (hrest ▸ h)
    · rw [stepEnds, if_neg hstep] at h
      exact hlater h

/-! ### The path without its last part -/

variable {p parent : Path}

/-- Cut in two at a separator, a path goes through the pieces in front and then those behind. -/
theorem pieces_of_cut {front back : List Name}
    (hcut : splitOn separator p.glyphs = front ++ back) (hfront : front ≠ [])
    (hback : ∃ piece ∈ back, isStep piece = true) :
    ∃ rest, p.pieces = pieces ⟨p.glyphs.take (joinWith separator front).length⟩ ++ rest ∧
      ∃ piece ∈ rest, isStep piece = true := by
  have hne : back ≠ [] := by
    rintro rfl
    simp at hback
  have hglyphs : p.glyphs = joinWith separator front ++ separator :: joinWith separator back := by
    rw [← joinWith_append hfront hne, ← hcut, joinWith_splitOn]
  have hwhole : ∀ piece ∈ back, separator ∉ piece := fun piece hpiece =>
    separator_not_mem_of_mem_splitOn (hcut ▸ List.mem_append_right front hpiece)
  refine ⟨pieces ⟨joinWith separator back⟩, ?_, ?_⟩
  · have htake : p.glyphs.take (joinWith separator front).length = joinWith separator front := by
      rw [hglyphs, List.take_left]
    rw [htake, ← pieces_append_separator, ← hglyphs]
  · obtain ⟨piece, hpiece, hstep⟩ := hback
    refine ⟨piece, ?_, hstep⟩
    rw [pieces, splitOn_joinWith hne hwhole, List.mem_filter]
    exact ⟨hpiece, by simp [isStep] at hstep; simp [hstep.1]⟩

/-- Where a part ends that is not the last one, there is a cut, or only the root is in front. -/
theorem exists_cut_of_mem_partEnds {cut : Nat} (h : cut ∈ p.partEnds.dropLast) :
    ∃ front back, splitOn separator p.glyphs = front ++ back ∧ front ≠ [] ∧
      (∃ piece ∈ back, isStep piece = true) ∧
      (cut = (joinWith separator front).length ∨ front = [[]] ∧ cut = 1) := by
  unfold partEnds at h
  simp only at h
  generalize splitOn separator p.glyphs = ps at h ⊢
  have hsteps : cut ∈ (stepEnds 0 ps).dropLast →
      ∃ front back, ps = front ++ back ∧ front ≠ [] ∧ (∃ piece ∈ back, isStep piece = true) ∧
        (cut = (joinWith separator front).length ∨ front = [[]] ∧ cut = 1) := by
    intro hcut
    obtain ⟨front, back, hps, hfront, hlength, hback⟩ := exists_cut_of_mem_stepEnds hcut
    exact ⟨front, back, hps, hfront, hback, .inl (by omega)⟩
  split at h
  · rename_i back
    have hdot : stepEnds 0 ([.char '.'] :: back) = stepEnds 2 back := by
      rw [stepEnds]
      simp [isStep]
    simp only [hdot, List.singleton_append] at h
    cases hback : stepEnds 2 back with
    | nil => simp [hback] at h
    | cons next more =>
      rw [hback, List.dropLast_cons_cons, List.mem_cons] at h
      rcases h with rfl | h
      · have hsome : stepEnds 2 back ≠ [] := by simp [hback]
        exact ⟨[[.char '.']], back, rfl, by simp, exists_isStep_of_stepEnds_ne_nil hsome, .inl rfl⟩
      · exact hsteps (by rw [hdot, hback]; exact h)
  · rename_i next more
    have hroot : stepEnds 0 ([] :: next :: more) = stepEnds 1 (next :: more) := by
      rw [stepEnds]
      simp [isStep]
    simp only [hroot, List.singleton_append] at h
    cases hback : stepEnds 1 (next :: more) with
    | nil => simp [hback] at h
    | cons first others =>
      rw [hback, List.dropLast_cons_cons, List.mem_cons] at h
      rcases h with rfl | h
      · have hsome : stepEnds 1 (next :: more) ≠ [] := by simp [hback]
        exact ⟨[[]], next :: more, rfl, by simp, exists_isStep_of_stepEnds_ne_nil hsome,
          .inr ⟨rfl, rfl⟩⟩
      · exact hsteps (by rw [hroot, hback]; exact h)
  · exact hsteps (by simpa using h)

/-- Without its last part a path goes through the same pieces, and stops before the last step. -/
theorem pieces_of_parent? (h : p.parent? = some parent) (hparent : parent.isEmpty = false) :
    ∃ rest, p.pieces = parent.pieces ++ rest ∧ ∃ piece ∈ rest, isStep piece = true := by
  unfold parent? at h
  simp only at h
  split at h
  · cases h
  · split at h
    · cases h
    · cases h
      cases hlast : p.partEnds.dropLast.getLast? with
      | none => simp [hlast, isEmpty] at hparent
      | some cut =>
        rw [Option.getD_some]
        obtain ⟨front, back, hcut, hfront, hback, hlength | ⟨rfl, rfl⟩⟩ :=
          exists_cut_of_mem_partEnds (List.mem_of_getLast? hlast)
        · rw [hlength]
          exact pieces_of_cut hcut hfront hback
        · -- Only the root is in front, and no piece is.
          obtain ⟨rest, hrest, hstep⟩ := pieces_of_cut hcut hfront hback
          have hne : back ≠ [] := by
            rintro rfl
            simp at hback
          have hglyphs : p.glyphs = separator :: joinWith separator back := by
            have hjoined := joinWith_splitOn separator p.glyphs
            rw [hcut, List.singleton_append, joinWith_cons [] hne] at hjoined
            exact hjoined.symm
          have hroot : pieces ⟨p.glyphs.take 1⟩ = [] := by
            rw [hglyphs, List.take_succ_cons, List.take_zero]
            exact pieces_of_separators (by simp)
          have hnone : pieces ⟨p.glyphs.take (joinWith separator [([] : Name)]).length⟩ = [] := by
            simp [joinWith, pieces, splitOn]
          rw [hnone] at hrest
          exact ⟨rest, by rw [hroot]; exact hrest, hstep⟩

theorem parent?_of_isEmpty (h : p.isEmpty = true) : p.parent? = none := by
  obtain ⟨glyphs⟩ := p
  cases List.isEmpty_iff.mp h
  rfl

/-- A path above another goes through no other names. -/
theorem IsAbove.mem_names {q : Path} (h : q.IsAbove p) {name : Name} (hname : name ∈ q.names) :
    name ∈ p.names := by
  induction h with
  | refl => exact hname
  | @parent parent p hparent habove ih =>
    cases hempty : parent.isEmpty with
    | true =>
      have hglyphs : parent.glyphs = [] := List.isEmpty_iff.mp hempty
      simp [names, hglyphs, splitOn, isStep] at ih
    | false =>
      obtain ⟨rest, hrest, -⟩ := pieces_of_parent? hparent hempty
      rw [names_eq_filter_pieces] at ih ⊢
      rw [hrest, List.filter_append]
      exact List.mem_append_left _ ih

theorem isAbsolute_of_parent? (h : p.parent? = some parent) (hparent : parent.isEmpty = false) :
    parent.isAbsolute = p.isAbsolute := by
  unfold parent? at h
  simp only at h
  split at h
  · cases h
  · split at h
    · cases h
    · cases h
      revert hparent
      generalize (p.partEnds.dropLast.getLast?).getD 0 = cut
      intro hparent
      cases cut with
      | zero => simp [isEmpty] at hparent
      | succ cut =>
        cases hglyphs : p.glyphs with
        | nil => simp [isEmpty, hglyphs] at hparent
        | cons g rest => simp [isAbsolute, hglyphs]

/-- A path above another goes through the pieces that the other goes through first. -/
theorem IsAbove.pieces_isPrefix {q : Path} (h : q.IsAbove p) (hq : q.isEmpty = false) :
    q.pieces <+: p.pieces ∧ q.isAbsolute = p.isAbsolute := by
  induction h with
  | refl => exact ⟨List.prefix_refl _, rfl⟩
  | @parent parent p hparent habove ih =>
    cases hempty : parent.isEmpty with
    | true =>
      -- Nothing is above the empty path but itself.
      cases habove with
      | refl =>
        rw [hq] at hempty
        cases hempty
      | parent hnone =>
        rw [parent?_of_isEmpty hempty] at hnone
        cases hnone
    | false =>
      obtain ⟨rest, hrest, -⟩ := pieces_of_parent? hparent hempty
      obtain ⟨hpieces, habsolute⟩ := ih
      refine ⟨hpieces.trans ?_, habsolute.trans (isAbsolute_of_parent? hparent hempty)⟩
      rw [hrest]
      exact List.prefix_append _ _

/-- From the parent of a path that does not climb, the path goes down only, unless the parent itself
has no name to go down to. -/
theorem descends_of_parent? (h : p.parent? = some parent) (hparent : parent.isEmpty = false)
    (hp : p.climbs = false) :
    parent.climbs = false ∧ ∃ rest, p.pieces = parent.pieces ++ rest ∧
      (∃ piece ∈ rest, isStep piece = true) ∧
      ((∀ name ∈ parent.names, name = Name.up) ∨ Name.up ∉ rest) := by
  obtain ⟨rest, hrest, hstep⟩ := pieces_of_parent? h hparent
  have hnames : p.names = parent.names ++ rest.filter isStep := by
    rw [names_eq_filter_pieces, hrest, List.filter_append, ← names_eq_filter_pieces]
  unfold climbs at hp ⊢
  rw [hnames, List.dropWhile_append] at hp
  split at hp
  · rename_i hups
    rw [List.isEmpty_iff] at hups
    have hall : ∀ name ∈ parent.names, name = Name.up := by
      simpa [List.dropWhile_eq_nil_iff] using hups
    exact ⟨by rw [hups]; rfl, rest, hrest, hstep, .inl hall⟩
  · rw [List.contains_eq_any_beq, List.any_append, Bool.or_eq_false_iff] at hp
    refine ⟨by rw [List.contains_eq_any_beq]; exact hp.1, rest, hrest, hstep, .inr fun hmem => ?_⟩
    have hup : Name.up ∈ rest.filter isStep := List.mem_filter.mpr ⟨hmem, by decide⟩
    simp only [List.any_eq_false, beq_iff_eq] at hp
    exact hp.2 _ hup rfl

end Launchpad.Path
