import Launchpad.Proofs.Path.Names
import Launchpad.Proofs.Path.Parents

/-!
The parts of a path: whether it starts at the root, and the names that it goes through. Separators
in a row and single dots are no parts. Joining puts parts behind parts, and the parent of a path
lacks its last name.
-/

namespace Launchpad.Path

open Text

variable {p q r parent : Path}

structure SameParts (p q : Path) : Prop where
  isAbsolute : p.isAbsolute = q.isAbsolute
  names : p.names = q.names

theorem SameParts.refl (p : Path) : SameParts p p := ⟨rfl, rfl⟩

theorem SameParts.join (h : SameParts p q) (r : Path) : SameParts (p.join r) (q.join r) := by
  cases hr : r.isAbsolute with
  | true =>
    rw [join_of_isAbsolute p hr, join_of_isAbsolute q hr]
    exact .refl r
  | false =>
    constructor
    · rw [isAbsolute_join, isAbsolute_join, h.isAbsolute]
    · rw [names_join p hr, names_join q hr, h.names]

/-- In which order paths are joined does not matter to their parts. -/
theorem sameParts_join_assoc (p q r : Path) :
    SameParts (p.join (q.join r)) ((p.join q).join r) := by
  cases hr : r.isAbsolute with
  | true =>
    rw [join_of_isAbsolute q hr, join_of_isAbsolute p hr, join_of_isAbsolute (p.join q) hr]
    exact .refl r
  | false =>
    cases hq : q.isAbsolute with
    | true =>
      have hjoined : (q.join r).isAbsolute = true := by rw [isAbsolute_join, hq, Bool.or_true]
      rw [join_of_isAbsolute p hjoined, join_of_isAbsolute p hq]
      exact .refl _
    | false =>
      have hjoined : (q.join r).isAbsolute = false := by rw [isAbsolute_join, hr, hq]; rfl
      constructor
      · simp only [isAbsolute_join, Bool.or_assoc]
      · rw [names_join p hjoined, names_join q hr, names_join _ hr, names_join p hq,
          List.append_assoc]

theorem SameParts.trans (h : SameParts p q) (h' : SameParts q r) : SameParts p r :=
  ⟨h.isAbsolute.trans h'.isAbsolute, h.names.trans h'.names⟩

/-- Printing keeps what two paths have in common. -/
theorem SameParts.reread (h : SameParts p q) : SameParts p.reread q.reread := by
  constructor
  · rw [isAbsolute_reread, isAbsolute_reread, h.isAbsolute]
  · rw [names_reread, names_reread, h.names]

/-- A path may be printed before or after it is joined to one that is printed as it is. -/
theorem sameParts_join_reread {base : Path} (h : base.isSpelled = true ∨ p.isAbsolute = true) :
    SameParts (base.join p.reread) (base.join p).reread := by
  cases hp : p.isAbsolute with
  | true =>
    rw [join_of_isAbsolute base hp, join_of_isAbsolute base ((isAbsolute_reread p).trans hp)]
    exact .refl _
  | false =>
    have hspelled : base.isSpelled = true := h.resolve_right (by simp [hp])
    have hbase : base.names.map (List.map fun g => .char g.shown) = base.names := by
      rw [← names_reread]
      exact (names_reread_eq_iff base).mpr hspelled
    constructor
    · rw [isAbsolute_join, isAbsolute_reread, isAbsolute_reread, isAbsolute_join]
    · rw [names_join base ((isAbsolute_reread p).trans hp), names_reread, names_reread,
        names_join base hp, List.map_append, hbase]

/-! ### What a look-up goes through -/

theorem pieces_nil : pieces ⟨[]⟩ = [] := pieces_of_separators (List.forall_mem_nil _)

theorem pieces_join (base : Path) (hp : p.isAbsolute = false) :
    (base.join p).pieces = base.pieces ++ p.pieces := by
  unfold join
  rw [if_neg (by simp [hp])]
  split
  · rename_i hend
    obtain ⟨glyphs⟩ := base
    rcases Bool.or_eq_true_iff.mp hend with hempty | hslash
    · cases List.isEmpty_iff.mp hempty
      rw [pieces_nil]
      rfl
    · obtain ⟨front, rfl⟩ := List.getLast?_eq_some_iff.mp (of_decide_eq_true hslash)
      rw [List.append_assoc, List.singleton_append, pieces_append_separator,
        pieces_append_separator, pieces_nil, List.append_nil]
  · exact pieces_append_separator base.glyphs p.glyphs

theorem endsInSlash_join (base : Path) (hp : p.isAbsolute = false) (hempty : p.isEmpty = false) :
    (base.join p).endsInSlash = p.endsInSlash := by
  have hne : p.glyphs ≠ [] := fun hnil => by simp [isEmpty, hnil] at hempty
  unfold join
  rw [if_neg (by simp [hp])]
  split
  · rw [endsInSlash, endsInSlash, List.getLast?_append_of_ne_nil _ hne]
  · rw [endsInSlash, endsInSlash, List.getLast?_append_of_ne_nil _ (by simp),
      List.getLast?_cons_of_ne_nil hne]

/-- A path that is not empty goes through something, unless it stays at the root. -/
theorem pieces_ne_nil (hp : p.isAbsolute = false) (hempty : p.isEmpty = false) :
    p.pieces ≠ [] := by
  obtain ⟨glyphs⟩ := p
  cases glyphs with
  | nil => cases hempty
  | cons g rest =>
    have hg : g ≠ separator := by simpa [isAbsolute] using hp
    rw [pieces, splitOn_cons_of_ne hg]
    simp

/-! ### The parent of a path -/

/-- The parts of a path are its steps, and in front of them there may be the root or a dot. -/
theorem exists_partEnds_eq (p : Path) :
    ∃ leading, p.partEnds = leading ++ stepEnds 0 (splitOn separator p.glyphs) ∧
      (leading = [] ∧ p.isAbsolute = false ∨
        leading = [1] ∧ names ⟨p.glyphs.take 1⟩ = []) := by
  obtain ⟨glyphs⟩ := p
  refine ⟨_, rfl, ?_⟩
  cases glyphs with
  | nil => exact .inl ⟨rfl, rfl⟩
  | cons g rest =>
    by_cases hg : g = separator
    · subst hg
      have hroot : names ⟨[separator]⟩ = [] := by decide
      refine .inr ⟨?_, hroot⟩
      rw [splitOn_cons_separator]
      cases hrest : splitOn separator rest with
      | nil => exact absurd hrest (splitOn_ne_nil separator rest)
      | cons piece pieces => rfl
    · have hrelative : isAbsolute ⟨g :: rest⟩ = false := by simp [isAbsolute, hg]
      simp only [splitOn_cons_of_ne hg]
      split
      · rename_i heq
        have hg' : g = .char '.' := (List.cons.inj (List.cons.inj heq).1).1
        subst hg'
        have hdot : names ⟨[.char '.']⟩ = [] := by decide
        exact .inr ⟨rfl, hdot⟩
      · rename_i heq
        simp at heq
      · exact .inl ⟨rfl, hrelative⟩

theorem pos_of_mem_stepEnds {pieces : List Name} {offset cut : Nat}
    (h : cut ∈ stepEnds offset pieces) : 0 < cut := by
  induction pieces generalizing offset with
  | nil => simp [stepEnds] at h
  | cons piece pieces ih =>
    rw [stepEnds] at h
    split at h
    · rename_i hstep
      rcases List.mem_cons.mp h with rfl | h
      · have hpiece : piece ≠ [] := by
          rintro rfl
          cases hstep
        have hlength := List.length_pos_iff.mpr hpiece
        omega
      · exact ih h
    · exact ih h

theorem length_stepEnds (offset : Nat) (pieces : List Name) :
    (stepEnds offset pieces).length = (pieces.filter isStep).length := by
  induction pieces generalizing offset with
  | nil => rfl
  | cons piece pieces ih =>
    rw [stepEnds, List.filter_cons]
    split
    · rw [List.length_cons, List.length_cons, ih]
    · exact ih _

/-- In front of the place where the last step but one ends there are all steps but the last. -/
theorem exists_cut_of_getLast?_dropLast {pieces : List Name} {offset cut : Nat}
    (h : (stepEnds offset pieces).dropLast.getLast? = some cut) :
    ∃ front back, pieces = front ++ back ∧ front ≠ [] ∧
      cut = offset + (joinWith separator front).length ∧
      front.filter isStep = (pieces.filter isStep).dropLast := by
  induction pieces generalizing offset with
  | nil => simp [stepEnds] at h
  | cons piece pieces ih =>
    -- When the place lies among the later pieces, the first one is put in front of their cut.
    have hlater
        (hcut : (stepEnds (offset + piece.length + 1) pieces).dropLast.getLast? = some cut) :
        ∃ front back, piece :: pieces = front ++ back ∧ front ≠ [] ∧
          cut = offset + (joinWith separator front).length ∧
          front.filter isStep = ((piece :: pieces).filter isStep).dropLast := by
      obtain ⟨front, back, rfl, hfront, hlength, hsteps⟩ := ih hcut
      refine ⟨piece :: front, back, rfl, by simp, ?_, ?_⟩
      · rw [joinWith_cons piece hfront, List.length_append, List.length_cons]
        omega
      · have hsome : (front ++ back).filter isStep ≠ [] := by
          intro hnone
          have hends := length_stepEnds (offset + piece.length + 1) (front ++ back)
          rw [hnone, List.length_nil, List.length_eq_zero_iff] at hends
          rw [hends] at hcut
          cases hcut
        rw [List.filter_cons, List.filter_cons, hsteps]
        split
        · rw [List.dropLast_cons_of_ne_nil hsome]
        · rfl
    rw [stepEnds] at h
    split at h
    · rename_i hstep
      have hcount := length_stepEnds (offset + piece.length + 1) pieces
      cases hends : stepEnds (offset + piece.length + 1) pieces with
      | nil =>
        rw [hends] at h
        cases h
      | cons first others =>
        cases others with
        | nil =>
          -- One step follows this one, so the cut is right behind this piece.
          rw [hends] at h hcount
          cases h
          refine ⟨[piece], pieces, rfl, by simp, rfl, ?_⟩
          obtain ⟨step, hsingle⟩ := List.length_eq_one_iff.mp hcount.symm
          rw [List.filter_cons, List.filter_cons, if_pos hstep, if_pos hstep, hsingle]
          rfl
        | cons second more =>
          refine hlater ?_
          rw [hends] at h ⊢
          simpa using h
    · exact hlater h

theorem glyphs_of_parent? (h : p.parent? = some parent) :
    parent = ⟨p.glyphs.take ((p.partEnds.dropLast.getLast?).getD 0)⟩ ∧ p.partEnds ≠ [] ∧
      (p.partEnds.length = 1 → p.isAbsolute = false) := by
  unfold parent? at h
  simp only at h
  split at h
  · cases h
  · rename_i hne
    split at h
    · cases h
    · rename_i hsingle
      cases h
      exact ⟨rfl, hne, fun hlength => by simpa [hlength] using hsingle⟩

theorem names_take_of_cut {front back : List Name}
    (hcut : splitOn separator p.glyphs = front ++ back) (hfront : front ≠ []) :
    names ⟨p.glyphs.take (joinWith separator front).length⟩ = front.filter isStep := by
  have hwhole : ∀ piece ∈ front, separator ∉ piece := fun piece hpiece =>
    separator_not_mem_of_mem_splitOn (hcut ▸ List.mem_append_left back hpiece)
  have htake : p.glyphs.take (joinWith separator front).length = joinWith separator front := by
    rw [← joinWith_splitOn separator p.glyphs, hcut]
    cases back with
    | nil => rw [List.append_nil, List.take_length]
    | cons piece back => rw [joinWith_append hfront (by simp), List.take_left]
  rw [htake, names, splitOn_joinWith hfront hwhole]

/-- The parent of a path lacks its last name. -/
theorem names_of_parent? (h : p.parent? = some parent) : parent.names = p.names.dropLast := by
  obtain ⟨leading, hends, hleading⟩ := p.exists_partEnds_eq
  obtain ⟨rfl, -, -⟩ := glyphs_of_parent? h
  have hcount := length_stepEnds 0 (splitOn separator p.glyphs)
  cases hsteps : stepEnds 0 (splitOn separator p.glyphs) with
  | nil =>
    have hnone : p.names = [] :=
      List.eq_nil_of_length_eq_zero (by rw [names, ← hcount, hsteps]; rfl)
    rw [hends, hsteps, List.append_nil, hnone]
    rcases hleading with ⟨rfl, -⟩ | ⟨rfl, -⟩ <;> exact names_nil
  | cons first others =>
    cases others with
    | nil =>
      have hone : p.names.length = 1 := by rw [names, ← hcount, hsteps]; rfl
      obtain ⟨name, hname⟩ := List.length_eq_one_iff.mp hone
      rw [hends, hsteps, List.dropLast_concat, hname]
      rcases hleading with ⟨rfl, -⟩ | ⟨rfl, hroot⟩
      · exact names_nil
      · exact hroot
    | cons second more =>
      obtain ⟨cut, hlast⟩ : ∃ cut, (first :: second :: more).dropLast.getLast? = some cut :=
        ⟨_, List.getLast?_eq_some_getLast (by simp)⟩
      obtain ⟨front, back, hcut, hfront, hlength, hnames⟩ :=
        exists_cut_of_getLast?_dropLast (hsteps ▸ hlast)
      rw [hends, hsteps, List.dropLast_append_of_ne_nil (by simp), List.getLast?_append, hlast,
        Option.some_or, Option.getD_some, hlength, Nat.zero_add, names_take_of_cut hcut hfront,
        hnames]
      rfl

/-- A path starts at the root when its parent does. -/
theorem isAbsolute_parent (h : p.parent? = some parent) : parent.isAbsolute = p.isAbsolute := by
  obtain ⟨leading, hends, hleading⟩ := p.exists_partEnds_eq
  obtain ⟨rfl, hne, hsingle⟩ := glyphs_of_parent? h
  cases hlast : p.partEnds.dropLast.getLast? with
  | none =>
    have hone : p.partEnds.length = 1 := by
      have hshort := congrArg List.length (List.getLast?_eq_none_iff.mp hlast)
      have hpos := List.length_pos_iff.mpr hne
      rw [List.length_dropLast, List.length_nil] at hshort
      omega
    rw [hsingle hone]
    rfl
  | some cut =>
    have hpos : 0 < cut := by
      have hmem := List.dropLast_subset _ (List.mem_of_getLast? hlast)
      rw [hends, List.mem_append] at hmem
      rcases hmem with hmem | hmem
      · rcases hleading with ⟨rfl, -⟩ | ⟨rfl, -⟩
        · cases hmem
        · rw [List.mem_singleton.mp hmem]
          exact Nat.one_pos
      · exact pos_of_mem_stepEnds hmem
    obtain ⟨rest, hrest⟩ := Nat.exists_eq_succ_of_ne_zero hpos.ne'
    rw [Option.getD_some, hrest, isAbsolute, isAbsolute]
    cases p.glyphs <;> rfl

/-- A path with a name has a parent. -/
theorem exists_parent? (h : p.names ≠ []) : ∃ parent, p.parent? = some parent := by
  obtain ⟨leading, hends, hleading⟩ := p.exists_partEnds_eq
  have hcount := length_stepEnds 0 (splitOn separator p.glyphs)
  have hsome : 0 < (stepEnds 0 (splitOn separator p.glyphs)).length := by
    rw [hcount]
    exact List.length_pos_iff.mpr h
  have hlength := congrArg List.length hends
  rw [List.length_append] at hlength
  have hne : p.partEnds ≠ [] := List.length_pos_iff.mp (by omega)
  unfold parent?
  simp only [hne, if_false]
  split
  · rename_i hsingle
    obtain ⟨hone, habsolute⟩ := Bool.and_eq_true_iff.mp hsingle
    rcases hleading with ⟨rfl, hrelative⟩ | ⟨rfl, -⟩
    · rw [hrelative] at habsolute
      cases habsolute
    · have hone := of_decide_eq_true hone
      rw [List.length_singleton] at hlength
      omega
  · exact ⟨_, rfl⟩

/-- Where a path with a name is understood from another path, so is its parent. -/
theorem sameParts_parent_join (base : Path) (hp : p.isAbsolute = false) (hnames : p.names ≠ [])
    (h : p.parent? = some parent) :
    ∃ parent', (base.join p).parent? = some parent' ∧ SameParts (base.join parent) parent' := by
  have hparent : parent.isAbsolute = false := (isAbsolute_parent h).trans hp
  have hjoined : (base.join p).names ≠ [] := by
    rw [names_join base hp]
    exact List.append_ne_nil_of_right_ne_nil _ hnames
  obtain ⟨parent', hparent'⟩ := exists_parent? hjoined
  refine ⟨parent', hparent', ?_, ?_⟩
  · rw [isAbsolute_parent hparent', isAbsolute_join, isAbsolute_join, hp, hparent]
  · rw [names_of_parent? hparent', names_join base hp, names_join base hparent, names_of_parent? h,
      List.dropLast_append_of_ne_nil hnames]

end Launchpad.Path
