import Launchpad.Path
import Launchpad.Proofs.Text.Separated

/-!
The pieces of a path that a look-up goes through. Separators at the end of a path add no piece.
-/

namespace Launchpad.Path

open Text

theorem pieces_append_separator (left right : List Glyph) :
    pieces ⟨left ++ separator :: right⟩ = pieces ⟨left⟩ ++ pieces ⟨right⟩ := by
  simp [pieces, splitOn_append_separator]

theorem pieces_of_separators {slashes : List Glyph} (h : ∀ g ∈ slashes, g = separator) :
    pieces ⟨slashes⟩ = [] := by
  induction slashes with
  | nil => simp [pieces, splitOn]
  | cons g rest ih =>
    have hg := h g List.mem_cons_self
    subst hg
    have hrest := ih fun g hg => h g (List.mem_cons_of_mem _ hg)
    have hnil : pieces ⟨[]⟩ = [] := by simp [pieces, splitOn]
    have happend := pieces_append_separator [] rest
    rwa [hnil, hrest] at happend

theorem pieces_append_separators (left : List Glyph) {slashes : List Glyph}
    (h : ∀ g ∈ slashes, g = separator) : pieces ⟨left ++ slashes⟩ = pieces ⟨left⟩ := by
  cases slashes with
  | nil => rw [List.append_nil]
  | cons g rest =>
    have hg := h g List.mem_cons_self
    subst hg
    have hrest := pieces_of_separators fun g hg => h g (List.mem_cons_of_mem _ hg)
    rw [pieces_append_separator, hrest, List.append_nil]

/-- Taking the separators at the end away takes nothing else. -/
theorem exists_glyphs_eq_withoutSlash_append (p : Path) :
    ∃ slashes, p.glyphs = p.withoutSlash.glyphs ++ slashes ∧ ∀ g ∈ slashes, g = separator := by
  unfold withoutSlash
  split
  · exact ⟨[], by simp, by simp⟩
  · refine ⟨(p.glyphs.reverse.takeWhile (· = separator)).reverse, ?_, fun g hg => ?_⟩
    · rw [← List.reverse_append, List.takeWhile_append_dropWhile, List.reverse_reverse]
    · have hall := List.all_takeWhile (p := (· = separator)) (l := p.glyphs.reverse)
      exact of_decide_eq_true (List.all_eq_true.mp hall g (List.mem_reverse.mp hg))

@[simp]
theorem pieces_withoutSlash (p : Path) : p.withoutSlash.pieces = p.pieces := by
  obtain ⟨slashes, hglyphs, hslashes⟩ := exists_glyphs_eq_withoutSlash_append p
  have h := pieces_append_separators p.withoutSlash.glyphs hslashes
  rw [← hglyphs] at h
  exact h.symm

theorem endsInSlash_withoutSlash {p : Path} (h : p.pieces ≠ []) :
    p.withoutSlash.endsInSlash = false := by
  rw [withoutSlash, if_neg h, endsInSlash, List.getLast?_reverse]
  have hhead := List.head?_dropWhile_not (fun g => decide (g = separator)) p.glyphs.reverse
  cases hfirst : (p.glyphs.reverse.dropWhile fun g => decide (g = separator)).head? with
  | none => rfl
  | some g =>
    rw [hfirst] at hhead
    have hne : g ≠ separator := by simpa using hhead
    simp [hne]

@[simp]
theorem isAbsolute_withoutSlash (p : Path) : p.withoutSlash.isAbsolute = p.isAbsolute := by
  obtain ⟨slashes, hglyphs, hslashes⟩ := exists_glyphs_eq_withoutSlash_append p
  rw [isAbsolute, isAbsolute]
  cases hwithout : p.withoutSlash.glyphs with
  | cons g rest => rw [hglyphs, hwithout, List.cons_append, List.head?_cons, List.head?_cons]
  | nil =>
    -- Only separators would be left, and then none is taken away.
    have hpieces : p.pieces = [] := by
      rw [hwithout, List.nil_append] at hglyphs
      have h := pieces_of_separators hslashes
      rwa [← hglyphs] at h
    have hself : p.withoutSlash = p := by rw [withoutSlash, if_pos hpieces]
    rw [hself] at hwithout
    rw [hwithout]

theorem isEmpty_withoutSlash (p : Path) : p.withoutSlash.isEmpty = p.isEmpty := by
  by_cases hpieces : p.pieces = []
  · rw [withoutSlash, if_pos hpieces]
  · have hne : ∀ {q : Path}, q.pieces ≠ [] → q.isEmpty = false := by
      intro q hq
      cases hempty : q.isEmpty with
      | false => rfl
      | true =>
        have hnil : q.glyphs = [] := List.isEmpty_iff.mp hempty
        exact absurd (by simp [pieces, hnil, splitOn]) hq
    rw [hne hpieces, hne (by rwa [pieces_withoutSlash])]

theorem contains_withoutSlash (p : Path) {g : Glyph} (hg : g ≠ separator) :
    p.withoutSlash.glyphs.contains g = p.glyphs.contains g := by
  obtain ⟨slashes, hglyphs, hslashes⟩ := exists_glyphs_eq_withoutSlash_append p
  have hnot : g ∉ slashes := fun hmem => hg (hslashes g hmem)
  rw [hglyphs]
  simp [hnot]

theorem length_bytes_withoutSlash_le (p : Path) :
    p.withoutSlash.bytes.length ≤ p.bytes.length := by
  obtain ⟨slashes, hglyphs, -⟩ := exists_glyphs_eq_withoutSlash_append p
  rw [bytes, bytes, hglyphs, Name.bytes, Name.bytes, List.flatMap_append, List.length_append]
  exact Nat.le_add_right _ _

end Launchpad.Path
