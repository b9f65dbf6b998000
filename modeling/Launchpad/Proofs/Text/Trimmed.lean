import Launchpad.Text.Blank
import Mathlib.Data.List.Basic

/-!
What trimming leaves. A text is what remains of another when white space stands around it there, and
it neither begins nor ends with any itself; there is one such text, and trimming finds it.
-/

namespace Launchpad.Text

/-- A text is another one without the white space around it. -/
structure Trimmed (whole kept : String) : Prop where
  surrounded : ∃ before after : List Char, whole.toList = before ++ kept.toList ++ after ∧
    (∀ c ∈ before, isBlank c = true) ∧ ∀ c ∈ after, isBlank c = true
  head : ∀ c ∈ kept.toList.head?, isBlank c = false
  last : ∀ c ∈ kept.toList.getLast?, isBlank c = false

/-- White space in front of a text that does not begin with any is dropped, and nothing else. -/
theorem dropWhile_append_of_blank {before kept : List Char}
    (hbefore : ∀ c ∈ before, isBlank c = true) (hkept : ∀ c ∈ kept.head?, isBlank c = false) :
    (before ++ kept).dropWhile isBlank = kept := by
  rw [List.dropWhile_append_of_pos hbefore]
  cases kept with
  | nil => rfl
  | cons c rest =>
    have hc : isBlank c = false := hkept c rfl
    exact List.dropWhile_cons_of_neg (by simp [hc])

/-- The rest behind the white space in front begins with none. -/
theorem head?_dropWhile_isBlank (cs : List Char) :
    ∀ c ∈ (cs.dropWhile isBlank).head?, isBlank c = false := by
  intro c hc
  have hnot := List.head?_dropWhile_not isBlank cs
  rw [Option.mem_def.mp hc] at hnot
  simpa using hnot

theorem mem_takeWhile_isBlank {cs : List Char} {c : Char} (h : c ∈ cs.takeWhile isBlank) :
    isBlank c = true :=
  List.all_eq_true.mp List.all_takeWhile c h

theorem trimmed_trim (whole : String) : Trimmed whole (trim whole) := by
  let front := whole.toList.dropWhile isBlank
  have hkept : (trim whole).toList = (front.reverse.dropWhile isBlank).reverse := by
    simp [trim, trimList, front]
  have hback : front = (front.reverse.dropWhile isBlank).reverse ++
      (front.reverse.takeWhile isBlank).reverse := by
    rw [← List.reverse_append, List.takeWhile_append_dropWhile, List.reverse_reverse]
  constructor
  · refine ⟨whole.toList.takeWhile isBlank, (front.reverse.takeWhile isBlank).reverse, ?_, ?_, ?_⟩
    · rw [hkept, List.append_assoc, ← hback]
      exact (List.takeWhile_append_dropWhile).symm
    · intro c hc
      exact mem_takeWhile_isBlank hc
    · intro c hc
      exact mem_takeWhile_isBlank (List.mem_reverse.mp hc)
  · intro c hc
    -- What is left behind the front begins as the front does, unless nothing is left.
    have hfront := head?_dropWhile_isBlank whole.toList
    rw [hkept] at hc
    change ∀ c ∈ front.head?, isBlank c = false at hfront
    refine hfront c ?_
    rw [hback]
    simp only [Option.mem_def] at hc ⊢
    rw [List.head?_append, hc]
    rfl
  · intro c hc
    rw [hkept, List.getLast?_reverse] at hc
    exact head?_dropWhile_isBlank _ c hc

theorem Trimmed.eq_trim {whole kept : String} (h : Trimmed whole kept) : kept = trim whole := by
  obtain ⟨before, after, hwhole, hbefore, hafter⟩ := h.surrounded
  have hlist : trimList whole.toList = kept.toList := by
    by_cases hempty : kept.toList = []
    · -- Everything is white space, so all of it is dropped at once.
      have hall : ∀ c ∈ before ++ after, isBlank c = true := by
        intro c hc
        rcases List.mem_append.mp hc with hc | hc
        · exact hbefore c hc
        · exact hafter c hc
      rw [hempty, List.append_nil] at hwhole
      have hdropped :=
        dropWhile_append_of_blank hall (show ∀ c ∈ [].head?, isBlank c = false by simp)
      rw [List.append_nil] at hdropped
      rw [hempty, trimList, hwhole, hdropped]
      rfl
    · have hhead : ∀ c ∈ (kept.toList ++ after).head?, isBlank c = false := by
        intro c hc
        rw [List.head?_append_of_ne_nil _ hempty] at hc
        exact h.head c hc
      have hlast : ∀ c ∈ kept.toList.reverse.head?, isBlank c = false := by
        intro c hc
        rw [List.head?_reverse] at hc
        exact h.last c hc
      have hafter' : ∀ c ∈ after.reverse, isBlank c = true :=
        fun c hc => hafter c (List.mem_reverse.mp hc)
      rw [trimList, hwhole, List.append_assoc, dropWhile_append_of_blank hbefore hhead,
        List.reverse_append, dropWhile_append_of_blank hafter' hlast, List.reverse_reverse]
  rw [trim, hlist, String.ofList_toList]

theorem trimmed_iff {whole kept : String} : Trimmed whole kept ↔ kept = trim whole := by
  constructor
  · exact Trimmed.eq_trim
  · rintro rfl
    exact trimmed_trim whole

/-- Of a blank text nothing is left. -/
theorem Trimmed.eq_empty {whole kept : String} (h : Trimmed whole kept)
    (hblank : isBlankText whole = true) : kept = "" := by
  obtain ⟨before, after, hwhole, -, -⟩ := h.surrounded
  cases hkept : kept.toList with
  | nil => exact String.toList_eq_nil_iff.mp hkept
  | cons c rest =>
    have hmem : c ∈ whole.toList := by simp [hwhole, hkept]
    have hc : isBlank c = true := List.all_eq_true.mp hblank c hmem
    have hc' : isBlank c = false := h.head c (by simp [hkept])
    rw [hc] at hc'
    cases hc'

/-- White space behind a text makes no difference to what is left of it. -/
theorem Trimmed.append_blank {whole kept blank : String} (h : Trimmed whole kept)
    (hblank : isBlankText blank = true) : Trimmed (whole ++ blank) kept := by
  obtain ⟨before, after, hwhole, hbefore, hafter⟩ := h.surrounded
  refine ⟨⟨before, after ++ blank.toList, ?_, hbefore, ?_⟩, h.head, h.last⟩
  · rw [String.toList_append, hwhole, List.append_assoc]
  · intro c hc
    rcases List.mem_append.mp hc with hc | hc
    · exact hafter c hc
    · exact List.all_eq_true.mp hblank c hc

end Launchpad.Text
