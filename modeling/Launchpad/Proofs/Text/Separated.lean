import Launchpad.Text.Separated
import Mathlib.Data.List.Basic

/-!
Splitting and joining as maps on pieces. Splitting a text at one of its separators splits both
sides; joining pieces that hold no separator can be undone; and the separators of a joined text can
be counted.
-/

namespace Launchpad.Text

variable {α : Type} [DecidableEq α] {separator : α}

theorem splitOn_cons_separator (rest : List α) :
    splitOn separator (separator :: rest) = [] :: splitOn separator rest := by
  simp [splitOn]

theorem splitOn_cons_of_ne {c : α} (hc : c ≠ separator) (rest : List α) :
    splitOn separator (c :: rest) =
      (c :: (splitOn separator rest).headD []) :: (splitOn separator rest).tail := by
  rw [splitOn, if_neg hc]
  cases hrest : splitOn separator rest with
  | nil => exact absurd hrest (splitOn_ne_nil separator rest)
  | cons piece pieces => rfl

/-- A separator cuts a text: each side is split for itself. -/
theorem splitOn_append_separator (left right : List α) :
    splitOn separator (left ++ separator :: right) =
      splitOn separator left ++ splitOn separator right := by
  induction left with
  | nil => rw [List.nil_append, splitOn_cons_separator]; rfl
  | cons c left ih =>
    by_cases hc : c = separator
    · subst hc
      rw [List.cons_append, splitOn_cons_separator, splitOn_cons_separator, ih, List.cons_append]
    · rw [List.cons_append, splitOn_cons_of_ne hc, splitOn_cons_of_ne hc, ih]
      cases hleft : splitOn separator left with
      | nil => exact absurd hleft (splitOn_ne_nil separator left)
      | cons piece pieces => rfl

/-- A text without separators is one piece. -/
theorem splitOn_of_not_mem {text : List α} (h : separator ∉ text) :
    splitOn separator text = [text] := by
  induction text with
  | nil => rfl
  | cons c rest ih =>
    have hc : c ≠ separator := fun heq => h (heq ▸ List.mem_cons_self)
    rw [splitOn_cons_of_ne hc, ih fun hrest => h (List.mem_cons_of_mem c hrest)]
    rfl

/-- Splitting a joined text splits each of its pieces. -/
theorem splitOn_joinWith_eq_flatMap {pieces : List (List α)} (hne : pieces ≠ []) :
    splitOn separator (joinWith separator pieces) = pieces.flatMap (splitOn separator) := by
  induction pieces with
  | nil => exact absurd rfl hne
  | cons piece pieces ih =>
    cases pieces with
    | nil => rw [joinWith, List.flatMap_singleton]
    | cons next more =>
      rw [joinWith, splitOn_append_separator, ih (by simp)]
      exact List.flatMap_cons.symm

/-- Splitting gives back the pieces that a text was joined from. -/
theorem splitOn_joinWith {pieces : List (List α)} (hne : pieces ≠ [])
    (h : ∀ piece ∈ pieces, separator ∉ piece) :
    splitOn separator (joinWith separator pieces) = pieces := by
  rw [splitOn_joinWith_eq_flatMap hne,
    List.flatMap_congr fun piece hpiece => splitOn_of_not_mem (h piece hpiece),
    List.flatMap_singleton']

/-- No piece of a text holds the separator. -/
theorem separator_not_mem_of_mem_splitOn {text piece : List α}
    (h : piece ∈ splitOn separator text) : separator ∉ piece := by
  induction text generalizing piece with
  | nil =>
    rw [splitOn, List.mem_singleton] at h
    simp [h]
  | cons c rest ih =>
    by_cases hc : c = separator
    · rw [hc, splitOn_cons_separator, List.mem_cons] at h
      rcases h with rfl | h
      · simp
      · exact ih h
    · rw [splitOn_cons_of_ne hc] at h
      cases hrest : splitOn separator rest with
      | nil => exact absurd hrest (splitOn_ne_nil separator rest)
      | cons first pieces =>
        rw [hrest, List.headD_cons, List.tail_cons, List.mem_cons] at h
        rcases h with rfl | h
        · have hfirst : separator ∉ first := ih (hrest ▸ List.mem_cons_self)
          exact List.not_mem_cons_of_ne_of_not_mem (Ne.symm hc) hfirst
        · exact ih (hrest ▸ List.mem_cons_of_mem first h)

/-- A map that keeps separators and makes none goes through splitting. -/
theorem splitOn_map {β : Type} [DecidableEq β] {sign : β} {f : α → β}
    (hf : ∀ c, f c = sign ↔ c = separator) (text : List α) :
    splitOn sign (text.map f) = (splitOn separator text).map (List.map f) := by
  induction text with
  | nil => rfl
  | cons c rest ih =>
    by_cases hc : c = separator
    · rw [List.map_cons, (hf c).mpr hc, hc, splitOn_cons_separator, splitOn_cons_separator, ih,
        List.map_cons, List.map_nil]
    · rw [List.map_cons, splitOn_cons_of_ne (mt (hf c).mp hc), splitOn_cons_of_ne hc, ih]
      cases hrest : splitOn separator rest with
      | nil => exact absurd hrest (splitOn_ne_nil separator rest)
      | cons piece pieces => rfl

/-- What stands in a piece of a text stands in the text. -/
theorem mem_of_mem_splitOn {text piece : List α} (hpiece : piece ∈ splitOn separator text) {c : α}
    (hc : c ∈ piece) : c ∈ text := by
  induction text generalizing piece with
  | nil =>
    rw [splitOn, List.mem_singleton] at hpiece
    rwa [hpiece] at hc
  | cons d rest ih =>
    by_cases hd : d = separator
    · rw [hd, splitOn_cons_separator, List.mem_cons] at hpiece
      rcases hpiece with rfl | hpiece
      · simp at hc
      · exact List.mem_cons_of_mem d (ih hpiece hc)
    · rw [splitOn_cons_of_ne hd] at hpiece
      cases hrest : splitOn separator rest with
      | nil => exact absurd hrest (splitOn_ne_nil separator rest)
      | cons first pieces =>
        rw [hrest, List.headD_cons, List.tail_cons, List.mem_cons] at hpiece
        rcases hpiece with rfl | hpiece
        · rcases List.mem_cons.mp hc with rfl | hfirst
          · exact List.mem_cons_self
          · exact List.mem_cons_of_mem d (ih (hrest ▸ List.mem_cons_self) hfirst)
        · exact List.mem_cons_of_mem d (ih (hrest ▸ List.mem_cons_of_mem first hpiece) hc)

/-- What stands in a text is a separator or stands in a piece. -/
theorem mem_splitOn_of_mem {text : List α} {c : α} (hc : c ∈ text) (hne : c ≠ separator) :
    ∃ piece ∈ splitOn separator text, c ∈ piece := by
  induction text with
  | nil => simp at hc
  | cons d rest ih =>
    by_cases hd : d = separator
    · rw [hd] at hc ⊢
      obtain ⟨piece, hpiece, hmem⟩ := ih ((List.mem_cons.mp hc).resolve_left hne)
      exact ⟨piece, by rw [splitOn_cons_separator]; exact List.mem_cons_of_mem [] hpiece, hmem⟩
    · rw [splitOn_cons_of_ne hd]
      cases hrest : splitOn separator rest with
      | nil => exact absurd hrest (splitOn_ne_nil separator rest)
      | cons first pieces =>
        rcases List.mem_cons.mp hc with rfl | htail
        · exact ⟨_, List.mem_cons_self, List.mem_cons_self⟩
        · obtain ⟨piece, hpiece, hmem⟩ := ih htail
          rw [hrest, List.mem_cons] at hpiece
          rcases hpiece with rfl | hpiece
          · exact ⟨_, List.mem_cons_self, List.mem_cons_of_mem d hmem⟩
          · exact ⟨piece, List.mem_cons_of_mem _ hpiece, hmem⟩

omit [DecidableEq α] in
/-- What holds no separator does not reach beyond the first one. -/
theorem prefix_append_separator_iff {pattern : List α} (h : separator ∉ pattern)
    (front back : List α) :
    pattern <+: front ++ separator :: back ↔ pattern <+: front := by
  constructor
  · intro hpattern
    rcases List.prefix_or_prefix_of_prefix hpattern (List.prefix_append front _) with
      hfront | ⟨rest, rfl⟩
    · exact hfront
    · rw [List.prefix_append_right_inj] at hpattern
      cases rest with
      | nil => simp
      | cons c rest =>
        obtain ⟨rfl, -⟩ := List.cons_prefix_cons.mp hpattern
        exact absurd (by simp) h
  · intro hfront
    exact hfront.trans (List.prefix_append front _)

/-- A joined text holds the separators of its pieces and one between neighbours. -/
theorem count_joinWith (pieces : List (List α)) :
    (joinWith separator pieces).count separator =
      pieces.flatten.count separator + (pieces.length - 1) := by
  induction pieces with
  | nil => rfl
  | cons piece pieces ih =>
    cases pieces with
    | nil => simp [joinWith]
    | cons next more =>
      have hflatten : (piece :: next :: more).flatten.count separator =
          piece.count separator + (next :: more).flatten.count separator := by
        rw [List.flatten_cons, List.count_append]
      rw [joinWith, List.count_append, List.count_cons_self, ih, hflatten]
      simp only [List.length_cons]
      omega

end Launchpad.Text
