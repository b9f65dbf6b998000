import Launchpad.Path
import Launchpad.Proofs.Text.Separated

/-!
The names that a path goes through, as a map on paths. Joining puts names behind names unless an
absolute path replaces everything; printing changes only names that hold bytes which spell no
character.
-/

namespace Launchpad.Path

open Text

theorem names_nil : names ⟨[]⟩ = [] := by
  simp [names, splitOn, isStep]

theorem names_append_separator (left right : List Glyph) :
    names ⟨left ++ separator :: right⟩ = names ⟨left⟩ ++ names ⟨right⟩ := by
  simp [names, splitOn_append_separator]

theorem join_of_isAbsolute (base : Path) {p : Path} (hp : p.isAbsolute = true) :
    base.join p = p := if_pos hp

/-- Going on from a path appends names. -/
theorem names_join (base : Path) {p : Path} (hp : p.isAbsolute = false) :
    (base.join p).names = base.names ++ p.names := by
  unfold join
  rw [if_neg (by simp [hp])]
  split
  · rename_i hend
    rcases Bool.or_eq_true_iff.mp hend with hempty | hslash
    · have hbase : base = ⟨[]⟩ := by
        cases base
        simpa [isEmpty] using hempty
      simp [hbase, names_nil]
    · obtain ⟨glyphs⟩ := base
      obtain ⟨front, rfl⟩ := List.getLast?_eq_some_iff.mp (of_decide_eq_true hslash)
      rw [names_append_separator, names_nil, List.append_nil, List.append_assoc,
        List.singleton_append, names_append_separator]
  · exact names_append_separator base.glyphs p.glyphs

theorem isAbsolute_join (base p : Path) :
    (base.join p).isAbsolute = (p.isAbsolute || base.isAbsolute) := by
  unfold join
  cases hp : p.isAbsolute with
  | true => simp [hp]
  | false =>
    obtain ⟨glyphs⟩ := base
    cases glyphs with
    | nil => simpa [isEmpty, isAbsolute] using hp
    | cons g glyphs =>
      simp only [Bool.false_eq_true, if_false, Bool.false_or]
      split <;> rfl

theorem mem_glyphs_join {base p : Path} (hp : p.isAbsolute = false) {g : Glyph}
    (hg : g ≠ separator) : g ∈ (base.join p).glyphs ↔ g ∈ base.glyphs ∨ g ∈ p.glyphs := by
  unfold join
  rw [if_neg (by simp [hp])]
  split
  · exact List.mem_append
  · simp [hg]

/-! ### Printing -/

/-- The path that is read from the printed form of a path. -/
def reread (p : Path) : Path := .ofText p.text

theorem glyphs_reread (p : Path) : p.reread.glyphs = p.glyphs.map fun g => .char g.shown := by
  simp [reread, ofText, text, Glyph.ofText, Glyph.text]

theorem shown_eq_iff {g : Glyph} {c : Char} (hc : c ≠ replacement) :
    Glyph.char g.shown = .char c ↔ g = .char c := by
  cases g with
  | char d => rfl
  | broken bytes => simp [Glyph.shown, Ne.symm hc]

theorem mem_text_iff (p : Path) {c : Char} (hc : c ≠ replacement) :
    c ∈ p.text.toList ↔ .char c ∈ p.glyphs := by
  have hshown : ∀ g : Glyph, g.shown = c ↔ g = .char c := fun g => by
    rw [← shown_eq_iff hc, Glyph.char.injEq]
  simp [text, Glyph.text, hshown]

theorem isAbsolute_reread (p : Path) : p.reread.isAbsolute = p.isAbsolute := by
  obtain ⟨glyphs⟩ := p
  rw [isAbsolute, isAbsolute, glyphs_reread]
  cases glyphs with
  | nil => rfl
  | cons g rest =>
    simp only [List.map_cons, List.head?_cons, Option.some.injEq, separator]
    exact decide_eq_decide.mpr (shown_eq_iff (by decide))

theorem isStep_map_shown (piece : Name) :
    isStep (piece.map fun g => .char g.shown) = isStep piece := by
  match piece with
  | [] => rfl
  | [g] =>
    simp only [isStep, List.map_cons, List.map_nil]
    have hdot := @shown_eq_iff g '.' (by decide)
    simp [hdot]
  | g :: h :: rest => simp [isStep]

/-- Printing a path keeps its steps and shows each of them. -/
theorem names_reread (p : Path) :
    p.reread.names = p.names.map (List.map fun g => .char g.shown) := by
  have hsign : ∀ g : Glyph, Glyph.char g.shown = separator ↔ g = separator :=
    fun g => shown_eq_iff (by decide)
  rw [names, names, glyphs_reread, splitOn_map hsign, List.filter_map]
  congr 2
  funext piece
  exact isStep_map_shown piece

/-- A path that is printed as it is: each of its signs is a character. -/
def isSpelled (p : Path) : Bool := p.glyphs.all fun g => g.char?.isSome

theorem isSpelled_join {base p : Path} (hp : p.isAbsolute = false) :
    (base.join p).isSpelled = (base.isSpelled && p.isSpelled) := by
  unfold join
  rw [if_neg (by simp [hp])]
  split
  · exact List.all_append
  · simp [isSpelled, separator, Glyph.char?]

theorem isSpelled_ofText (s : String) : (ofText s).isSpelled = true := by
  simp [isSpelled, ofText, Glyph.ofText, Glyph.char?]

theorem shown_eq_self_iff (g : Glyph) : Glyph.char g.shown = g ↔ g.char?.isSome = true := by
  cases g <;> simp [Glyph.shown, Glyph.char?]

theorem exists_name_of_mem {p : Path} {g : Glyph} (hg : g ∈ p.glyphs) (hslash : g ≠ separator)
    (hdot : g ≠ .char '.') : ∃ name ∈ p.names, g ∈ name := by
  obtain ⟨piece, hpiece, hmem⟩ := mem_splitOn_of_mem hg hslash
  refine ⟨piece, List.mem_filter.mpr ⟨hpiece, ?_⟩, hmem⟩
  have hne : piece ≠ [] := List.ne_nil_of_mem hmem
  have hstep : piece ≠ [.char '.'] := by
    rintro rfl
    exact hdot (List.mem_singleton.mp hmem)
  simp [isStep, hne, hstep]

/-- A path without names is written with separators and single dots alone. -/
theorem glyphs_of_names_eq_nil {p : Path} (h : p.names = []) {g : Glyph} (hg : g ∈ p.glyphs) :
    g = separator ∨ g = .char '.' := by
  by_contra hne
  obtain ⟨hslash, hdot⟩ := not_or.mp hne
  obtain ⟨name, hname, -⟩ := exists_name_of_mem hg hslash hdot
  simp [h] at hname

/-- Printing changes the names of a path exactly when it cannot show one of its signs. -/
theorem names_reread_eq_iff (p : Path) : p.reread.names = p.names ↔ p.isSpelled = true := by
  have hself : ∀ {β : Type} (f : β → β) (l : List β), l.map f = l ↔ ∀ x ∈ l, f x = x := by
    intro β f l
    conv_lhs => rhs; rw [← List.map_id l]
    exact List.map_eq_map_iff
  rw [names_reread, isSpelled, List.all_eq_true, hself]
  constructor
  · intro h g hg
    cases g with
    | char c => rfl
    | broken bytes =>
      obtain ⟨name, hname, hmem⟩ := exists_name_of_mem hg (by simp [separator]) (by simp)
      exact (shown_eq_self_iff _).mp ((hself _ _).mp (h name hname) _ hmem)
  · intro h name hname
    refine (hself _ _).mpr fun g hg => (shown_eq_self_iff g).mpr (h g ?_)
    exact mem_of_mem_splitOn (List.mem_filter.mp hname).1 hg

end Launchpad.Path
