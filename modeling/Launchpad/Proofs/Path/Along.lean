import Launchpad.Proofs.Path.Below
import Launchpad.Proofs.Path.Names

/-!
Paths that go on from a path along names, and the order of paths: name by name, and each name byte by
byte. This is not the order of the paths as texts: `a/x.js` comes before `a.js`, although a slash comes
behind a dot.
-/

namespace Launchpad

namespace Text

theorem bytesLe_iff (a b : List UInt8) : bytesLe a b = true ↔ a ≤ b := by
  induction a generalizing b with
  | nil => simp [bytesLe]
  | cons x a ih =>
    cases b with
    | nil => simp [bytesLe]
    | cons y b =>
      rw [bytesLe, List.cons_le_cons_iff]
      by_cases hxy : x = y
      · subst hxy
        simp [ih]
      · simp [hxy]

end Text

namespace Name

theorem le_trans (a b c : Name) (hab : le a b = true) (hbc : le b c = true) : le a c = true := by
  rw [le, Text.bytesLe_iff] at hab hbc ⊢
  exact List.le_trans hab hbc

theorem le_total (a b : Name) : (le a b || le b a) = true := by
  rw [Bool.or_eq_true, le, le, Text.bytesLe_iff, Text.bytesLe_iff]
  exact List.le_total a.bytes b.bytes

theorem lt_of_le_of_ne {a b : Name} (hle : le a b = true) (hne : a.bytes ≠ b.bytes) :
    a.bytes < b.bytes := by
  rw [le, Text.bytesLe_iff] at hle
  exact (List.le_iff_lt_or_eq.mp hle).resolve_right hne

end Name

namespace Path

open Text

variable {p : Path} {name ext : Name} {way : List Name}

/-- The path that goes on from a path, one name after the other. -/
def along (p : Path) (way : List Name) : Path := way.foldl (fun q name => q.join ⟨name⟩) p

theorem along_concat (p : Path) (way : List Name) (name : Name) :
    p.along (way ++ [name]) = (p.along way).join ⟨name⟩ := by
  rw [along, List.foldl_append]
  rfl

theorem IsSingle.isAbsolute_eq_false (h : IsSingle name) : isAbsolute ⟨name⟩ = false := by
  cases name with
  | nil => rfl
  | cons g rest =>
    have hg : g ≠ separator := by
      rintro rfl
      exact h.whole List.mem_cons_self
    simp [isAbsolute, hg]

theorem IsSingle.names_eq (h : IsSingle name) : names ⟨name⟩ = [name] := by
  rw [names, splitOn_of_not_mem h.whole]
  simp [h.isStep]

theorem names_along (p : Path) (h : ∀ name ∈ way, IsSingle name) :
    (p.along way).names = p.names ++ way := by
  induction way generalizing p with
  | nil => simp [along]
  | cons name way ih =>
    have hname : IsSingle name := h name List.mem_cons_self
    have hway := ih (p.join ⟨name⟩) fun other hother => h other (List.mem_cons_of_mem name hother)
    have hstep : p.along (name :: way) = (p.join ⟨name⟩).along way := rfl
    rw [hstep, hway, names_join p hname.isAbsolute_eq_false, hname.names_eq, List.append_assoc,
      List.singleton_append]

/-! ### Extensions -/

/-- A name has an extension without dots when it is a stem, a dot and the extension. -/
theorem extensionOf?_eq_some_iff (hext : .char '.' ∉ ext) :
    extensionOf? name = some ext ↔ ∃ stem, stem ≠ [] ∧ name = stem ++ .char '.' :: ext := by
  have hsplit := List.takeWhile_append_dropWhile (p := (· ≠ Glyph.char '.')) (l := name.reverse)
  unfold extensionOf?
  simp only
  constructor
  · intro h
    split at h
    · rename_i first rest hdrop
      rw [hdrop] at hsplit
      refine ⟨(first :: rest).reverse, by simp, ?_⟩
      cases h
      have hname := congrArg List.reverse hsplit
      simpa using hname.symm
    · cases h
  · rintro ⟨stem, hstem, rfl⟩
    have hback : ∀ g ∈ ext.reverse, decide (g ≠ Glyph.char '.') = true := by
      intro g hg
      have hne : g ≠ .char '.' := by
        rintro rfl
        exact hext (List.mem_reverse.mp hg)
      exact decide_eq_true hne
    have hreverse : (stem ++ .char '.' :: ext).reverse =
        ext.reverse ++ .char '.' :: stem.reverse := by simp
    rw [hreverse, List.dropWhile_append_of_pos hback, List.takeWhile_append_of_pos hback]
    obtain ⟨front, last, rfl⟩ := List.eq_nil_or_concat stem |>.resolve_left hstem
    simp

theorem extension?_along_concat (hway : ∀ name ∈ way, IsSingle name) (hname : IsSingle name)
    (hup : name ≠ Name.up) : (p.along (way ++ [name])).extension? = extensionOf? name := by
  have hall : ∀ other ∈ way ++ [name], IsSingle other := by
    intro other hother
    rcases List.mem_append.mp hother with hother | hother
    · exact hway other hother
    · rwa [List.mem_singleton.mp hother]
  rw [extension?, fileName?, names_along p hall, ← List.append_assoc, List.getLast?_concat]
  simp [Option.filter, hup]

/-! ### The order of paths -/

/-- A path comes before another when its names do, each compared by its bytes. -/
def Precedes (p q : Path) : Prop := p.names.map Name.bytes < q.names.map Name.bytes

theorem not_precedes_self (p : Path) : ¬p.Precedes p := List.lt_irrefl _

theorem precedes_along {left right : List Name} (hleft : ∀ name ∈ left, IsSingle name)
    (hright : ∀ name ∈ right, IsSingle name) (h : left.map Name.bytes < right.map Name.bytes) :
    (p.along left).Precedes (p.along right) := by
  rw [Precedes, names_along p hleft, names_along p hright, List.map_append, List.map_append]
  exact List.append_left_lt h

end Path

end Launchpad
