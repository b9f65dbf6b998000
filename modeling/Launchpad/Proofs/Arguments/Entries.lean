import Launchpad.Proofs.Arguments.Classpath
import Launchpad.Proofs.Arguments.Placement

/-!
The entries of a classpath that is given as one text. Joining loses nothing but the borders of what
was joined: the text splits into the entries of its parts, part by part. A part that is one entry
comes back as it is, also where it is empty.
-/

namespace Launchpad.Arguments

open Results Text

/-- The entries of a classpath: what stands between separators, before the first and behind the
last one. -/
def entriesOf (classpath : String) : List String :=
  (splitOn classpathSeparator classpath.toList).map String.ofList

/-- A part is its own only entry exactly if it holds no separator. -/
theorem entriesOf_eq_singleton_iff (part : String) : entriesOf part = [part] ↔ isWhole part := by
  constructor
  · intro h hmem
    obtain ⟨piece, hpiece⟩ : ∃ piece, splitOn classpathSeparator part.toList = [piece] := by
      rw [← List.length_eq_one_iff, ← List.length_map String.ofList, ← entriesOf, h]
      rfl
    rw [entriesOf, hpiece, List.map_singleton, List.singleton_inj] at h
    have hfree : classpathSeparator ∉ piece :=
      separator_not_mem_of_mem_splitOn (hpiece ▸ List.mem_singleton_self piece)
    rw [← h, String.toList_ofList] at hmem
    exact hfree hmem
  · intro hwhole
    rw [entriesOf, splitOn_of_not_mem hwhole, List.map_singleton, String.ofList_toList]

/-- The entries of a joined classpath are those of its parts. -/
theorem entriesOf_joinClasspath {parts : List String} (hne : parts ≠ []) :
    entriesOf (joinClasspath parts) = parts.flatMap entriesOf := by
  rw [entriesOf, toList_joinClasspath, splitOn_joinWith_eq_flatMap (by simpa using hne),
    List.flatMap_map, List.map_flatMap]
  rfl

theorem flatMap_entriesOf_of_isWhole {parts : List String}
    (hwhole : ∀ part ∈ parts, isWhole part) : parts.flatMap entriesOf = parts := by
  rw [List.flatMap_congr fun part hpart =>
      (entriesOf_eq_singleton_iff part).mpr (hwhole part hpart),
    List.flatMap_singleton']

/-! ### The classpath of a partition -/

theorem Partition.joined?_eq_none_iff (p : Partition) : p.joined? = none ↔ p.classpath = [] := by
  unfold joined?
  split <;> simp_all

theorem Partition.joined?_eq_some_iff (p : Partition) {text : String} :
    p.joined? = some text ↔ p.classpath ≠ [] ∧ joinClasspath p.classpath = text := by
  unfold joined?
  split <;> simp_all

theorem classpath_of_partition {tokens defaults : List String} {doubleDash : Bool} {p : Partition}
    (h : partition tokens defaults doubleDash = .ok p) :
    p.classpath = defaults ++ (lastTaken? tokens doubleDash).toList := by
  obtain ⟨s, hs, rfl⟩ := map_eq_ok.mp h
  rw [classpath?_of_sort hs]

/-- A partition has a classpath text exactly if it has a classpath, and the text splits into the
entries of each default part, in order, and then those of the classpath that was taken last. A part
stays as it is exactly if it holds no separator; if none does, the text splits into the parts. -/
theorem joined_splits_into_parts {tokens defaults : List String} {doubleDash : Bool}
    {p : Partition} (h : partition tokens defaults doubleDash = .ok p) :
    (p.joined? = none ↔ p.classpath = []) ∧
      p.classpath = defaults ++ (lastTaken? tokens doubleDash).toList ∧
      ∀ text, p.joined? = some text →
        entriesOf text =
            defaults.flatMap entriesOf ++ (lastTaken? tokens doubleDash).toList.flatMap entriesOf ∧
          (∀ part ∈ p.classpath, entriesOf part = [part] ↔ isWhole part) ∧
          ((∀ part ∈ p.classpath, isWhole part) → entriesOf text = p.classpath) := by
  have hparts := classpath_of_partition h
  refine ⟨p.joined?_eq_none_iff, hparts, fun text htext => ?_⟩
  obtain ⟨hne, rfl⟩ := p.joined?_eq_some_iff.mp htext
  have hentries := entriesOf_joinClasspath hne
  refine ⟨?_, fun part _ => entriesOf_eq_singleton_iff part, fun hwhole => ?_⟩
  · rw [hentries, hparts, List.flatMap_append]
  · rw [hentries, flatMap_entriesOf_of_isWhole hwhole]

/-- An empty part at the front, one of two entries, and a text of the user's that ends in a
separator. -/
theorem joined_splits_around_empty_parts :
    let p : Partition := ⟨["-cp", ":a:b:c:", "-Dx"], ["", "a:b", "c:"], ["m.js"]⟩
    partition ["-cp", "x", "m.js", "-Dx", "-classpath", "c:"] ["", "a:b"] false = .ok p ∧
      p.joined? = some ":a:b:c:" ∧ entriesOf ":a:b:c:" = ["", "a", "b", "c", ""] := by
  intro p
  have h : partition ["-cp", "x", "m.js", "-Dx", "-classpath", "c:"] ["", "a:b"] false = .ok p := by
    decide
  have hjoined : p.joined? = some ":a:b:c:" := by decide
  exact ⟨h, hjoined, ((joined_splits_into_parts h).2.2 _ hjoined).1⟩

end Launchpad.Arguments
