import Launchpad.Proofs.Arguments.Walk
import Launchpad.Proofs.Text.Separated
import Mathlib.Data.List.Forall2

/-!
Classpaths as one text. The text determines its entries once their number is known and none of them
holds the separator; an entry that does shifts the entries behind it.
-/

namespace Launchpad.Arguments

open Results Text

/-- The entry holds no separator, so it stays one entry of the joined text. -/
def isWhole (entry : String) : Prop := classpathSeparator ∉ entry.toList

instance (entry : String) : Decidable (isWhole entry) := inferInstanceAs (Decidable (_ ∉ _))

theorem toList_joinClasspath (entries : List String) :
    (joinClasspath entries).toList =
      joinWith classpathSeparator (entries.map String.toList) := by
  simp [joinClasspath]

/-- Of two lists of one length that join to the same text, both are whole if one is. -/
theorem isWhole_of_joinClasspath_eq {entries others : List String}
    (hjoin : joinClasspath entries = joinClasspath others)
    (hlength : entries.length = others.length) (hwhole : ∀ entry ∈ entries, isWhole entry) :
    ∀ other ∈ others, isWhole other := by
  have hcount := congrArg (fun text => text.toList.count classpathSeparator) hjoin
  simp only [toList_joinClasspath, count_joinWith, List.length_map, hlength] at hcount
  have hnone : (entries.map String.toList).flatten.count classpathSeparator = 0 := by
    refine List.count_eq_zero.mpr fun hmem => ?_
    obtain ⟨text, htext, hin⟩ := List.mem_flatten.mp hmem
    obtain ⟨entry, hentry, rfl⟩ := List.mem_map.mp htext
    exact hwhole entry hentry hin
  have hothers : (others.map String.toList).flatten.count classpathSeparator = 0 := by omega
  intro other hother hin
  exact List.count_eq_zero.mp hothers
    (List.mem_flatten.mpr ⟨_, List.mem_map_of_mem hother, hin⟩)

/-- Whole entries can be read back from the joined text. -/
theorem entries_eq_of_joinClasspath_eq {entries others : List String}
    (hjoin : joinClasspath entries = joinClasspath others)
    (hlength : entries.length = others.length) (hwhole : ∀ entry ∈ entries, isWhole entry) :
    entries = others := by
  have hothers := isWhole_of_joinClasspath_eq hjoin hlength hwhole
  cases entries with
  | nil => exact (List.eq_nil_of_length_eq_zero hlength.symm).symm
  | cons entry more =>
    have hsplit := congrArg (fun text => splitOn classpathSeparator text.toList) hjoin
    have hne : others ≠ [] := by
      rintro rfl
      simp at hlength
    simp only [toList_joinClasspath] at hsplit
    rw [splitOn_joinWith (by simp) (by simpa [isWhole] using hwhole),
      splitOn_joinWith (by simpa using hne) (by simpa [isWhole] using hothers)] at hsplit
    exact List.map_injective_iff.mpr (fun _ _ => String.toList_injective) hsplit

/-- A relation between things and the entries that stand for them holds along the text of a
classpath exactly when each entry is whole and related to its own thing. -/
theorem exists_entries_iff {R : String → String → Prop} {things : List String}
    {entry : String → String} :
    (∃ entries, joinClasspath entries = joinClasspath (things.map entry) ∧
      (∀ e ∈ entries, isWhole e) ∧ List.Forall₂ R things entries) ↔
    ∀ thing ∈ things, isWhole (entry thing) ∧ R thing (entry thing) := by
  constructor
  · rintro ⟨entries, hjoin, hwhole, hrelated⟩ thing hthing
    have hlength : entries.length = (things.map entry).length := by
      rw [List.length_map, hrelated.length_eq]
    have hentries := entries_eq_of_joinClasspath_eq hjoin hlength hwhole
    subst hentries
    rw [List.forall₂_map_right_iff, List.forall₂_same] at hrelated
    exact ⟨hwhole _ (List.mem_map_of_mem hthing), hrelated thing hthing⟩
  · intro h
    refine ⟨things.map entry, rfl, ?_, ?_⟩
    · intro e he
      obtain ⟨thing, hthing, rfl⟩ := List.mem_map.mp he
      exact (h thing hthing).1
    · rw [List.forall₂_map_right_iff, List.forall₂_same]
      exact fun thing hthing => (h thing hthing).2

/-- Without a classpath flag every list can be sorted, and states no classpath. -/
theorem sort_of_no_flag {tokens : List String}
    (h : ∀ token ∈ tokens, isClasspathFlag token = false) :
    ∃ s, sort false tokens = .ok s ∧ s.classpath? = none := by
  induction tokens with
  | nil => exact ⟨_, rfl, rfl⟩
  | cons token rest ih =>
    obtain ⟨s, hs, hnone⟩ := ih fun t ht => h t (List.mem_cons_of_mem token ht)
    cases hvm : isVmFlag token with
    | true =>
      rw [sort_vmFlag rest hvm, hs]
      exact ⟨_, rfl, hnone⟩
    | false =>
      rw [sort_plain rest hvm rfl (h token List.mem_cons_self), hs]
      exact ⟨_, rfl, hnone⟩

end Launchpad.Arguments
