import Launchpad.Proofs.Arguments.Refusal

/-!
Another text for the last classpath of an argument list. Sorting keeps the text and looks at nothing
in it, so the flags, the program arguments and the question whether the list can be sorted stay as
they are, also where the new text looks like a flag or like a double dash.
-/

namespace Launchpad.Arguments

open Results

variable {tokens : List String} {place : Nat}

/-- The last token that is taken as a classpath stands at a place. -/
structure IsLastTaken (tokens : List String) (place : Nat) : Prop where
  inside : place < tokens.length
  taken : isTaken tokens place = true
  last : ∀ later < tokens.length, place < later → isTaken tokens later = false

instance (tokens : List String) (place : Nat) : Decidable (IsLastTaken tokens place) :=
  decidable_of_iff
    (place < tokens.length ∧ isTaken tokens place = true ∧
      ∀ later < tokens.length, place < later → isTaken tokens later = false)
    ⟨fun ⟨inside, taken, last⟩ => ⟨inside, taken, last⟩, fun h => ⟨h.inside, h.taken, h.last⟩⟩

theorem IsLastTaken.of_cons {token : String} {rest : List String}
    (hflag : isClasspathFlag token = false) (h : IsLastTaken (token :: rest) (place + 1)) :
    IsLastTaken rest place := by
  refine ⟨Nat.lt_of_succ_lt_succ h.inside, ?_, fun later hin hlater => ?_⟩
  · rw [← isTaken_cons hflag rest place]
    exact h.taken
  · rw [← isTaken_cons hflag rest later]
    exact h.last _ (Nat.succ_lt_succ hin) (Nat.succ_lt_succ hlater)

theorem IsLastTaken.of_flag {token value : String} {rest : List String}
    (hflag : isClasspathFlag token = true)
    (h : IsLastTaken (token :: value :: rest) (place + 2)) : IsLastTaken rest place := by
  refine ⟨by simpa using h.inside, ?_, fun later hin hlater => ?_⟩
  · rw [← isTaken_flag value hflag rest place]
    exact h.taken
  · rw [← isTaken_flag value hflag rest later]
    exact h.last _ (by simpa using hin) (by omega)

theorem classpath?_of_none_taken {s : Sorted} (h : sort false tokens = .ok s)
    (hnone : ∀ place < tokens.length, isTaken tokens place = false) : s.classpath? = none := by
  have hmarks : (walked tokens false).filter (fun entry => entry.2) = [] := by
    rw [walked_eq_map, stopPlace_false, List.filter_eq_nil_iff]
    intro entry hentry
    obtain ⟨⟨token, place⟩, hmem, rfl⟩ := List.mem_map.mp hentry
    obtain ⟨hin, -⟩ := List.getElem?_eq_some_iff.mp
      (List.mk_mem_zipIdx_iff_getElem?.mp (List.mem_of_mem_take hmem))
    simp [hnone place hin]
  rw [(places_of_sort h).classpath, hmarks]
  rfl

/-- The last token that is taken is the classpath of the list, and another token in its place is
taken as well. The induction follows the walk; only the step that takes the token sees it. -/
theorem sort_set {s : Sorted} (h : sort false tokens = .ok s) (hplace : IsLastTaken tokens place)
    (value : String) :
    s.classpath? = tokens[place]? ∧
      sort false (tokens.set place value) = .ok { s with classpath? := some value } := by
  induction tokens using walk_induction false generalizing s place with
  | nil => exact absurd hplace.inside (Nat.not_lt_zero _)
  | stop token rest hend => simp [endsWalk] at hend
  | dangling token hflag =>
    rw [sort_dangling hflag] at h
    cases h
  | vmFlag token rest hvm ih =>
    rw [sort_vmFlag rest hvm] at h
    obtain ⟨inner, hinner, rfl⟩ := map_eq_ok.mp h
    cases place with
    | zero => cases hplace.taken
    | succ place =>
      obtain ⟨hold, hnew⟩ := ih hinner (hplace.of_cons (not_isClasspathFlag_of_isVmFlag hvm))
      rw [List.set_cons_succ, sort_vmFlag _ hvm, hnew]
      exact ⟨hold, rfl⟩
  | plain token rest hvm hend hflag ih =>
    rw [sort_plain rest hvm hend hflag] at h
    obtain ⟨inner, hinner, rfl⟩ := map_eq_ok.mp h
    cases place with
    | zero => cases hplace.taken
    | succ place =>
      obtain ⟨hold, hnew⟩ := ih hinner (hplace.of_cons hflag)
      rw [List.set_cons_succ, sort_plain _ hvm hend hflag, hnew]
      exact ⟨hold, rfl⟩
  | flag token own rest hflag ih =>
    rw [sort_flag own rest hflag] at h
    obtain ⟨inner, hinner, rfl⟩ := map_eq_ok.mp h
    cases place with
    | zero => cases hplace.taken
    | succ place =>
      cases place with
      | zero =>
        -- Nothing behind this pair is taken, so its classpath is the one that counts.
        have hnone : inner.classpath? = none := by
          refine classpath?_of_none_taken hinner fun later hlater => ?_
          rw [← isTaken_flag own hflag rest later]
          exact hplace.last _ (by simpa using hlater) (by omega)
        rw [List.set_cons_succ, List.set_cons_zero, sort_flag value rest hflag, hinner]
        simp [Except.map, hnone]
      | succ place =>
        obtain ⟨hold, hnew⟩ := ih hinner (hplace.of_flag hflag)
        have hrest := List.getElem?_eq_getElem (hplace.of_flag hflag).inside
        rw [List.set_cons_succ, List.set_cons_succ, sort_flag own _ hflag, hnew]
        simp [Except.map, hold, hrest]

end Launchpad.Arguments
