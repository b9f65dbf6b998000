import Launchpad.Proofs.Arguments.Refusal

/-!
A double dash that counts, seen from the walk that counts none. The first double dash that is no
classpath cuts an argument list in two: the front is sorted as if no double dash counted, and never
leaves a classpath flag dangling; the back goes to the program as it is. Only the block of classpath
flags right before a double dash tells whether it is free, so nothing behind the cut has a say.
-/

namespace Launchpad.Arguments

open Results

variable {tokens : List String}

/-- A double dash that no classpath flag takes. -/
def IsFreeDash (tokens : List String) (place : Nat) : Prop :=
  tokens[place]? = some doubleDashToken ∧ isTaken tokens place = false

/-- The first double dash that no classpath flag takes. -/
def IsFirstFreeDash (tokens : List String) (place : Nat) : Prop :=
  IsFreeDash tokens place ∧ ∀ earlier < place, ¬IsFreeDash tokens earlier

instance (tokens : List String) (place : Nat) : Decidable (IsFreeDash tokens place) :=
  inferInstanceAs (Decidable (_ ∧ _))

instance (tokens : List String) (place : Nat) : Decidable (IsFirstFreeDash tokens place) :=
  inferInstanceAs (Decidable (_ ∧ _))

/-! ### The place of the cut -/

theorem stopPlace_of_no_freeDash (h : ∀ place, ¬IsFreeDash tokens place) :
    stopPlace tokens true = tokens.length := by
  rw [stopPlace_eq_length_iff]
  rintro ⟨-, place, hdash, heven⟩
  exact h place ⟨hdash, by simp [isTaken, heven]⟩

theorem stopPlace_of_isFirstFreeDash {stop : Nat} (h : IsFirstFreeDash tokens stop) :
    stopPlace tokens true = stop := by
  obtain ⟨⟨hdash, hfree⟩, hearlier⟩ := h
  obtain ⟨hinside, hdash⟩ := List.getElem?_eq_some_iff.mp hdash
  have hindex : stop < tokens.zipIdx.length := by rwa [List.length_zipIdx]
  rw [stopPlace, List.findIdx_eq hindex]
  constructor
  · simp [hdash, hfree]
  · intro earlier hlt
    have hnot := hearlier earlier hlt
    have hin : earlier < tokens.length := by omega
    simp only [IsFreeDash, List.getElem?_eq_getElem hin, Option.some.injEq, not_and,
      Bool.not_eq_false] at hnot
    by_cases hsame : tokens[earlier] = doubleDashToken
    · simp [hnot hsame]
    · simp [hsame]

/-- What is taken before a place does not depend on what stands behind it. -/
theorem isTaken_take (tokens : List String) (place : Nat) :
    isTaken (tokens.take place) place = isTaken tokens place := by
  rw [isTaken, isTaken, flagRun, flagRun, List.take_take, Nat.min_self]

/-! ### The walk -/

/-- The walk that counts the double dash is the one that does not, up to the cut. The induction
follows the former; behind each of its steps the cut is as much nearer as tokens were used. -/
theorem sort_eq_take (tokens : List String) :
    sort true tokens =
      (sort false (tokens.take (stopPlace tokens true))).map fun s =>
        { s with remainder := s.remainder ++ tokens.drop (stopPlace tokens true) } := by
  induction tokens using walk_induction true with
  | nil => rfl
  | vmFlag token rest hvm ih =>
    have hend := not_endsWalk_of_isVmFlag true hvm
    rw [stopPlace_cons rest hend (not_isClasspathFlag_of_isVmFlag hvm), List.take_succ_cons,
      List.drop_succ_cons, sort_vmFlag rest hvm, sort_vmFlag _ hvm, ih]
    cases sort false (rest.take (stopPlace rest true)) <;> rfl
  | stop token rest hend =>
    rw [stopPlace_stop rest hend, sort_stop rest hend]
    rfl
  | dangling token hflag =>
    rw [stopPlace_dangling true hflag, List.take_succ_cons, List.take_zero, sort_dangling hflag,
      sort_dangling hflag]
    rfl
  | flag token value rest hflag ih =>
    rw [stopPlace_flag true value rest hflag, List.take_succ_cons, List.take_succ_cons,
      List.drop_succ_cons, List.drop_succ_cons, sort_flag value rest hflag,
      sort_flag value _ hflag, ih]
    cases sort false (rest.take (stopPlace rest true)) <;> rfl
  | plain token rest hvm hend hflag ih =>
    rw [stopPlace_cons rest hend hflag, List.take_succ_cons, List.drop_succ_cons,
      sort_plain rest hvm hend hflag, sort_plain _ hvm rfl hflag, ih]
    cases sort false (rest.take (stopPlace rest true)) <;> rfl

/-- In front of a free double dash every classpath flag has its classpath. -/
theorem exists_sort_take {stop : Nat} (h : IsFreeDash tokens stop) :
    ∃ s, sort false (tokens.take stop) = .ok s := by
  cases hsort : sort false (tokens.take stop) with
  | ok s => exact ⟨s, rfl⟩
  | error dangling =>
    obtain ⟨hdash, hfree⟩ := h
    obtain ⟨hinside, -⟩ := List.getElem?_eq_some_iff.mp hdash
    have hlength : (tokens.take stop).length = stop := by
      rw [List.length_take, Nat.min_eq_left (Nat.le_of_lt hinside)]
    obtain ⟨-, htaken⟩ := (exists_sort_error_iff false _).mp ⟨dangling, hsort⟩
    rw [hlength, isTaken_take, hfree] at htaken
    cases htaken

/-- Without a free double dash it makes no difference whether one counts, refusals included. With
one, the tokens before the first of them can be partitioned, and counting it puts the rest of the
list behind what they leave to the program, whatever that rest holds. -/
theorem doubleDash_cuts_tokens (tokens defaults : List String) :
    ((∀ place, ¬IsFreeDash tokens place) →
      partition tokens defaults true = partition tokens defaults false) ∧
    ∀ stop, IsFirstFreeDash tokens stop →
      ∃ p, partition (tokens.take stop) defaults false = .ok p ∧
        partition tokens defaults true =
          .ok { p with remainder := p.remainder ++ tokens.drop stop } := by
  constructor
  · intro hnone
    have hsame : sort true tokens = sort false tokens := by
      rw [sort_eq_take, stopPlace_of_no_freeDash hnone, List.take_length, List.drop_length]
      cases sort false tokens <;> simp [Except.map]
    rw [partition, partition, hsame]
  · intro stop hfirst
    obtain ⟨s, hs⟩ := exists_sort_take hfirst.1
    have hcut := sort_eq_take tokens
    rw [stopPlace_of_isFirstFreeDash hfirst, hs] at hcut
    exact ⟨_, partition_of_sort defaults hs, partition_of_sort defaults hcut⟩

/-- The first double dash is a classpath, the second one cuts, and a classpath flag that dangles
behind it does no harm. Without the second one nothing is cut. -/
theorem doubleDash_cuts_behind_classpath :
    (partition ["-cp", "--", "a"] ["l.jar"] true = partition ["-cp", "--", "a"] ["l.jar"] false) ∧
    ∃ p, partition ["-cp", "--", "a", "-Dx"] ["l.jar"] false = .ok p ∧
      partition ["-cp", "--", "a", "-Dx", "--", "-Dy", "-cp"] ["l.jar"] true =
        .ok { p with remainder := p.remainder ++ ["--", "-Dy", "-cp"] } := by
  constructor
  · refine (doubleDash_cuts_tokens ["-cp", "--", "a"] ["l.jar"]).1 fun place => ?_
    rcases place with _ | _ | _ | place
    · decide
    · decide
    · decide
    · rintro ⟨hdash, -⟩
      cases hdash
  · exact (doubleDash_cuts_tokens ["-cp", "--", "a", "-Dx", "--", "-Dy", "-cp"] ["l.jar"]).2 4
      (by decide)

end Launchpad.Arguments
