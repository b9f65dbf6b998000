import Launchpad.Proofs.Arguments.Placement

/-!
When sorting an argument list is refused. The walk of `sort` finds out in the middle, by running out
of tokens; seen from the whole list, it is a matter of the block of classpath flags at the end and
of a double dash that may have ended the walk before. Both are read off the lengths of blocks, so
that everything in the list that is neither a classpath flag nor a double dash is free to be
anything.
-/

namespace Launchpad.Arguments

open Results

variable {doubleDash : Bool} {tokens : List String}

/-! ### Behind a finished front -/

/-- A block of flags that reaches back to the start of a list goes on into what stands in front. -/
theorem flagRun_append (front back : List String) (place : Nat) :
    flagRun (front ++ back) (front.length + place) =
      if flagRun back place = (back.take place).length then
        flagRun back place + flagRun front front.length
      else flagRun back place := by
  unfold flagRun
  rw [List.take_length_add_append, List.reverse_append, List.takeWhile_append, List.take_length,
    List.length_reverse]
  split
  · rename_i hwhole
    rw [List.length_append, List.length_reverse, hwhole]
  · rfl

/-- Behind a front whose flags pair up the marks are those of a list of its own. -/
theorem isTaken_append {front : List String} (hfront : isTaken front front.length = false)
    (back : List String) (place : Nat) :
    isTaken (front ++ back) (front.length + place) = isTaken back place := by
  have heven : flagRun front front.length % 2 = 0 := by
    simpa [isTaken] using hfront
  unfold isTaken
  rw [flagRun_append]
  split
  · rw [Nat.add_mod, heven, Nat.add_zero, Nat.mod_mod]
  · rfl

theorem isTaken_other {token : String} (h : isClasspathFlag token = false) :
    isTaken [token] 1 = false := by
  simp [isTaken, flagRun, h]

/-- A flag and the token that it takes are two of a block, or end it. -/
theorem isTaken_pair {token : String} (value : String) (h : isClasspathFlag token = true) :
    isTaken [token, value] 2 = false := by
  cases hvalue : isClasspathFlag value with
  | true => simp [isTaken, flagRun, h, hvalue]
  | false => simp [isTaken, flagRun, hvalue]

theorem isTaken_cons {token : String} (hflag : isClasspathFlag token = false)
    (rest : List String) (place : Nat) :
    isTaken (token :: rest) (place + 1) = isTaken rest place := by
  rw [← isTaken_append (isTaken_other hflag) rest place, Nat.add_comm]
  rfl

theorem isTaken_flag {token : String} (value : String) (hflag : isClasspathFlag token = true)
    (rest : List String) (place : Nat) :
    isTaken (token :: value :: rest) (place + 2) = isTaken rest place := by
  rw [← isTaken_append (isTaken_pair value hflag) rest place, Nat.add_comm]
  rfl

/-! ### The walk -/

/-- The walk goes to the end of the list, and the block of flags there is odd. -/
def RunsOut (tokens : List String) (doubleDash : Bool) : Prop :=
  stopPlace tokens doubleDash = tokens.length ∧ isTaken tokens tokens.length = true

theorem not_runsOut_nil (doubleDash : Bool) : ¬RunsOut [] doubleDash := by
  rintro ⟨-, htaken⟩
  cases htaken

theorem not_runsOut_stop {token : String} (rest : List String)
    (h : endsWalk doubleDash token = true) : ¬RunsOut (token :: rest) doubleDash := by
  rintro ⟨hstop, -⟩
  rw [stopPlace_stop rest h] at hstop
  cases hstop

theorem runsOut_cons {token : String} (rest : List String)
    (hend : endsWalk doubleDash token = false) (hflag : isClasspathFlag token = false) :
    RunsOut (token :: rest) doubleDash ↔ RunsOut rest doubleDash := by
  rw [RunsOut, RunsOut, List.length_cons, stopPlace_cons rest hend hflag, isTaken_cons hflag,
    Nat.add_right_cancel_iff]

theorem runsOut_dangling {token : String} (h : isClasspathFlag token = true) :
    RunsOut [token] doubleDash := by
  refine ⟨stopPlace_dangling doubleDash h, ?_⟩
  simp [isTaken, flagRun, h]

theorem runsOut_flag {token : String} (value : String) (rest : List String)
    (h : isClasspathFlag token = true) :
    RunsOut (token :: value :: rest) doubleDash ↔ RunsOut rest doubleDash := by
  rw [RunsOut, RunsOut, List.length_cons, List.length_cons,
    stopPlace_flag doubleDash value rest h, isTaken_flag value h, Nat.add_right_cancel_iff]

/-- Sorting is refused exactly when the walk runs out of tokens behind a flag. The induction follows
the walk, each step of which leaves a finished front behind. -/
theorem exists_sort_error_iff (doubleDash : Bool) (tokens : List String) :
    (∃ dangling, sort doubleDash tokens = .error dangling) ↔ RunsOut tokens doubleDash := by
  induction tokens using walk_induction doubleDash with
  | nil => simp [sort, not_runsOut_nil]
  | vmFlag token rest hvm ih =>
    have hcons := runsOut_cons rest (not_endsWalk_of_isVmFlag doubleDash hvm)
      (not_isClasspathFlag_of_isVmFlag hvm)
    simp only [sort_vmFlag rest hvm, map_eq_error]
    exact ih.trans hcons.symm
  | stop token rest hend => simp [sort_stop rest hend, not_runsOut_stop rest hend]
  | dangling token hflag => simp [sort_dangling hflag, runsOut_dangling hflag]
  | flag token value rest hflag ih =>
    simp only [sort_flag value rest hflag, map_eq_error]
    exact ih.trans (runsOut_flag value rest hflag).symm
  | plain token rest hvm hend hflag ih =>
    simp only [sort_plain rest hvm hend hflag, map_eq_error]
    exact ih.trans (runsOut_cons rest hend hflag).symm

/-- The flag that dangles is the last token of all. -/
theorem getLast?_of_sort_error {dangling : DanglingFlag}
    (h : sort doubleDash tokens = .error dangling) : tokens.getLast? = some dangling.flag := by
  induction tokens using walk_induction doubleDash with
  | nil => cases h
  | vmFlag token rest hvm ih =>
    rw [sort_vmFlag rest hvm, map_eq_error] at h
    rw [List.getLast?_cons, ih h, Option.getD_some]
  | stop token rest hend =>
    rw [sort_stop rest hend] at h
    cases h
  | dangling token hflag =>
    rw [sort_dangling hflag, Except.error.injEq] at h
    subst h
    rfl
  | flag token value rest hflag ih =>
    rw [sort_flag value rest hflag, map_eq_error] at h
    rw [List.getLast?_cons, List.getLast?_cons, ih h, Option.getD_some, Option.getD_some]
  | plain token rest hvm hend hflag ih =>
    rw [sort_plain rest hvm hend hflag, map_eq_error] at h
    rw [List.getLast?_cons, ih h, Option.getD_some]

/-! ### The list as a whole -/

/-- The list ends in an odd block of classpath flags, and no double dash ends the sorting before:
where one counts, each has an odd block in front of it. -/
def EndsUnpaired (tokens : List String) (doubleDash : Bool) : Prop :=
  flagRun tokens tokens.length % 2 = 1 ∧
    ¬(doubleDash = true ∧
      ∃ place, tokens[place]? = some doubleDashToken ∧ flagRun tokens place % 2 = 0)

theorem stopPlace_eq_length_iff (tokens : List String) (doubleDash : Bool) :
    stopPlace tokens doubleDash = tokens.length ↔
      ¬(doubleDash = true ∧
        ∃ place, tokens[place]? = some doubleDashToken ∧ flagRun tokens place % 2 = 0) := by
  have hstop : stopPlace tokens doubleDash = tokens.length ↔
      ∀ entry ∈ tokens.zipIdx, ¬(doubleDash && entry.1 = doubleDashToken &&
        !isTaken tokens entry.2) = true := by
    rw [stopPlace, ← tokens.length_zipIdx (i := 0), List.findIdx_eq_length]
    simp only [Bool.not_eq_true]
  have heven : ∀ place, (!isTaken tokens place) = true ↔ flagRun tokens place % 2 = 0 := by
    intro place
    simp [isTaken]
  rw [hstop]
  simp only [Bool.and_eq_true, decide_eq_true_eq, heven, Prod.forall,
    List.mk_mem_zipIdx_iff_getElem?]
  constructor
  · rintro hnone ⟨hdash, place, hplace, hrun⟩
    exact hnone doubleDashToken place hplace ⟨⟨hdash, rfl⟩, hrun⟩
  · rintro hnone token place hplace ⟨⟨hdash, rfl⟩, hrun⟩
    exact hnone ⟨hdash, place, hplace, hrun⟩

theorem runsOut_iff_endsUnpaired : RunsOut tokens doubleDash ↔ EndsUnpaired tokens doubleDash := by
  rw [RunsOut, EndsUnpaired, stopPlace_eq_length_iff, and_comm]
  simp [isTaken]

/-! ### What refusal depends on -/

/-- The classpath flags stand at the same places in two lists, and so do the double dashes. -/
def MarkedAlike (tokens others : List String) : Prop :=
  tokens.map isClasspathFlag = others.map isClasspathFlag ∧
    tokens.map (· == doubleDashToken) = others.map (· == doubleDashToken)

theorem flagRun_eq_map (tokens : List String) (place : Nat) :
    flagRun tokens place =
      (((tokens.map isClasspathFlag).take place).reverse.takeWhile id).length := by
  rw [flagRun, ← List.map_take, ← List.map_reverse, List.takeWhile_map, List.length_map]
  rfl

theorem doubleDash_at_iff (tokens : List String) (place : Nat) :
    tokens[place]? = some doubleDashToken ↔
      (tokens.map (· == doubleDashToken))[place]? = some true := by
  simp

theorem endsUnpaired_congr {others : List String} (h : MarkedAlike tokens others) :
    EndsUnpaired tokens doubleDash ↔ EndsUnpaired others doubleDash := by
  obtain ⟨hflags, hdashes⟩ := h
  have hlength : tokens.length = others.length := by
    simpa using congrArg List.length hflags
  have hrun : ∀ place, flagRun tokens place = flagRun others place := by
    intro place
    rw [flagRun_eq_map, flagRun_eq_map, hflags]
  simp only [EndsUnpaired, hlength, hrun, doubleDash_at_iff, hdashes]

/-- Partitioning is refused exactly when the list ends in an unpaired classpath flag that no double
dash keeps the walk from, and the flag that is reported is the last token. Neither the default
classpath nor any token that is no classpath flag and no double dash, be it a flag of the virtual
machine or not, has a say in it. -/
theorem partition_refuses_iff_endsUnpaired (tokens defaults : List String) (doubleDash : Bool) :
    ((∃ dangling, partition tokens defaults doubleDash = .error dangling) ↔
        EndsUnpaired tokens doubleDash) ∧
      (∀ dangling, partition tokens defaults doubleDash = .error dangling →
        tokens.getLast? = some dangling.flag) ∧
      ∀ others otherDefaults, MarkedAlike tokens others →
        ((∃ p, partition tokens defaults doubleDash = .ok p) ↔
          ∃ p, partition others otherDefaults doubleDash = .ok p) := by
  have hrefused : ∀ tokens defaults,
      (∃ dangling, partition tokens defaults doubleDash = .error dangling) ↔
        EndsUnpaired tokens doubleDash := by
    intro tokens defaults
    simp only [partition, map_eq_error]
    exact (exists_sort_error_iff doubleDash tokens).trans runsOut_iff_endsUnpaired
  have haccepted : ∀ tokens defaults,
      (∃ p, partition tokens defaults doubleDash = .ok p) ↔ ¬EndsUnpaired tokens doubleDash := by
    intro tokens defaults
    rw [← hrefused tokens defaults]
    cases partition tokens defaults doubleDash with
    | ok p => simp
    | error dangling => simp
  refine ⟨hrefused tokens defaults, fun dangling h => ?_, fun others otherDefaults halike => ?_⟩
  · exact getLast?_of_sort_error (map_eq_error.mp h)
  · rw [haccepted, haccepted, endsUnpaired_congr halike]

-- The first flag takes the double dash, so that nothing keeps the walk from the last one.
example : partition ["-cp", "--", "-cp"] [] true = .error ⟨"-cp"⟩ := by decide

end Launchpad.Arguments
