import Launchpad.Proofs.Arguments.Walk
import Launchpad.Proofs.Results
import Mathlib.Data.List.Basic

/-!
Where sorting puts each token of an argument list. Whether a token is a classpath or a flag can be
read off the block of classpath flags right before it: the flags of a block pair up, so the token
behind an odd block is taken as a classpath, whatever it looks like. The walk of `sort` carries no
index and no count; the proofs go through the list of marks that the parity of the block leaves on
the tokens.
-/

namespace Launchpad.Arguments

open Results

/-- How many classpath flags stand in an unbroken block right before a place. -/
def flagRun (tokens : List String) (place : Nat) : Nat :=
  ((tokens.take place).reverse.takeWhile isClasspathFlag).length

/-- The token at a place is taken as a classpath: the block of flags before it is odd. -/
def isTaken (tokens : List String) (place : Nat) : Bool :=
  flagRun tokens place % 2 = 1

/-- The place at which sorting stops: the first double dash that is not taken as a classpath where
a double dash counts, and the end of the list otherwise. -/
def stopPlace (tokens : List String) (doubleDash : Bool) : Nat :=
  tokens.zipIdx.findIdx fun entry =>
    doubleDash && entry.1 = doubleDashToken && !isTaken tokens entry.2

/-- The tokens before a place, in order, that pass a test of their own place and their text. -/
def tokensBefore (stop : Nat) (tokens : List String) (test : Nat → String → Bool) : List String :=
  ((tokens.zipIdx.take stop).filter fun entry => test entry.2 entry.1).map Prod.fst

/-! ### Marks -/

/-- For each token, whether the block of classpath flags before it is odd, when the block before
the first token is as `odd` says. -/
def parityMarks (odd : Bool) : List String → List Bool
  | [] => []
  | token :: rest => odd :: parityMarks (isClasspathFlag token && !odd) rest

theorem parityMarks_length (odd : Bool) (tokens : List String) :
    (parityMarks odd tokens).length = tokens.length := by
  induction tokens generalizing odd with
  | nil => rfl
  | cons token rest ih => simp [parityMarks, ih]

theorem parityMarks_succ (odd : Bool) (tokens : List String) (place : Nat)
    (h : place + 1 < tokens.length) :
    (parityMarks odd tokens)[place + 1]? =
      some (isClasspathFlag tokens[place] && !((parityMarks odd tokens)[place]?.getD false)) := by
  induction tokens generalizing odd place with
  | nil => simp at h
  | cons token rest ih =>
    cases place with
    | zero =>
      obtain ⟨next, more, rfl⟩ := List.exists_cons_of_length_pos (by simpa using h)
      simp [parityMarks]
    | succ place =>
      have hrest := ih (isClasspathFlag token && !odd) place (by simpa using h)
      simpa [parityMarks] using hrest

theorem flagRun_succ (tokens : List String) (place : Nat) (h : place < tokens.length) :
    flagRun tokens (place + 1) =
      if isClasspathFlag tokens[place] then flagRun tokens place + 1 else 0 := by
  unfold flagRun
  rw [List.take_succ_eq_append_getElem h, List.reverse_append]
  simp only [List.reverse_cons, List.reverse_nil, List.nil_append, List.singleton_append,
    List.takeWhile_cons]
  split <;> simp

/-- The marks are the parities that the blocks of flags have. -/
theorem parityMarks_getElem? (tokens : List String) (place : Nat) (h : place < tokens.length) :
    (parityMarks false tokens)[place]? = some (isTaken tokens place) := by
  induction place with
  | zero =>
    obtain ⟨token, rest, rfl⟩ := List.exists_cons_of_length_pos h
    simp [parityMarks, isTaken, flagRun]
  | succ place ih =>
    have hplace := ih (by omega)
    rw [parityMarks_succ false tokens place h, hplace]
    simp only [isTaken, flagRun_succ tokens place (by omega), Option.getD_some]
    cases isClasspathFlag tokens[place] with
    | false => simp
    | true =>
      simp only [Bool.true_and, if_true, Option.some.injEq]
      rcases Nat.mod_two_eq_zero_or_one (flagRun tokens place) with even | odd
      · simp [Nat.add_mod, even]
      · simp [Nat.add_mod, odd]

def marked (tokens : List String) : List (String × Bool) :=
  tokens.zip (parityMarks false tokens)

theorem marked_eq_map (tokens : List String) :
    marked tokens = tokens.zipIdx.map fun entry => (entry.1, isTaken tokens entry.2) := by
  apply List.ext_getElem?
  intro place
  rcases Nat.lt_or_ge place tokens.length with inside | outside
  · have hmark := parityMarks_getElem? tokens place inside
    simp [marked, List.zip, List.getElem?_zipWith, hmark, List.getElem?_eq_getElem inside]
  · have hlong := parityMarks_length false tokens
    simp [marked, outside, hlong]

/-- A mark lets the walk go on unless it is the double dash that ends it. -/
def goesOn (doubleDash : Bool) (entry : String × Bool) : Bool :=
  !(endsWalk doubleDash entry.1 && !entry.2)

/-- The marked tokens that sorting looks at. -/
def walked (tokens : List String) (doubleDash : Bool) : List (String × Bool) :=
  (marked tokens).takeWhile (goesOn doubleDash)

theorem walked_eq_map (tokens : List String) (doubleDash : Bool) :
    walked tokens doubleDash =
      (tokens.zipIdx.take (stopPlace tokens doubleDash)).map
        fun entry => (entry.1, isTaken tokens entry.2) := by
  unfold walked
  rw [List.takeWhile_eq_take_findIdx_not, marked_eq_map, List.findIdx_map, List.map_take]
  simp only [goesOn, endsWalk, Bool.not_not, stopPlace, Function.comp_def]

theorem stopPlace_le (tokens : List String) (doubleDash : Bool) :
    stopPlace tokens doubleDash ≤ tokens.length := by
  have hle : stopPlace tokens doubleDash ≤ tokens.zipIdx.length := List.findIdx_le_length
  rwa [List.length_zipIdx] at hle

/-- Where a double dash does not count, sorting goes to the end. -/
theorem stopPlace_false (tokens : List String) : stopPlace tokens false = tokens.length := by
  unfold stopPlace
  rw [List.findIdx_eq_length_of_false (by simp), List.length_zipIdx]

theorem walked_length (tokens : List String) (doubleDash : Bool) :
    (walked tokens doubleDash).length = stopPlace tokens doubleDash := by
  rw [walked_eq_map, List.length_map, List.length_take, List.length_zipIdx]
  exact Nat.min_eq_left (stopPlace_le tokens doubleDash)

/-- A test of places that looks only at whether a token is taken is a test of its mark. -/
theorem tokensBefore_stopPlace (tokens : List String) (doubleDash : Bool)
    (test : Bool → String → Bool) :
    tokensBefore (stopPlace tokens doubleDash) tokens
        (fun place token => test (isTaken tokens place) token) =
      ((walked tokens doubleDash).filter fun entry => test entry.2 entry.1).map Prod.fst := by
  rw [walked_eq_map, List.filter_map, List.map_map]
  rfl

/-! ### The walk -/

/-- An outcome of sorting is what the marks of the tokens say. -/
structure Places (tokens : List String) (doubleDash : Bool) (s : Sorted) : Prop where
  vmFlags : s.vmFlags =
    ((walked tokens doubleDash).filter fun entry => !entry.2 && isVmFlag entry.1).map Prod.fst
  classpath : s.classpath? =
    (((walked tokens doubleDash).filter fun entry => entry.2).map Prod.fst).getLast?
  remainder : s.remainder =
    ((walked tokens doubleDash).filter fun entry =>
        !entry.2 && !isVmFlag entry.1 && !isClasspathFlag entry.1).map Prod.fst ++
      tokens.drop (walked tokens doubleDash).length

theorem walked_cons {token : String} {doubleDash : Bool} (rest : List String)
    (hend : endsWalk doubleDash token = false) (hflag : isClasspathFlag token = false) :
    walked (token :: rest) doubleDash = (token, false) :: walked rest doubleDash := by
  have hgo : goesOn doubleDash (token, false) = true := by simp [goesOn, hend]
  simp [walked, marked, parityMarks, hflag, hgo]

theorem walked_stop {token : String} {doubleDash : Bool} (rest : List String)
    (hend : endsWalk doubleDash token = true) : walked (token :: rest) doubleDash = [] := by
  have hgo : goesOn doubleDash (token, false) = false := by simp [goesOn, hend]
  simp [walked, marked, parityMarks, hgo]

/-- A flag and the token it takes leave an even block behind, whatever that token looks like. -/
theorem walked_flag {token : String} (doubleDash : Bool) (value : String) (rest : List String)
    (hflag : isClasspathFlag token = true) :
    walked (token :: value :: rest) doubleDash =
      (token, false) :: (value, true) :: walked rest doubleDash := by
  have hend := not_endsWalk_of_isClasspathFlag doubleDash hflag
  have hgo : goesOn doubleDash (token, false) = true := by simp [goesOn, hend]
  have hvalue : goesOn doubleDash (value, true) = true := by simp [goesOn]
  simp [walked, marked, parityMarks, hflag, hgo, hvalue]

theorem stopPlace_cons {token : String} {doubleDash : Bool} (rest : List String)
    (hend : endsWalk doubleDash token = false) (hflag : isClasspathFlag token = false) :
    stopPlace (token :: rest) doubleDash = stopPlace rest doubleDash + 1 := by
  rw [← walked_length, ← walked_length, walked_cons rest hend hflag, List.length_cons]

theorem stopPlace_stop {token : String} {doubleDash : Bool} (rest : List String)
    (hend : endsWalk doubleDash token = true) : stopPlace (token :: rest) doubleDash = 0 := by
  rw [← walked_length, walked_stop rest hend, List.length_nil]

theorem stopPlace_flag {token : String} (doubleDash : Bool) (value : String) (rest : List String)
    (hflag : isClasspathFlag token = true) :
    stopPlace (token :: value :: rest) doubleDash = stopPlace rest doubleDash + 2 := by
  rw [← walked_length, ← walked_length, walked_flag doubleDash value rest hflag, List.length_cons,
    List.length_cons]

theorem stopPlace_dangling {token : String} (doubleDash : Bool)
    (hflag : isClasspathFlag token = true) : stopPlace [token] doubleDash = 1 := by
  have hend := not_endsWalk_of_isClasspathFlag doubleDash hflag
  have hgo : goesOn doubleDash (token, false) = true := by simp [goesOn, hend]
  rw [← walked_length]
  simp [walked, marked, parityMarks, hgo]

/-- Sorting puts every token where its mark says. The induction follows the walk; each of its steps
starts behind a finished pair, so the marks of what is left are the marks of a list of its own. -/
theorem places_of_sort {doubleDash : Bool} {tokens : List String} {s : Sorted}
    (h : sort doubleDash tokens = .ok s) : Places tokens doubleDash s := by
  induction tokens using walk_induction doubleDash generalizing s with
  | nil =>
    simp only [sort, Except.ok.injEq] at h
    subst h
    exact ⟨rfl, rfl, rfl⟩
  | vmFlag token rest hvm ih =>
    rw [sort_vmFlag rest hvm] at h
    obtain ⟨inner, hinner, rfl⟩ := map_eq_ok.mp h
    obtain ⟨hvms, hclasspath, hremainder⟩ := ih hinner
    have hwalk := walked_cons rest (not_endsWalk_of_isVmFlag doubleDash hvm)
      (not_isClasspathFlag_of_isVmFlag hvm)
    constructor
    · simp [hwalk, hvm, hvms]
    · simp [hwalk, hclasspath]
    · simp [hwalk, hvm, hremainder]
  | stop token rest hend =>
    rw [sort_stop rest hend, Except.ok.injEq] at h
    subst h
    have hwalk := walked_stop rest hend
    constructor <;> simp [hwalk]
  | dangling token hflag =>
    rw [sort_dangling hflag] at h
    cases h
  | flag token value rest hflag ih =>
    rw [sort_flag value rest hflag] at h
    obtain ⟨inner, hinner, rfl⟩ := map_eq_ok.mp h
    obtain ⟨hvms, hclasspath, hremainder⟩ := ih hinner
    have hvm := not_isVmFlag_of_isClasspathFlag hflag
    have hwalk := walked_flag doubleDash value rest hflag
    constructor
    · simp [hwalk, hvm, hvms]
    · simp [hwalk, hclasspath, List.getLast?_cons]
    · simp [hwalk, hvm, hflag, hremainder]
  | plain token rest hvm hend hflag ih =>
    rw [sort_plain rest hvm hend hflag] at h
    obtain ⟨inner, hinner, rfl⟩ := map_eq_ok.mp h
    obtain ⟨hvms, hclasspath, hremainder⟩ := ih hinner
    have hwalk := walked_cons rest hend hflag
    constructor
    · simp [hwalk, hvm, hvms]
    · simp [hwalk, hclasspath]
    · simp [hwalk, hvm, hflag, hremainder]

/-- The classpath that is taken last, if one is taken before sorting stops. -/
def lastTaken? (tokens : List String) (doubleDash : Bool) : Option String :=
  (tokensBefore (stopPlace tokens doubleDash) tokens fun place _ => isTaken tokens place).getLast?

theorem classpath?_of_sort {doubleDash : Bool} {tokens : List String} {s : Sorted}
    (h : sort doubleDash tokens = .ok s) : s.classpath? = lastTaken? tokens doubleDash := by
  rw [(places_of_sort h).classpath]
  exact congrArg List.getLast? (tokensBefore_stopPlace tokens doubleDash fun mark _ => mark).symm

theorem isVmFlag_of_mem_sort {doubleDash : Bool} {tokens : List String} {s : Sorted}
    (h : sort doubleDash tokens = .ok s) {flag : String} (hflag : flag ∈ s.vmFlags) :
    isVmFlag flag = true := by
  rw [(places_of_sort h).vmFlags] at hflag
  obtain ⟨entry, hentry, rfl⟩ := List.mem_map.mp hflag
  have htest := (List.mem_filter.mp hentry).2
  simp only [Bool.and_eq_true] at htest
  exact htest.2

/-! ### Every token has one place -/

theorem walked_map_fst (tokens : List String) (doubleDash : Bool) :
    (walked tokens doubleDash).map Prod.fst = tokens.take (stopPlace tokens doubleDash) := by
  rw [walked_eq_map, List.map_map]
  change (tokens.zipIdx.take _).map Prod.fst = _
  rw [List.map_take, List.zipIdx_map_fst]

/-- The tests for what a token is for pick each marked token once. -/
theorem perm_of_kinds (entries : List (String × Bool)) :
    ((entries.filter fun entry => !entry.2 && isVmFlag entry.1) ++
      (entries.filter fun entry => !entry.2 && isClasspathFlag entry.1) ++
      (entries.filter fun entry => entry.2) ++
      (entries.filter fun entry =>
        !entry.2 && !isVmFlag entry.1 && !isClasspathFlag entry.1)).Perm entries := by
  induction entries with
  | nil => rfl
  | cons entry rest ih =>
    obtain ⟨token, mark⟩ := entry
    have front := ih.cons (token, mark)
    cases mark with
    | true =>
      simp only [List.filter_cons, Bool.not_true, Bool.false_and, Bool.false_eq_true, if_false,
        if_true]
      rw [List.append_assoc] at front ⊢
      exact List.perm_middle.trans front
    | false =>
      cases hvm : isVmFlag token with
      | true =>
        have hflag := not_isClasspathFlag_of_isVmFlag hvm
        simpa [List.filter_cons, hvm, hflag] using front
      | false =>
        cases hflag : isClasspathFlag token with
        | true =>
          simp only [List.filter_cons, hvm, hflag, Bool.not_false, Bool.and_false, Bool.and_true,
            Bool.not_true, Bool.false_eq_true, if_false, if_true]
          rw [List.append_assoc, List.append_assoc] at front ⊢
          exact List.perm_middle.trans front
        | false =>
          simp only [List.filter_cons, hvm, hflag, Bool.not_false, Bool.and_false, Bool.and_true,
            Bool.false_eq_true, if_false, if_true]
          exact List.perm_middle.trans front

/-- Each token of an argument list lands in one place, and the place depends only on the text of the
token and on how many classpath flags stand right before it. -/
theorem partition_places_every_token {tokens defaults : List String} {doubleDash : Bool}
    {p : Partition} (h : partition tokens defaults doubleDash = .ok p) :
    let stop := stopPlace tokens doubleDash
    let vmFlags := tokensBefore stop tokens fun place token =>
      !isTaken tokens place && isVmFlag token
    let classpathFlags := tokensBefore stop tokens fun place token =>
      !isTaken tokens place && isClasspathFlag token
    let classpaths := tokensBefore stop tokens fun place _ => isTaken tokens place
    let others := tokensBefore stop tokens fun place token =>
      !isTaken tokens place && !isVmFlag token && !isClasspathFlag token
    p.remainder = others ++ tokens.drop stop ∧
      p.classpath = defaults ++ classpaths.getLast?.toList ∧
      p.vmArgs =
        (if p.classpath = [] then [] else ["-cp", joinClasspath p.classpath]) ++ vmFlags ∧
      (vmFlags ++ classpathFlags ++ classpaths ++ p.remainder).Perm tokens := by
  intro stop vmFlags classpathFlags classpaths others
  obtain ⟨s, hs, rfl⟩ := map_eq_ok.mp h
  obtain ⟨hvms, hclasspath, hremainder⟩ := places_of_sort hs
  have vmFlags_eq := tokensBefore_stopPlace tokens doubleDash
    fun mark token => !mark && isVmFlag token
  have flags_eq := tokensBefore_stopPlace tokens doubleDash
    fun mark token => !mark && isClasspathFlag token
  have classpaths_eq := tokensBefore_stopPlace tokens doubleDash fun mark _ => mark
  have others_eq := tokensBefore_stopPlace tokens doubleDash
    fun mark token => !mark && !isVmFlag token && !isClasspathFlag token
  have remainder_eq : s.remainder = others ++ tokens.drop stop := by
    rw [hremainder, walked_length]
    exact congrArg (· ++ tokens.drop stop) others_eq.symm
  refine ⟨remainder_eq, ?_, ?_, ?_⟩
  · rw [hclasspath]
    exact congrArg (fun values => defaults ++ values.getLast?.toList) classpaths_eq.symm
  · rw [hvms]
    exact congrArg (classpathArgs _ ++ ·) vmFlags_eq.symm
  · have hkinds := (perm_of_kinds (walked tokens doubleDash)).map Prod.fst
    simp only [List.map_append, walked_map_fst] at hkinds
    have hall := hkinds.append_right (tokens.drop stop)
    rw [← vmFlags_eq, ← flags_eq, ← classpaths_eq, ← others_eq, List.take_append_drop,
      List.append_assoc, ← remainder_eq] at hall
    exact hall

/-- Of three classpath flags in a row the second is the classpath of the first, so the third takes
the double dash behind it, and sorting goes on to the next one. -/
theorem partition_places_flag_block :
    let tokens := ["-cp", "-cp", "-cp", "--", "-Da", "-x", "--", "-Db", "-cp"]
    let p : Partition := ⟨["-cp", "lib:--", "-Da"], ["lib", "--"], ["-x", "--", "-Db", "-cp"]⟩
    partition tokens ["lib"] true = .ok p ∧
      p.classpath = ["lib"] ++
        (tokensBefore (stopPlace tokens true) tokens fun place _ =>
          isTaken tokens place).getLast?.toList := by
  have h : partition ["-cp", "-cp", "-cp", "--", "-Da", "-x", "--", "-Db", "-cp"] ["lib"] true =
      .ok ⟨["-cp", "lib:--", "-Da"], ["lib", "--"], ["-x", "--", "-Db", "-cp"]⟩ := by decide
  exact ⟨h, (partition_places_every_token h).2.1⟩

end Launchpad.Arguments
