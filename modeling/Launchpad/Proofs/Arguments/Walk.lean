import Launchpad.Arguments.Partition
import Launchpad.Proofs.Results
import Mathlib.Data.List.Basic

/-!
One step of sorting, by the kind of the token it looks at. A token is of exactly one kind: the flags
of the virtual machine, the classpath flags and the double dash have no token in common, so the
order of the tests in `sort` matters to none of them.
-/

namespace Launchpad.Arguments

open Results

variable {doubleDash : Bool} {token : String}

theorem isClasspathFlag_iff :
    isClasspathFlag token = true ↔ token = "-cp" ∨ token = "-classpath" := by
  simp [isClasspathFlag]

theorem not_isVmFlag_of_isClasspathFlag (h : isClasspathFlag token = true) :
    isVmFlag token = false := by
  rcases isClasspathFlag_iff.mp h with rfl | rfl <;> decide

theorem not_isClasspathFlag_of_isVmFlag (h : isVmFlag token = true) :
    isClasspathFlag token = false := by
  cases hflag : isClasspathFlag token with
  | false => rfl
  | true => exact absurd h (by simp [not_isVmFlag_of_isClasspathFlag hflag])

def endsWalk (doubleDash : Bool) (token : String) : Bool :=
  doubleDash && token = doubleDashToken

theorem eq_doubleDash_of_endsWalk (h : endsWalk doubleDash token = true) :
    token = doubleDashToken := by
  simp only [endsWalk, Bool.and_eq_true, decide_eq_true_eq] at h
  exact h.2

theorem not_isVmFlag_of_endsWalk (h : endsWalk doubleDash token = true) :
    isVmFlag token = false := by
  rw [eq_doubleDash_of_endsWalk h]
  decide

theorem not_isClasspathFlag_of_endsWalk (h : endsWalk doubleDash token = true) :
    isClasspathFlag token = false := by
  rw [eq_doubleDash_of_endsWalk h]
  decide

theorem not_endsWalk_of_isVmFlag (doubleDash : Bool) (h : isVmFlag token = true) :
    endsWalk doubleDash token = false := by
  cases hend : endsWalk doubleDash token with
  | false => rfl
  | true => exact absurd h (by simp [not_isVmFlag_of_endsWalk hend])

theorem not_endsWalk_of_isClasspathFlag (doubleDash : Bool) (h : isClasspathFlag token = true) :
    endsWalk doubleDash token = false := by
  cases hend : endsWalk doubleDash token with
  | false => rfl
  | true => exact absurd h (by simp [not_isClasspathFlag_of_endsWalk hend])

theorem sort_vmFlag (rest : List String) (h : isVmFlag token = true) :
    sort doubleDash (token :: rest) =
      (sort doubleDash rest).map fun s => { s with vmFlags := token :: s.vmFlags } := by
  rw [sort.eq_def]
  simp only [h, if_true]

theorem sort_stop (rest : List String) (h : endsWalk doubleDash token = true) :
    sort doubleDash (token :: rest) = .ok ⟨[], none, token :: rest⟩ := by
  have hvm := not_isVmFlag_of_endsWalk h
  unfold endsWalk at h
  rw [sort.eq_def]
  simp [hvm, h]

theorem sort_dangling (h : isClasspathFlag token = true) :
    sort doubleDash [token] = .error ⟨token⟩ := by
  have hvm := not_isVmFlag_of_isClasspathFlag h
  have hend := not_endsWalk_of_isClasspathFlag doubleDash h
  unfold endsWalk at hend
  rw [sort.eq_def]
  simp [hvm, hend, h]

theorem sort_flag (value : String) (rest : List String) (h : isClasspathFlag token = true) :
    sort doubleDash (token :: value :: rest) =
      (sort doubleDash rest).map fun s =>
        { s with classpath? := some (s.classpath?.getD value) } := by
  have hvm := not_isVmFlag_of_isClasspathFlag h
  have hend := not_endsWalk_of_isClasspathFlag doubleDash h
  unfold endsWalk at hend
  rw [sort.eq_def]
  simp [hvm, hend, h]

theorem sort_plain (rest : List String) (hvm : isVmFlag token = false)
    (hend : endsWalk doubleDash token = false) (hflag : isClasspathFlag token = false) :
    sort doubleDash (token :: rest) =
      (sort doubleDash rest).map fun s => { s with remainder := token :: s.remainder } := by
  unfold endsWalk at hend
  rw [sort.eq_def]
  simp [hvm, hend, hflag]

/-- Induction along the walk. A classpath flag goes together with the token behind it. -/
theorem walk_induction {motive : List String → Prop} (doubleDash : Bool)
    (nil : motive [])
    (vmFlag : ∀ token rest, isVmFlag token = true → motive rest → motive (token :: rest))
    (stop : ∀ token rest, endsWalk doubleDash token = true → motive (token :: rest))
    (dangling : ∀ token, isClasspathFlag token = true → motive [token])
    (flag : ∀ token value rest, isClasspathFlag token = true → motive rest →
      motive (token :: value :: rest))
    (plain : ∀ token rest, isVmFlag token = false → endsWalk doubleDash token = false →
      isClasspathFlag token = false → motive rest → motive (token :: rest))
    (tokens : List String) : motive tokens := by
  induction tokens using sort.induct doubleDash with
  | case1 => exact nil
  | case2 token rest hvm ih => exact vmFlag token rest hvm ih
  | case3 token rest _ hend => exact stop token rest hend
  | case4 token _ _ hflag => exact dangling token hflag
  | case5 token _ _ hflag value rest ih => exact flag token value rest hflag ih
  | case6 token rest hvm hend hflag ih =>
    exact plain token rest (Bool.eq_false_iff.mpr hvm) (Bool.eq_false_iff.mpr hend)
      (Bool.eq_false_iff.mpr hflag) ih

/-- What sorting a list and then another gives together. The later classpath wins. -/
def Sorted.append (s t : Sorted) : Sorted :=
  ⟨s.vmFlags ++ t.vmFlags, t.classpath?.or s.classpath?, s.remainder ++ t.remainder⟩

/-- A list that leaves no classpath flag dangling does not reach into what follows it. -/
theorem sort_append {front : List String} {s : Sorted} (h : sort false front = .ok s)
    (back : List String) :
    sort false (front ++ back) = (sort false back).map s.append := by
  induction front using walk_induction false generalizing s with
  | nil =>
    simp only [sort, Except.ok.injEq] at h
    subst h
    rw [List.nil_append]
    cases sort false back <;> simp [Sorted.append, Except.map]
  | vmFlag token rest hvm ih =>
    rw [sort_vmFlag rest hvm] at h
    obtain ⟨inner, hinner, rfl⟩ := map_eq_ok.mp h
    rw [List.cons_append, sort_vmFlag _ hvm, ih hinner]
    cases sort false back <;> rfl
  | stop token rest hend => simp [endsWalk] at hend
  | dangling token hflag =>
    rw [sort_dangling hflag] at h
    cases h
  | flag token value rest hflag ih =>
    rw [sort_flag value rest hflag] at h
    obtain ⟨inner, hinner, rfl⟩ := map_eq_ok.mp h
    rw [List.cons_append, List.cons_append, sort_flag value _ hflag, ih hinner]
    cases sort false back with
    | error => rfl
    | ok t => cases ht : t.classpath? <;> simp [Sorted.append, Except.map, ht]
  | plain token rest hvm hend hflag ih =>
    rw [sort_plain rest hvm hend hflag] at h
    obtain ⟨inner, hinner, rfl⟩ := map_eq_ok.mp h
    rw [List.cons_append, sort_plain _ hvm hend hflag, ih hinner]
    cases sort false back <;> rfl

/-- Behind a dangling classpath flag any token is a classpath, whatever it looks like. -/
theorem sort_concat_of_dangling {tokens : List String} {dangling : DanglingFlag}
    (h : sort false tokens = .error dangling) (value : String) :
    ∃ s, sort false (tokens ++ [value]) = .ok s ∧ s.classpath? = some value := by
  induction tokens using walk_induction false with
  | nil => simp [sort] at h
  | vmFlag token rest hvm ih =>
    rw [sort_vmFlag rest hvm] at h
    obtain ⟨s, hs, hvalue⟩ := ih (map_eq_error.mp h)
    rw [List.cons_append, sort_vmFlag _ hvm, hs]
    exact ⟨_, rfl, hvalue⟩
  | stop token rest hend => simp [endsWalk] at hend
  | dangling token hflag =>
    rw [List.singleton_append, sort_flag value [] hflag]
    exact ⟨_, rfl, rfl⟩
  | flag token own rest hflag ih =>
    rw [sort_flag own rest hflag] at h
    obtain ⟨s, hs, hvalue⟩ := ih (map_eq_error.mp h)
    rw [List.cons_append, List.cons_append, sort_flag own _ hflag, hs]
    exact ⟨_, rfl, by simp [hvalue]⟩
  | plain token rest hvm hend hflag ih =>
    rw [sort_plain rest hvm hend hflag] at h
    obtain ⟨s, hs, hvalue⟩ := ih (map_eq_error.mp h)
    rw [List.cons_append, sort_plain _ hvm hend hflag, hs]
    exact ⟨_, rfl, hvalue⟩

/-- Sorting decides the outcome of partitioning, whatever the default classpath is. -/
theorem partition_of_sort {tokens : List String} {doubleDash : Bool} {s : Sorted}
    (defaults : List String) (h : sort doubleDash tokens = .ok s) :
    partition tokens defaults doubleDash =
      .ok ⟨classpathArgs (defaults ++ s.classpath?.toList) ++ s.vmFlags,
        defaults ++ s.classpath?.toList, s.remainder⟩ := by
  rw [partition, h]
  rfl

end Launchpad.Arguments
