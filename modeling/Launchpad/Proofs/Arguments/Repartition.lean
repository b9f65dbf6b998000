import Launchpad.Proofs.Arguments.Kinds

/-!
Partitioning what a partition gave back. The classpath goes through the walk behind a flag of its
own, so it may look like anything. The flags of the virtual machine are flags wherever they stand.
What was left to the program is left again, since a double dash that ended the walk stands at the
start of whatever else came behind it.
-/

namespace Launchpad.Arguments

open Results

variable {doubleDash : Bool} {tokens : List String}

/-- What was left to the program is left to it again. Behind a double dash that counts it may hold
any tokens, and there it is the double dash that keeps the second walk from them. -/
theorem sort_remainder {s : Sorted} (h : sort doubleDash tokens = .ok s) :
    sort doubleDash s.remainder = .ok ⟨[], none, s.remainder⟩ := by
  induction tokens using walk_induction doubleDash generalizing s with
  | nil =>
    cases h
    rfl
  | vmFlag token rest hvm ih =>
    rw [sort_vmFlag rest hvm] at h
    obtain ⟨inner, hinner, rfl⟩ := map_eq_ok.mp h
    exact @ih inner hinner
  | stop token rest hend =>
    rw [sort_stop rest hend] at h
    cases h
    exact sort_stop rest hend
  | dangling token hflag =>
    rw [sort_dangling hflag] at h
    cases h
  | flag token value rest hflag ih =>
    rw [sort_flag value rest hflag] at h
    obtain ⟨inner, hinner, rfl⟩ := map_eq_ok.mp h
    exact @ih inner hinner
  | plain token rest hvm hend hflag ih =>
    rw [sort_plain rest hvm hend hflag] at h
    obtain ⟨inner, hinner, rfl⟩ := map_eq_ok.mp h
    rw [sort_plain inner.remainder hvm hend hflag, ih hinner]
    rfl

/-- The parts of a sorted list with a classpath in front are sorted into the same parts. -/
theorem sort_parts {s : Sorted} (h : sort doubleDash tokens = .ok s) (entries : List String) :
    sort doubleDash (classpathArgs entries ++ (s.vmFlags ++ s.remainder)) =
      .ok ⟨s.vmFlags, joined? entries, s.remainder⟩ := by
  have hflags : ∀ flag ∈ s.vmFlags, isVmFlag flag = true :=
    fun flag hflag => isVmFlag_of_mem_sort h hflag
  rw [sort_classpathArgs_append, sort_vmFlags_append hflags, sort_remainder h]
  simp [Except.map]

theorem classpathArgs_joined? (entries : List String) :
    classpathArgs (joined? entries).toList = classpathArgs entries := by
  rw [classpathArgs_eq_flatMap, joined?_toList, ← classpathArgs_eq_flatMap]

/-- Partitioning the arguments of a partition gives the same arguments back, for either meaning of
the double dash. The classpath has become one entry. -/
theorem partition_of_own_args {defaults : List String} {p : Partition}
    (h : partition tokens defaults doubleDash = .ok p) :
    ∃ q, partition (p.vmArgs ++ p.remainder) [] doubleDash = .ok q ∧
      q.vmArgs = p.vmArgs ∧ q.remainder = p.remainder ∧ q.joined? = p.joined? ∧
      q.classpath = if p.classpath = [] then [] else [joinClasspath p.classpath] := by
  obtain ⟨s, hs, rfl⟩ := map_eq_ok.mp h
  generalize defaults ++ s.classpath?.toList = entries
  have hagain := partition_of_sort [] (sort_parts hs entries)
  rw [← List.append_assoc] at hagain
  refine ⟨_, hagain, ?_, rfl, ?_, ?_⟩
  · show classpathArgs ([] ++ (joined? entries).toList) ++ s.vmFlags =
      classpathArgs entries ++ s.vmFlags
    rw [List.nil_append, classpathArgs_joined?]
  · show joined? ([] ++ (joined? entries).toList) = joined? entries
    rw [List.nil_append, joined?_toList]
  · show [] ++ (joined? entries).toList = _
    unfold joined?
    split <;> rfl

/-- A classpath that looks like the double dash, and a double dash with flags behind it. -/
theorem partition_of_own_args_behind_doubleDash :
    partition ["-Xa", "-cp", "--", "x", "--", "-cp", "-Db"] ["l.jar"] true =
        .ok ⟨["-cp", "l.jar:--", "-Xa"], ["l.jar", "--"], ["x", "--", "-cp", "-Db"]⟩ ∧
      ∃ q, partition ["-cp", "l.jar:--", "-Xa", "x", "--", "-cp", "-Db"] [] true = .ok q ∧
        q.vmArgs = ["-cp", "l.jar:--", "-Xa"] ∧ q.remainder = ["x", "--", "-cp", "-Db"] ∧
        q.joined? = some "l.jar:--" ∧ q.classpath = ["l.jar:--"] := by
  have h : partition ["-Xa", "-cp", "--", "x", "--", "-cp", "-Db"] ["l.jar"] true =
      .ok ⟨["-cp", "l.jar:--", "-Xa"], ["l.jar", "--"], ["x", "--", "-cp", "-Db"]⟩ := by decide
  exact ⟨h, partition_of_own_args h⟩

end Launchpad.Arguments
