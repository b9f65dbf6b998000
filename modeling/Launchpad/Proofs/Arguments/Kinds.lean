import Launchpad.Proofs.Arguments.Placement

/-!
Sorting lists whose tokens are of one kind, and lists made of such parts: a classpath with its flag,
flags of the virtual machine, and what is left to the program.
-/

namespace Launchpad.Arguments

open Results

/-- A token means nothing to the virtual machine. -/
def isPlain (token : String) : Bool := !isVmFlag token && !isClasspathFlag token

theorem isPlain_iff {token : String} :
    isPlain token = true ↔ isVmFlag token = false ∧ isClasspathFlag token = false := by
  simp [isPlain]

/-! ### Sorting lists of one kind -/

/-- Flags of the virtual machine in front of a list are flags in front of what sorting finds. -/
theorem sort_vmFlags_append {flags : List String} (h : ∀ flag ∈ flags, isVmFlag flag = true)
    (doubleDash : Bool) (rest : List String) :
    sort doubleDash (flags ++ rest) =
      (sort doubleDash rest).map fun s => { s with vmFlags := flags ++ s.vmFlags } := by
  induction flags with
  | nil =>
    rw [List.nil_append]
    cases sort doubleDash rest <;> rfl
  | cons flag flags ih =>
    rw [List.cons_append, sort_vmFlag _ (h flag List.mem_cons_self),
      ih fun other hother => h other (List.mem_cons_of_mem flag hother)]
    cases sort doubleDash rest <;> rfl

theorem sort_of_vmFlags {flags : List String} (h : ∀ flag ∈ flags, isVmFlag flag = true) :
    sort false flags = .ok ⟨flags, none, []⟩ := by
  have hfront := sort_vmFlags_append h false []
  rw [List.append_nil] at hfront
  rw [hfront]
  simp [sort, Except.map]

theorem sort_of_plain {tokens : List String} (h : ∀ token ∈ tokens, isPlain token = true) :
    sort false tokens = .ok ⟨[], none, tokens⟩ := by
  induction tokens with
  | nil => rfl
  | cons token rest ih =>
    obtain ⟨hvm, hflag⟩ := isPlain_iff.mp (h token List.mem_cons_self)
    rw [sort_plain rest hvm rfl hflag,
      ih fun other hother => h other (List.mem_cons_of_mem token hother)]
    rfl

/-- A flag for a classpath takes what follows it, so the pair is sorted whatever that is. -/
theorem sort_pair (value : String) : sort false ["-cp", value] = .ok ⟨[], some value, []⟩ := by
  rw [sort_flag value [] (by decide)]
  rfl

/-- What sorting leaves to the program means nothing to the virtual machine. -/
theorem isPlain_of_mem_remainder {tokens : List String} {s : Sorted}
    (h : sort false tokens = .ok s) {token : String} (htoken : token ∈ s.remainder) :
    isPlain token = true := by
  rw [(places_of_sort h).remainder, walked_length, stopPlace_false, List.drop_length,
    List.append_nil] at htoken
  obtain ⟨entry, hentry, rfl⟩ := List.mem_map.mp htoken
  have htest := (List.mem_filter.mp hentry).2
  simp only [Bool.and_eq_true] at htest
  rw [isPlain, htest.1.2, htest.2]
  rfl

/-! ### Classpaths and flags of a partition -/

/-- The entries of a classpath as one text, if there are any. -/
def joined? (entries : List String) : Option String :=
  if entries = [] then none else some (joinClasspath entries)

/-- The flags of the virtual machine without the classpath in front of them. -/
def Partition.flags (p : Partition) : List String :=
  p.vmArgs.drop (classpathArgs p.classpath).length

theorem joinClasspath_singleton (entry : String) : joinClasspath [entry] = entry := by
  simp [joinClasspath, Text.joinWith]

theorem joined?_toList (text? : Option String) : joined? text?.toList = text? := by
  cases text? with
  | none => rfl
  | some text => simp [joined?, joinClasspath_singleton]

theorem classpathArgs_eq_flatMap (entries : List String) :
    classpathArgs entries = (joined? entries).toList.flatMap (["-cp", ·]) := by
  unfold classpathArgs joined?
  split <;> rfl

/-- A classpath with its flag takes part in the walk as one step; any later classpath wins. -/
theorem sort_classpathArgs_append (entries : List String) (doubleDash : Bool)
    (rest : List String) :
    sort doubleDash (classpathArgs entries ++ rest) =
      (sort doubleDash rest).map fun s =>
        { s with classpath? := s.classpath?.or (joined? entries) } := by
  rw [classpathArgs_eq_flatMap]
  cases joined? entries with
  | none =>
    simp only [Option.toList_none, List.flatMap_nil, List.nil_append, Option.or_none]
    cases sort doubleDash rest <;> rfl
  | some text =>
    simp only [Option.toList_some, List.flatMap_singleton, List.cons_append, List.nil_append]
    rw [sort_flag text rest (by decide)]
    congr
    funext s
    cases s.classpath? <;> rfl

theorem sort_classpathArgs (entries : List String) :
    sort false (classpathArgs entries) = .ok ⟨[], joined? entries, []⟩ := by
  have hfront := sort_classpathArgs_append entries false []
  rw [List.append_nil] at hfront
  rw [hfront]
  simp [sort, Except.map]

/-- What partitioning finds when there is no default classpath. -/
theorem partition_nil_eq_ok {tokens : List String} {p : Partition}
    (h : partition tokens [] false = .ok p) :
    sort false tokens = .ok ⟨p.flags, joined? p.classpath, p.remainder⟩ := by
  obtain ⟨s, hs, rfl⟩ := map_eq_ok.mp h
  simp only [Partition.flags, List.nil_append, List.drop_left, joined?_toList]
  exact hs

end Launchpad.Arguments
