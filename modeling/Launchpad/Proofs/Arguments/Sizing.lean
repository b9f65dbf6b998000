import Launchpad.Arguments.Sizing
import Mathlib.Data.List.Basic

/-!
What default sizes add to a list of flags. The list itself stays as it is; what is put behind it is
settled by the list alone, since no flag for the heap counts as one for the stack. Sizes that are
put behind sizes add only what is still open.
-/

namespace Launchpad.Arguments

theorem startsWith_append (lead text pattern : String) (h : startsWith lead pattern = true) :
    startsWith (lead ++ text) pattern = true := by
  simp only [startsWith, String.toList_append, List.isPrefixOf_iff_prefix] at h ⊢
  exact h.trans (List.prefix_append _ _)

theorem isVmFlag_of_startsWith {token : String} (h : startsWith token "-X" = true) :
    isVmFlag token = true := by
  simp [isVmFlag, flagRules, FlagRule.admits, h]

/-- The flags that default sizes put behind a list. -/
def Sizing.added (sizing : Sizing) (flags : List String) : List String :=
  (if setsHeap flags then [] else sizing.heapFlags) ++
    (if setsStack flags then [] else sizing.stackFlags)

/-- A start that is no longer than the lead of a text is decided by the lead. -/
theorem startsWith_append_of_length_le {lead start : String} (text : String)
    (h : start.toList.length ≤ lead.toList.length) :
    startsWith (lead ++ text) start = startsWith lead start := by
  rw [Bool.eq_iff_iff]
  refine ⟨fun hwhole => ?_, startsWith_append lead text start⟩
  simp only [startsWith, String.toList_append, List.isPrefixOf_iff_prefix] at hwhole ⊢
  exact List.prefix_of_prefix_length_le hwhole (List.prefix_append _ _) h

/-- What the flag for a size is for is told by its lead alone, whatever the size is. -/
theorem any_startsWith_flag (size? : Option String) {lead start : String}
    (h : start.toList.length ≤ lead.toList.length) :
    (size?.map (lead ++ ·)).toList.any (startsWith · start) =
      (size?.isSome && startsWith lead start) := by
  cases size? with
  | none => rfl
  | some size => simp [startsWith_append_of_length_le size h]

/-- The heap flags leave the question of the stack size open. -/
theorem setsStack_heapFlags (sizing : Sizing) : setsStack sizing.heapFlags = false := by
  have hmin : startsWith "-Xms" stackStart = false := by decide
  have hmax : startsWith "-Xmx" stackStart = false := by decide
  rw [setsStack, Sizing.heapFlags, List.any_append, any_startsWith_flag _ (by decide),
    any_startsWith_flag _ (by decide), hmin, hmax, Bool.and_false, Bool.and_false, Bool.or_false]

theorem setsStack_append (left right : List String) :
    setsStack (left ++ right) = (setsStack left || setsStack right) := by
  simp [setsStack]

theorem appendSizing_eq_append (flags : List String) (sizing : Sizing) :
    appendSizing flags sizing = flags ++ sizing.added flags := by
  unfold appendSizing Sizing.added
  cases hheap : setsHeap flags <;> cases hstack : setsStack flags <;>
    simp [setsStack_append, setsStack_heapFlags, hstack]

/-- Whatever the sizes are, the flags for them are flags of the virtual machine. -/
theorem isVmFlag_of_mem_added {sizing : Sizing} {flags : List String} {flag : String}
    (h : flag ∈ sizing.added flags) : isVmFlag flag = true := by
  have hlead : ∃ lead text, flag = lead ++ text ∧ startsWith lead "-X" = true := by
    simp only [Sizing.added, Sizing.heapFlags, Sizing.stackFlags, List.mem_append] at h
    rcases h with hheap | hstack
    · split at hheap
      · simp at hheap
      · simp only [List.mem_append, Option.mem_toList, Option.map_eq_some_iff] at hheap
        rcases hheap with ⟨text, -, rfl⟩ | ⟨text, -, rfl⟩
        · exact ⟨"-Xms", text, rfl, by decide⟩
        · exact ⟨"-Xmx", text, rfl, by decide⟩
    · split at hstack
      · simp at hstack
      · simp only [Option.mem_toList, Option.map_eq_some_iff] at hstack
        obtain ⟨text, -, rfl⟩ := hstack
        exact ⟨stackStart, text, rfl, by decide⟩
  obtain ⟨lead, text, rfl, hstart⟩ := hlead
  exact isVmFlag_of_startsWith (startsWith_append lead text "-X" hstart)

/-! ### Sizes that are put behind sizes -/

theorem setsHeap_append (left right : List String) :
    setsHeap (left ++ right) = (setsHeap left || setsHeap right) := by
  simp [setsHeap]

/-- The heap flags settle the heap as soon as there is one. -/
theorem setsHeap_heapFlags (sizing : Sizing) :
    setsHeap sizing.heapFlags = (sizing.minHeap?.isSome || sizing.maxHeap?.isSome) := by
  have hmin : startsWith "-Xms" heapStart = true := by decide
  have hmax : startsWith "-Xmx" heapStart = true := by decide
  rw [setsHeap, Sizing.heapFlags, List.any_append, any_startsWith_flag _ (by decide),
    any_startsWith_flag _ (by decide), hmin, hmax, Bool.and_true, Bool.and_true]

theorem setsHeap_stackFlags (sizing : Sizing) : setsHeap sizing.stackFlags = false := by
  have hstack : startsWith stackStart heapStart = false := by decide
  rw [setsHeap, Sizing.stackFlags, any_startsWith_flag _ (by decide), hstack, Bool.and_false]

theorem setsStack_stackFlags (sizing : Sizing) :
    setsStack sizing.stackFlags = sizing.stack?.isSome := by
  have hstack : startsWith stackStart stackStart = true := by decide
  rw [setsStack, Sizing.stackFlags, any_startsWith_flag _ (by decide), hstack, Bool.and_true]

/-- Behind default sizes the heap is settled if it was before, or if they set one of its sizes. -/
theorem setsHeap_appendSizing (flags : List String) (sizing : Sizing) :
    setsHeap (appendSizing flags sizing) =
      (setsHeap flags || sizing.minHeap?.isSome || sizing.maxHeap?.isSome) := by
  rw [appendSizing_eq_append, setsHeap_append, Sizing.added, setsHeap_append, Bool.or_assoc]
  have hstack : setsHeap (if setsStack flags then [] else sizing.stackFlags) = false := by
    split
    · rfl
    · exact setsHeap_stackFlags sizing
  rw [hstack, Bool.or_false]
  cases hheap : setsHeap flags with
  | true => rfl
  | false => exact setsHeap_heapFlags sizing

theorem setsStack_appendSizing (flags : List String) (sizing : Sizing) :
    setsStack (appendSizing flags sizing) = (setsStack flags || sizing.stack?.isSome) := by
  rw [appendSizing_eq_append, setsStack_append, Sizing.added, setsStack_append]
  have hheap : setsStack (if setsHeap flags then [] else sizing.heapFlags) = false := by
    split
    · rfl
    · exact setsStack_heapFlags sizing
  rw [hheap, Bool.false_or]
  cases hstack : setsStack flags with
  | true => rfl
  | false => exact setsStack_stackFlags sizing

theorem Sizing.heapFlags_eq_nil {sizing : Sizing}
    (h : (sizing.minHeap?.isSome || sizing.maxHeap?.isSome) = false) : sizing.heapFlags = [] := by
  obtain ⟨minHeap?, maxHeap?, stack?⟩ := sizing
  cases minHeap? <;> cases maxHeap? <;> simp_all [heapFlags]

theorem Sizing.stackFlags_eq_nil {sizing : Sizing} (h : sizing.stack?.isSome = false) :
    sizing.stackFlags = [] := by
  obtain ⟨minHeap?, maxHeap?, stack?⟩ := sizing
  cases stack? <;> simp_all [stackFlags]

/-- Sizes that were put behind a list have nothing to add to it any more. -/
theorem added_appendSizing_self (flags : List String) (sizing : Sizing) :
    sizing.added (appendSizing flags sizing) = [] := by
  rw [Sizing.added, setsHeap_appendSizing, setsStack_appendSizing, List.append_eq_nil_iff]
  constructor
  · split
    · rfl
    · rename_i hheap
      simp only [Bool.or_assoc, Bool.or_eq_true, not_or, Bool.not_eq_true] at hheap
      exact Sizing.heapFlags_eq_nil (by simp [hheap.2])
  · split
    · rfl
    · rename_i hstack
      simp only [Bool.or_eq_true, not_or, Bool.not_eq_true] at hstack
      exact Sizing.stackFlags_eq_nil hstack.2

/-- Default sizes are put behind a list of flags, those of the heap if no flag of the list is for
the heap, that of the stack if none is for the stack. A second time they add nothing. Other sizes
add after them what neither the list nor the first sizes settle: one heap size that is set keeps
both others out. -/
theorem appendSizing_settles_once (flags : List String) (sizing other : Sizing) :
    let hasHeap := flags.any (startsWith · "-Xm")
    let hasStack := flags.any (startsWith · "-Xss")
    appendSizing flags sizing = flags ++
        (if hasHeap then []
          else (sizing.minHeap?.map ("-Xms" ++ ·)).toList ++
            (sizing.maxHeap?.map ("-Xmx" ++ ·)).toList) ++
        (if hasStack then [] else (sizing.stack?.map ("-Xss" ++ ·)).toList) ∧
      appendSizing (appendSizing flags sizing) sizing = appendSizing flags sizing ∧
      appendSizing (appendSizing flags sizing) other = appendSizing flags sizing ++
        (if hasHeap || sizing.minHeap?.isSome || sizing.maxHeap?.isSome then []
          else other.heapFlags) ++
        (if hasStack || sizing.stack?.isSome then [] else other.stackFlags) := by
  intro hasHeap hasStack
  refine ⟨?_, ?_, ?_⟩
  · rw [appendSizing_eq_append, List.append_assoc]
    rfl
  · rw [appendSizing_eq_append (appendSizing flags sizing), added_appendSizing_self,
      List.append_nil]
  · rw [appendSizing_eq_append (appendSizing flags sizing), Sizing.added, setsHeap_appendSizing,
      setsStack_appendSizing, List.append_assoc]
    rfl

end Launchpad.Arguments
