import Launchpad.Gate.Task

/-!
The choice of tasks by their tags.
-/

namespace Launchpad.Gate

/-- The tags of which a task must carry at least one. Without tags every task is selected. -/
structure TagFilter where
  tags : List String
  deriving DecidableEq, Repr, Inhabited

namespace TagFilter

/-- The filter that lets every task through. -/
def all : TagFilter := ⟨[]⟩

def selects (filter : TagFilter) (task : Task) : Bool :=
  filter.tags = [] || filter.tags.any (task.tags.contains ·)

end TagFilter

end Launchpad.Gate
