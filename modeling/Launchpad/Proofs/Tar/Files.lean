import Launchpad.Proofs.Copy.Runs
import Mathlib.Data.List.Induction

/-!
What archives of files say. Every member that has a place there puts its content at this place, in
place of what earlier members put there; so as long as no file goes to where another one needs a
directory, each place holds what the last archive with this place says about it last.
-/

namespace Launchpad

namespace Tar

/-- A member that a file is written for, and not a directory or a link. -/
structure Member.IsFile (m : Member) : Prop where
  kind : m.header.kind = .regular ∨ m.header.kind = .sparse
  /-- In the oldest layout a name that ends in a separator is that of a directory. -/
  named : m.header.isUstar = true ∨ m.name.getLast? ≠ some '/'.toUInt8

/-- Where a member goes to, and with what content; nothing if its name climbs or is no name. -/
def Member.file? (m : Member) : Option (List Name × ByteArray) :=
  m.names?.map fun names => (names, m.content)

namespace Archive

variable (archive : Archive)

def IsOfFiles : Prop := ∀ m ∈ archive.members, m.IsFile

def files : List (List Name × ByteArray) := archive.members.filterMap (·.file?)

/-- The content of the last file that goes to a place. -/
def content? (names : List Name) : Option ByteArray := archive.files.reverse.lookup names

/-- No file of some archives goes to a place above that of another. -/
def Unnested (archives : List Archive) : Prop :=
  ∀ file ∈ archives.flatMap files, ∀ other ∈ archives.flatMap files,
    file.1 <+: other.1 → file.1 = other.1

end Archive

end Tar

namespace Tree

/-- A tree with a file put into it, together with the directories on the way. -/
def put (tree : Tree) (file : List Name × ByteArray) : Tree := fun below =>
  if below = file.1 then some (.file file.2)
  else if below <+: file.1 then some .directory
  else tree below

/-- What is made of a tree by putting the files of an archive into it, in their order. -/
def putFiles (content : ByteArray) (tree : Tree) : Tree :=
  (Tar.read content).files.foldl put tree

/-- The last content for each place in the last archive that has this place, together with the
directories that hold them. -/
def ofArchives (archives : List Tar.Archive) : Tree := fun below =>
  match archives.reverse.findSome? (·.content? below) with
  | some content => some (.file content)
  | none =>
    if below = [] ∨ ∃ file ∈ archives.flatMap (·.files), below <+: file.1 then some .directory
    else none

def NoLink (tree : Tree) : Prop := ∀ {below target}, tree below ≠ some (.link target)

variable {tree : Tree} {files : List (List Name × ByteArray)}

theorem noLink_empty : NoLink empty := by
  intro below target
  unfold empty
  split <;> simp

theorem NoLink.put (h : tree.NoLink) (file : List Name × ByteArray) : (tree.put file).NoLink := by
  intro below target
  unfold Tree.put
  split
  · simp
  · split
    · simp
    · exact h

theorem NoLink.foldl_put (h : tree.NoLink) : (files.foldl Tree.put tree).NoLink := by
  induction files generalizing tree with
  | nil => exact h
  | cons file files ih => exact ih (h.put file)

/-- Each place holds the content that was put there last. The induction goes from the last file
back; a file does not hide what was put elsewhere, as it goes nowhere above and nowhere below. -/
theorem foldl_put_eq
    (hflat : ∀ file ∈ files, ∀ other ∈ files, file.1 <+: other.1 → file.1 = other.1)
    (below : Location) :
    files.foldl put empty below =
      match files.reverse.lookup below with
      | some content => some (.file content)
      | none =>
        if below = [] ∨ ∃ file ∈ files, below <+: file.1 then some .directory else none := by
  induction files using List.reverseRecOn with
  | nil => simp [empty]
  | append_singleton files last ih =>
    rw [List.foldl_append, List.foldl_cons, List.foldl_nil, List.reverse_append,
      List.reverse_singleton, List.singleton_append, List.lookup_cons, put]
    by_cases hplace : below = last.1
    · simp [hplace]
    · have hbeq : (below == last.1) = false := beq_eq_false_iff_ne.mpr hplace
      rw [if_neg hplace, hbeq]
      by_cases habove : below <+: last.1
      · have hnoFile : files.reverse.lookup below = none := by
          rw [List.lookup_eq_none_iff]
          intro file hfile
          rw [List.mem_reverse] at hfile
          by_contra heq
          have hbelow : below = file.1 := by simpa using heq
          refine hplace (hbelow.trans (hflat file ?_ last ?_ (hbelow ▸ habove)))
          · exact List.mem_append_left _ hfile
          · exact List.mem_append_right _ (List.mem_singleton_self last)
        have hdirectory : ∃ file ∈ files ++ [last], below <+: file.1 :=
          ⟨last, List.mem_append_right _ (List.mem_singleton_self last), habove⟩
        rw [if_pos habove, hnoFile]
        exact (if_pos (.inr hdirectory)).symm
      · have hsame : (∃ file ∈ files ++ [last], below <+: file.1) ↔
            ∃ file ∈ files, below <+: file.1 := by
          simp [habove]
        rw [if_neg habove, ih fun file hfile other hother =>
          hflat file (List.mem_append_left _ hfile) other (List.mem_append_left _ hother)]
        simp only [hsame]

/-- What the last archive has at a place stands there. -/
theorem ofArchives_concat {archives : List Tar.Archive} {archive : Tar.Archive} {below : Location}
    {content : ByteArray} (h : archive.content? below = some content) :
    ofArchives (archives ++ [archive]) below = some (.file content) := by
  have hlast : (archives ++ [archive]).reverse.findSome? (·.content? below) = some content := by
    rw [List.reverse_append, List.reverse_singleton, List.singleton_append,
      List.findSome?_cons, h]
  rw [ofArchives, hlast]

theorem lookup_reverse_files (archives : List Tar.Archive) (below : Location) :
    (archives.flatMap (·.files)).reverse.lookup below =
      archives.reverse.findSome? (·.content? below) := by
  induction archives with
  | nil => rfl
  | cons archive archives ih =>
    rw [List.flatMap_cons, List.reverse_append, List.lookup_append, ih, List.reverse_cons,
      List.findSome?_append]
    simp [Tar.Archive.content?]

/-- What archives put into an empty directory, file by file, is what they say last. -/
theorem foldl_put_files {archives : List Tar.Archive} (hflat : Tar.Archive.Unnested archives) :
    (archives.flatMap (·.files)).foldl put empty = ofArchives archives := by
  funext below
  rw [foldl_put_eq hflat, lookup_reverse_files]
  rfl

end Tree

end Launchpad
