import Launchpad.Proofs.Copy.Fetching
import Launchpad.Proofs.FileSystem.Inside

/-!
The life of a copy. Its archives get new contents, it is deleted, and it is fetched, in any order
and any number of times, while the clock goes on. What a copy should hold at any moment is what its
archives, as they are at that moment, unpack to in an empty directory.
-/

namespace Launchpad

/-- What archives unpack to in an empty directory, one after the other, where unpacking one has an
effect on the tree that is there. -/
def Tree.unpacked (effect : ByteArray → Tree → Tree) (contents : List ByteArray) : Tree :=
  contents.foldl (fun tree content => effect content tree) empty

/-- What stands at a location was last changed by now. -/
def FileSystem.IsDated (fs : FileSystem) (l : Location) : Prop :=
  ∀ {e}, fs.entry? l = some e → e.modified ≤ fs.now

namespace Unpacker

open FileSystem

/-- Wherever unpacking a content into a directory with one tree succeeds, it leaves another tree
there, and changes nothing outside. -/
def Turns (unpacker : Unpacker) (destination : Path) (content : ByteArray) (tree next : Tree) :
    Prop :=
  ∀ {top before after}, before.Sound → before.LeadsStraight destination top →
    before.treeAt top = tree → unpacker content destination before = (.ok (), after) →
      after.Sound ∧ ChangesInside top before after ∧ after.treeAt top = next

/-- Whatever is unpacked into a directory that a path leads to, and whether it can be unpacked as a
whole or not, nothing outside the directory is changed. -/
def StaysBelow (unpacker : Unpacker) (destination : Path) : Prop :=
  ∀ {content top before outcome after}, before.WellFormed → before.LeadsStraight destination top →
    unpacker content destination before = (outcome, after) →
      after.WellFormed ∧ ChangesInside top before after

/-- Unpacking archives into a directory stays below it, does not turn the clock back, and does not
set the time stamp of the directory back to before a moment that it is not before. -/
structure InTime (unpacker : Unpacker) (destination : Path) : Prop where
  below : unpacker.StaysBelow destination
  clock : ∀ {content top before after}, before.WellFormed → before.LeadsStraight destination top →
    unpacker content destination before = (.ok (), after) → before.now ≤ after.now
  dated : ∀ {content top before after moment}, before.WellFormed →
    before.LeadsStraight destination top →
    unpacker content destination before = (.ok (), after) → moment ≤ before.now →
    (∀ {e}, before.entry? top = some e → moment ≤ e.modified) →
      ∀ {e}, after.entry? top = some e → moment ≤ e.modified

/-- What is asked of a way to unpack archives into a directory. It stays below the directory, and
leaves it with a time stamp from before it ended. With contents of a certain kind, what it makes of
a tree depends on the content and on the tree, and on nothing else. -/
structure Lawful (unpacker : Unpacker) (destination : Path) (admitted : ByteArray → Prop)
    (effect : ByteArray → Tree → Tree) : Prop where
  below : unpacker.StaysBelow destination
  dated : ∀ {content top before after}, before.WellFormed → before.LeadsStraight destination top →
    unpacker content destination before = (.ok (), after) → before.IsDated top → after.IsDated top
  turns : ∀ {contents content}, (∀ content ∈ contents, admitted content) → admitted content →
    unpacker.Turns destination content (Tree.unpacked effect contents)
      (effect content (Tree.unpacked effect contents))

end Unpacker

/-- Let the clock go on. -/
def World.until (w : World) (moment : Timestamp) : World :=
  { w with files := { w.files with now := moment } }

namespace Copy

/-- A copy holds what its archives, as they are now, unpack to. -/
def IsCurrent (copy : Copy) (c : Config) (effect : ByteArray → Tree → Tree) (files : FileSystem) :
    Prop :=
  ∃ top e contents, files.status copy.directory = .ok (top, e) ∧
    List.Forall₂ (Artifact.Holds c files) copy.artifacts contents ∧
    files.treeAt top = Tree.unpacked effect contents

/-- All that the archives of a copy hold is of a certain kind. -/
def HoldsOnly (copy : Copy) (c : Config) (admitted : ByteArray → Prop) (files : FileSystem) :
    Prop :=
  ∀ {name content}, name ∈ copy.artifacts → Artifact.Holds c files name content → admitted content

/-- The state from which the life of a copy starts. Its archives are there, and it is not: its path
leads nowhere, and will lead to a location once its directory is made. -/
structure Starts (copy : Copy) (c : Config) (top : Location) (files : FileSystem) : Prop where
  wellFormed : files.WellFormed
  absent : ∀ {l e}, files.find copy.directory false ≠ .ok (l, e)
  leads : ∀ {made}, files.makeDirectories copy.directory = (.ok (), made) →
    ∃ e, made.find copy.directory false = .ok (top, e)
  archives : ∀ name ∈ copy.artifacts, ∃ path, Artifact.locate c files name = .ok path

/-- Making the directory of a copy makes it at a location where nothing was, and makes nothing in
it. A path that climbs out of a directory which is missing, such as `a/b/..`, may do otherwise. -/
def OpensEmpty (copy : Copy) (top : Location) (files : FileSystem) : Prop :=
  ∀ {made l}, files.makeDirectories copy.directory = (.ok (), made) → top <+: l →
    files.entry? l = none ∧ (l ≠ top → made.entry? l = none)

/-- What happens to a copy, as long as no fetch fails and each finds archives of a certain kind. -/
inductive Step (copy : Copy) (host : Host) (admitted : ByteArray → Prop) (top : Location) :
    World → World → Prop where
  | fetched {w w' : World} {outcome : Outcome}
      (h : (copy.ensureCurrent host).perform w = (.ok outcome, w'))
      (hkind : copy.HoldsOnly host.config admitted w'.files) : Step copy host admitted top w w'
  /-- A file gets new content, such as an archive; none of its names lies in the copy. -/
  | replaced {w : World} (serial : Nat) (content : ByteArray)
      (h : ∀ {l e}, w.files.entry? l = some e → e.serial = serial →
        e.isFile = true ∧ ¬top <+: l) :
      Step copy host admitted top w { w with files := w.files.rewrite serial content }
  | deleted {w : World} {files : FileSystem}
      (h : w.files.removeTree copy.directory = (.ok (), files)) :
      Step copy host admitted top w { w with files := files }

/-- Any number of steps, and time that passes before each. -/
inductive Run (copy : Copy) (host : Host) (admitted : ByteArray → Prop) (top : Location) :
    World → World → Prop where
  | start (w : World) : Run copy host admitted top w w
  | step {w w' w'' : World} {moment : Timestamp} (hrun : Run copy host admitted top w w')
      (hlater : w'.files.now < moment) (hstep : Step copy host admitted top (w'.until moment) w'') :
      Run copy host admitted top w w''

end Copy

end Launchpad
