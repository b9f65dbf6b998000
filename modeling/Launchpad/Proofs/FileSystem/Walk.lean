import Launchpad.FileSystem.Lookup

/-!
The rules of a look-up, one for each way in which it ends or goes on.
-/

namespace Launchpad.FileSystem

variable {fs : FileSystem} {follow : Bool} {links : Nat} {place : Location} {piece : Name}
  {rest : List Name} {onlyDirectory : Bool}

/-- A piece that goes down to an entry of the directory it is looked up in. -/
structure Descends (piece : Name) : Prop where
  notHere : piece ≠ [.char '.']
  notUp : piece ≠ Name.up
  fits : ¬(Name.bytes piece).length > nameLimit

theorem walk_nil (fs : FileSystem) (follow : Bool) (links : Nat) (place : Location)
    (onlyDirectory : Bool) :
    fs.walk follow links place [] onlyDirectory =
      match fs.entry? place with
      | none => .error .noEntry
      | some e =>
        if onlyDirectory && !e.isDirectory then .error .notDirectory else .ok ⟨place, some e⟩ :=
  (walk.eq_def fs follow links place [] onlyDirectory).trans rfl

theorem walk_unsearchable {n : Errno} (h : fs.searchable place = .error n) :
    fs.walk follow links place (piece :: rest) onlyDirectory = .error n := by
  rw [walk, h]

theorem walk_here (h : fs.searchable place = .ok ()) :
    fs.walk follow links place ([.char '.'] :: rest) onlyDirectory =
      fs.walk follow links place rest onlyDirectory := by
  rw [walk, h]
  simp

theorem walk_up (h : fs.searchable place = .ok ()) :
    fs.walk follow links place (Name.up :: rest) onlyDirectory =
      fs.walk follow links place.dropLast rest onlyDirectory := by
  rw [walk, h]
  simp [Name.up]

theorem walk_long (h : fs.searchable place = .ok ()) (hhere : piece ≠ [.char '.'])
    (hup : piece ≠ Name.up) (hlong : (Name.bytes piece).length > nameLimit) :
    fs.walk follow links place (piece :: rest) onlyDirectory = .error .nameTooLong := by
  rw [walk, h]
  simp [hhere, hup, hlong]

theorem walk_missing (h : fs.searchable place = .ok ()) (hpiece : Descends piece)
    (hentry : fs.entry? (place ++ [piece]) = none) :
    fs.walk follow links place (piece :: rest) onlyDirectory =
      if rest = [] then .ok ⟨place ++ [piece], none⟩ else .error .noEntry := by
  rw [walk, h]
  simp [hpiece.notHere, hpiece.notUp, hpiece.fits, hentry]

theorem walk_link {e : Entry} {target : Path} (h : fs.searchable place = .ok ())
    (hpiece : Descends piece) (hentry : fs.entry? (place ++ [piece]) = some e)
    (hnode : e.node = .link target) :
    fs.walk follow links place (piece :: rest) onlyDirectory =
      if rest = [] && !follow && !onlyDirectory then .ok ⟨place ++ [piece], some e⟩
      else match links with
        | 0 => .error .linkLoop
        | links + 1 =>
          if target.isEmpty then .error .noEntry
          else
            fs.walk follow links (if target.isAbsolute then [] else place) (target.pieces ++ rest)
              (onlyDirectory || rest = [] && target.endsInSlash) := by
  rw [walk, h]
  cases links with
  | zero => simp [hpiece.notHere, hpiece.notUp, hpiece.fits, hentry, hnode]
  | succ links => simp [hpiece.notHere, hpiece.notUp, hpiece.fits, hentry, hnode]

theorem walk_on {e : Entry} (h : fs.searchable place = .ok ()) (hpiece : Descends piece)
    (hentry : fs.entry? (place ++ [piece]) = some e) (hnode : ∀ target, e.node ≠ .link target) :
    fs.walk follow links place (piece :: rest) onlyDirectory =
      fs.walk follow links (place ++ [piece]) rest onlyDirectory := by
  rw [walk, h]
  simp only [hpiece.notHere, hpiece.notUp, hpiece.fits, hentry, if_false]

/-- In an empty file system no path leads anywhere. -/
theorem pathExists_of_entries_eq_nil {fs : FileSystem} (h : fs.entries = []) (p : Path) :
    fs.pathExists p = false := by
  have hentry : ∀ l, fs.entry? l = none := by
    intro l
    unfold entry?
    rw [h]
    rfl
  have hwalk : ∀ follow links place pieces onlyDirectory,
      fs.walk follow links place pieces onlyDirectory = .error .noEntry := by
    intro follow links place pieces onlyDirectory
    unfold walk
    cases pieces <;> simp [hentry, searchable]
  unfold pathExists status find locate
  simp only [hwalk]
  split
  · rfl
  · split
    · rfl
    · split <;> rfl

end Launchpad.FileSystem
