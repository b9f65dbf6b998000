import Launchpad.Proofs.Copy.Runs

/-!
The directory that archives are unpacked into. What there was of the copy is cleared away first, so
nothing of it is left there. The directory is empty unless the path of the copy climbs, and then it
may hold what was made of the directories that the path goes through.
-/

namespace Launchpad

namespace FileSystem

/-- A directory that is there needs no preparation for what is unpacked into it. -/
theorem prepare_of_isDirectoryAt {fs : FileSystem} {p : Path} {top : Location}
    (h : fs.IsDirectoryAt p top) : Tar.prepare p fs = (.ok (), fs) := by
  obtain ⟨e, hstatus, -⟩ := h
  obtain ⟨⟨l, e', hfound⟩, -⟩ := locate_unfollowed hstatus
  rw [Tar.prepare, hfound]
  rfl

/-- What making a directory leads to. -/
theorem exists_isDirectoryAt_of_makeDirectories {fs made : FileSystem} {p : Path}
    (hp : p.isEmpty = false)
    (h : fs.makeDirectories p = (.ok (), made)) : ∃ top, made.IsDirectoryAt p top := by
  have hsought := isSought_of_makeDirectoriesFuel h hp
  obtain ⟨l, e, hlocate, hdir | hdir⟩ := exists_of_makeDirectoriesFuel h hp
  · exact ⟨l, e, find_of_locate_withoutSlash hsought hdir hlocate true, hdir⟩
  · obtain ⟨top, e, hstatus, hdir⟩ := exists_status_of_isDirectory hdir
    exact ⟨top, e, hstatus, hdir⟩

end FileSystem

namespace Copy

variable {copy : Copy} {fs cleared made : FileSystem}

theorem Clears.isTree (h : copy.Clears fs cleared) (htree : fs.IsTree) : cleared.IsTree := by
  cases h with
  | missing => exact htree
  | removed _ h =>
    obtain ⟨l, e, -, rfl⟩ := FileSystem.removeTree_ok h
    exact htree.remove l

theorem Clears.wellFormed (h : copy.Clears fs cleared) (hwell : fs.WellFormed) :
    cleared.WellFormed := by
  cases h with
  | missing => exact hwell
  | removed _ h =>
    obtain ⟨l, e, -, rfl⟩ := FileSystem.removeTree_ok h
    exact hwell.remove l

/-- Once a copy is cleared away its path names nothing. -/
theorem Clears.pathExists_eq_false (h : copy.Clears fs cleared) :
    cleared.pathExists copy.directory = false := by
  cases h with
  | missing h => exact h
  | removed _ h =>
    obtain ⟨l, e, hfound, rfl⟩ := FileSystem.removeTree_ok h
    cases hthere : (fs.remove l).pathExists copy.directory with
    | false => rfl
    | true =>
      obtain ⟨l', e', hstatus⟩ := FileSystem.pathExists_eq_true_iff.mp hthere
      obtain ⟨⟨l', e', hfound'⟩, -⟩ := FileSystem.locate_unfollowed hstatus
      -- What is found after the removal was found before it, so it was removed.
      have hwithin := (FileSystem.within_remove fs l).trans (FileSystem.eraseBelow_within fs l)
      obtain ⟨e'', hsame, -⟩ := hwithin.find hfound'
      rw [hfound] at hsame
      cases hsame
      have hentry := FileSystem.entry?_of_find hfound'
      rw [FileSystem.entry?_remove, if_pos (List.prefix_refl l)] at hentry
      cases hentry

theorem Clears.entry?_eq_none {old l : Location} {e : Entry} (h : copy.Clears fs cleared)
    (hthere : fs.pathExists copy.directory = true)
    (hfound : fs.find copy.directory false = .ok (old, e)) (hbelow : old <+: l) :
    cleared.entry? l = none := by
  cases h with
  | missing h =>
    rw [h] at hthere
    cases hthere
  | removed _ h =>
    obtain ⟨l', e', hfound', rfl⟩ := FileSystem.removeTree_ok h
    rw [hfound] at hfound'
    cases hfound'
    rw [FileSystem.entry?_remove, if_pos hbelow]

/-- What archives are unpacked into, once nothing of the old copy is left: a directory, which is new
and empty if the path of the copy does not climb. -/
structure MadeAt (copy : Copy) (fs cleared made : FileSystem) (top : Location) : Prop where
  clears : copy.Clears fs cleared
  makes : cleared.makeDirectories copy.directory = (.ok (), made)
  leads : made.IsDirectoryAt copy.directory top
  isGone : ∀ {old l e}, fs.pathExists copy.directory = true →
    fs.find copy.directory false = .ok (old, e) → old <+: l → cleared.entry? l = none
  isNew : copy.directory.climbs = false → ∀ {l}, top <+: l → cleared.entry? l = none
  isEmpty : copy.directory.climbs = false → made.treeAt top = Tree.empty

theorem MadeAt.wellFormed {top : Location} (h : copy.MadeAt fs cleared made top)
    (hwell : fs.WellFormed) : made.WellFormed :=
  (h.clears.wellFormed hwell).makeDirectories h.makes

theorem exists_madeAt (hname : copy.directory.isEmpty = false) (htree : fs.IsTree)
    (hclears : copy.Clears fs cleared)
    (hmade : cleared.makeDirectories copy.directory = (.ok (), made)) :
    ∃ top, copy.MadeAt fs cleared made top := by
  have hsought := FileSystem.isSought_of_makeDirectoriesFuel hmade hname
  obtain ⟨top, hleads⟩ := FileSystem.exists_isDirectoryAt_of_makeDirectories hname hmade
  obtain ⟨e, hstatus, hdir⟩ := hleads
  have hcleared := hclears.isTree htree
  have hnew : copy.directory.climbs = false →
      FileSystem.IsNewAt cleared made copy.directory top := by
    intro hdescends
    rcases FileSystem.eq_or_isNewAt_of_makeDirectoriesFuel hcleared hdescends hmade with
      rfl | ⟨top', hnew⟩
    · have hthere := FileSystem.pathExists_eq_true_iff.mpr ⟨top, e, hstatus⟩
      rw [hclears.pathExists_eq_false] at hthere
      cases hthere
    · obtain ⟨e', hlocate, hdir'⟩ := hnew.leads
      have hstatus' := FileSystem.find_of_locate_withoutSlash hsought hdir' hlocate true
      rw [FileSystem.status, hstatus'] at hstatus
      cases hstatus
      exact hnew
  refine ⟨top, hclears, hmade, ⟨e, hstatus, hdir⟩, hclears.entry?_eq_none,
    fun hdescends l hbelow => ?_, fun hdescends => ?_⟩
  · exact hcleared.entry?_eq_none (hnew hdescends).free hbelow
  · have hentry := FileSystem.entry?_of_find hstatus
    have hnode : e.node = .directory := of_decide_eq_true hdir
    funext below
    by_cases hbelow : below = []
    · simp [FileSystem.treeAt, Tree.empty, hbelow, hentry, hnode]
    · have hne : top ++ below ≠ top := by simpa using hbelow
      have hnone := (hnew hdescends).holdsNothing (List.prefix_append top below) hne
      simp [FileSystem.treeAt, Tree.empty, hbelow, hnone]

/-- Once the directory of a copy is made, its path leads there straight, and not through anything in
the directory itself. -/
def OpensStraight (copy : Copy) (fs : FileSystem) : Prop :=
  ∀ {cleared made top}, copy.Clears fs cleared →
    cleared.makeDirectories copy.directory = (.ok (), made) →
    made.IsDirectoryAt copy.directory top → made.LeadsStraight copy.directory top

/-- Only a path that climbs may lead through the directory that it leads to. -/
theorem MadeAt.leadsStraight {top : Location} (h : copy.MadeAt fs cleared made top)
    (hopens : copy.directory.climbs = true → copy.OpensStraight fs) :
    made.LeadsStraight copy.directory top := by
  cases hclimbs : copy.directory.climbs with
  | false => exact h.leads.leadsStraight (h.isEmpty hclimbs)
  | true => exact hopens hclimbs h.clears h.makes h.leads

end Copy

end Launchpad
