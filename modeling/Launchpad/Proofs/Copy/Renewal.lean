import Launchpad.Proofs.Copy.Runs
import Launchpad.Proofs.FileSystem.Making

/-!
One renewal of a copy. Nothing moves an archive, and the directory of the copy is always made anew
at the same location, empty; so what is unpacked there in the end is what the archives hold then.
-/

namespace Launchpad

open Results

namespace Artifact

variable {c : Config} {base fs gs : FileSystem} {name : String} {path : Path} {l : Location}

/-- An archive that is there stays at its place in every larger file system. -/
structure LiesAt (c : Config) (base : FileSystem) (name : String) (path : Path) (l : Location) :
    Prop where
  isThere : base.entry? l ≠ none
  found : ∀ {fs}, base.Within fs →
    locate c fs name = .ok path ∧ ∃ e, fs.status path = .ok (l, e) ∧ fs.entry? l = some e

theorem exists_liesAt (h : locate c base name = .ok path) : ∃ l, LiesAt c base name path l := by
  obtain ⟨relative, hlookup, rfl, hthere⟩ := locate_eq_ok.mp h
  obtain ⟨l, e, hstatus⟩ := FileSystem.pathExists_eq_true_iff.mp hthere
  refine ⟨l, ?_, fun {fs} hwithin => ?_⟩
  · rw [FileSystem.entry?_of_find hstatus]
    exact Option.some_ne_none e
  · obtain ⟨e', hstatus', -⟩ := hwithin.find hstatus
    have hthere' := FileSystem.pathExists_eq_true_iff.mpr ⟨l, e', hstatus'⟩
    exact ⟨locate_eq_ok.mpr ⟨relative, hlookup, rfl, hthere'⟩, e', hstatus',
      FileSystem.entry?_of_find hstatus'⟩

theorem LiesAt.status_eq (h : LiesAt c base name path l) (hfs : base.Within fs)
    (hgs : base.Within gs) (hentry : gs.entry? l = fs.entry? l) :
    gs.status path = fs.status path := by
  obtain ⟨-, e, hstatus, he⟩ := h.found hfs
  obtain ⟨-, e', hstatus', he'⟩ := h.found hgs
  rw [he, he'] at hentry
  cases hentry
  rw [hstatus, hstatus']

/-- An archive whose entry stays as it is keeps its content. -/
theorem LiesAt.holds (h : LiesAt c base name path l) (hfs : base.Within fs)
    (hgs : base.Within gs) (hentry : gs.entry? l = fs.entry? l) {content : ByteArray}
    (hholds : Holds c fs name content) : Holds c gs name content := by
  obtain ⟨path', hpath', hread⟩ := hholds
  have hsame := (h.found hfs).1.symm.trans hpath'
  cases hsame
  refine ⟨path, (h.found hgs).1, ?_⟩
  rw [← hread, FileSystem.readFile, FileSystem.readFile, h.status_eq hfs hgs hentry]

/-- The date of an archive is the stamp of its entry. -/
theorem LiesAt.modified_eq_ok (h : LiesAt c base name path l) (hfs : base.Within fs)
    {date : Timestamp} :
    modified c fs name = .ok date ↔ ∃ e, fs.entry? l = some e ∧ e.modified = date := by
  obtain ⟨hpath, e, hstatus, he⟩ := h.found hfs
  rw [Artifact.modified_eq_ok]
  constructor
  · rintro ⟨path', l', e', hpath', hstatus', hdate⟩
    rw [hpath] at hpath'
    cases hpath'
    rw [hstatus] at hstatus'
    cases hstatus'
    exact ⟨e, he, hdate⟩
  · rintro ⟨e', he', hdate⟩
    rw [he] at he'
    cases he'
    exact ⟨path, l, e, hpath, hstatus, hdate⟩

/-- What an artifact holds is not a directory. -/
theorem Holds.exists_status {content : ByteArray} (h : Holds c fs name content) :
    ∃ relative l e, c.artifacts.lookup name = some relative ∧
      fs.status (c.suitePath relative) = .ok (l, e) ∧ e.isDirectory = false := by
  obtain ⟨path, hlocate, hread⟩ := h
  obtain ⟨relative, hlookup, rfl, -⟩ := locate_eq_ok.mp hlocate
  obtain ⟨⟨l, e⟩, hstatus, hcontent⟩ := bind_eq_ok.mp hread
  refine ⟨relative, l, e, hlookup, hstatus, ?_⟩
  cases hdir : e.isDirectory with
  | false => rfl
  | true =>
    have hnode : e.node = .directory := of_decide_eq_true hdir
    simp only [hnode] at hcontent
    split at hcontent <;> cases hcontent

/-- An artifact holds one content. -/
theorem Holds.unique {content content' : ByteArray} (h : Holds c fs name content)
    (h' : Holds c fs name content') : content = content' := by
  obtain ⟨path, hpath, hread⟩ := h
  obtain ⟨path', hpath', hread'⟩ := h'
  cases hpath.symm.trans hpath'
  cases hread.symm.trans hread'
  rfl

end Artifact

namespace Copy

variable {copy : Copy} {host : Host} {top : Location} {admitted : ByteArray → Prop}
  {effect : ByteArray → Tree → Tree} {origin fs gs before after : FileSystem} {p : Path}
  {names : List String} {contents : List ByteArray}

/-! ### One renewal -/

theorem Adds.changesInside (hbelow : host.unpacker.StaysBelow p) (hwell : before.WellFormed)
    (hstraight : before.LeadsStraight p top) (hadds : Adds host p names contents before after) :
    after.WellFormed ∧ FileSystem.ChangesInside top before after := by
  induction hadds with
  | nil fs => exact ⟨hwell, .refl top fs⟩
  | cons _ hunpack _ ih =>
    obtain ⟨hwell', hfirst⟩ := hbelow hwell hstraight hunpack
    obtain ⟨hwell'', hrest⟩ := ih hwell' (hfirst.leadsStraight hstraight)
    exact ⟨hwell'', hfirst.trans hrest⟩

/-- Unpacking archives one after the other leaves what is outside alone, so each archive still holds
in the end what was read from it. -/
theorem Adds.holds (hbelow : host.unpacker.StaysBelow p)
    (hfree : ∀ {l}, top <+: l → origin.entry? l = none)
    (harchives : ∀ name ∈ names, ∃ path, Artifact.locate host.config origin name = .ok path)
    (hbase : origin.Within before) (hwell : before.WellFormed)
    (hstraight : before.LeadsStraight p top) (hadds : Adds host p names contents before after) :
    List.Forall₂ (Artifact.Holds host.config after) names contents := by
  induction hadds with
  | nil => exact .nil
  | @cons name names content contents before between after hcontent hunpack hrest ih =>
    obtain ⟨⟨path, hpath⟩, hothers⟩ := List.forall_mem_cons.mp harchives
    obtain ⟨hwell', hfirst⟩ := hbelow hwell hstraight hunpack
    have hstraight' := hfirst.leadsStraight hstraight
    have hbetween := hbase.of_sameOutside hfree hfirst.toSameOutside
    have hthrough := hfirst.trans (hrest.changesInside hbelow hwell' hstraight').2
    refine .cons ?_ (ih hothers hbetween hwell' hstraight')
    obtain ⟨l, hlies⟩ := Artifact.exists_liesAt hpath
    have houtside : ¬top <+: l := fun hin => hlies.isThere (hfree hin)
    exact hlies.holds hbase (hbase.of_sameOutside hfree hthrough.toSameOutside)
      (hthrough.entry?_eq houtside) hcontent

/-- What contents are unpacked to comes on top of what was unpacked before. -/
theorem Adds.treeAt_eq_unpacked (read : List ByteArray)
    (hlawful : host.unpacker.Lawful p admitted effect) (hwell : before.WellFormed)
    (hstraight : before.LeadsStraight p top) (hdated : before.IsDated top)
    (hread : ∀ content ∈ read, admitted content)
    (htree : before.treeAt top = Tree.unpacked effect read)
    (hkind : ∀ content ∈ contents, admitted content)
    (hadds : Adds host p names contents before after) :
    after.IsDated top ∧ after.treeAt top = Tree.unpacked effect (read ++ contents) := by
  induction hadds generalizing read with
  | nil fs => exact ⟨hdated, by rw [List.append_nil, htree]⟩
  | @cons name names content contents before between after _ hunpack _ ih =>
    obtain ⟨hfirst, hothers⟩ := List.forall_mem_cons.mp hkind
    obtain ⟨hwell', hinside⟩ := hlawful.below hwell hstraight hunpack
    obtain ⟨-, -, hnext⟩ := hlawful.turns hread hfirst hwell.toSound hstraight htree hunpack
    have hread' : ∀ content' ∈ read ++ [content], admitted content' :=
      List.forall_mem_append.mpr ⟨hread, List.forall_mem_singleton.mpr hfirst⟩
    have htree' : between.treeAt top = Tree.unpacked effect (read ++ [content]) := by
      rw [hnext, Tree.unpacked, Tree.unpacked, List.foldl_append]
      rfl
    have hlater := ih (read ++ [content]) hwell' (hinside.leadsStraight hstraight)
      (hlawful.dated hwell hstraight hunpack hdated) hread' htree' hothers
    rwa [List.append_assoc, List.singleton_append] at hlater

/-- There is no copy. What stands beyond the start of the run is what making the directory of the
copy made, if it ever was made. -/
structure Vacant (copy : Copy) (top : Location) (origin fs : FileSystem) : Prop where
  wellFormed : fs.WellFormed
  kept : origin.Within fs
  free : ∀ {full l}, origin.makeDirectories copy.directory = (.ok (), full) → top <+: l →
    fs.entry? l = none
  within : fs.Within origin ∨
    ∃ full, origin.makeDirectories copy.directory = (.ok (), full) ∧ fs.Within full

/-- The directory `e` of a copy as it was just made, in a state no larger than the one in which the
run's first making of it ends. -/
structure Opened (copy : Copy) (top : Location) (origin full made : FileSystem) (e : Entry) :
    Prop where
  makes : origin.makeDirectories copy.directory = (.ok (), full)
  within : made.Within full
  kept : origin.Within made
  wellFormed : made.WellFormed
  found : made.find copy.directory false = .ok (top, e)
  isDirectory : e.isDirectory = true
  dated : e.modified ≤ made.now
  treeAt_eq : made.treeAt top = Tree.empty

theorem Opened.leadsStraight {full made : FileSystem} {e : Entry}
    (h : Opened copy top origin full made e) : made.LeadsStraight copy.directory top :=
  FileSystem.IsDirectoryAt.leadsStraight
    ⟨e, FileSystem.status_of_find h.isDirectory h.found, h.isDirectory⟩ h.treeAt_eq

theorem Opened.isDated {full made : FileSystem} {e : Entry}
    (h : Opened copy top origin full made e) : made.IsDated top := by
  intro own hown
  cases (FileSystem.entry?_of_find h.found).symm.trans hown
  exact h.dated

section Vacant

/-- Where its directory can be made, a vacant state holds no more than the first making left. -/
theorem Vacant.exists_full (h : Vacant copy top origin fs) {made : FileSystem}
    (hmade : fs.makeDirectories copy.directory = (.ok (), made)) :
    ∃ full, origin.makeDirectories copy.directory = (.ok (), full) ∧ fs.Within full := by
  rcases h.within with hwithin | hfull
  · obtain ⟨full, hfull, -⟩ := FileSystem.makeDirectoriesFuel_of_within hwithin h.kept hmade
    have hgrown := FileSystem.addsDirectories_of_makeDirectoriesFuel hfull
    exact ⟨full, hfull, hwithin.trans hgrown.within⟩
  · exact hfull

variable (hstarts : copy.Starts host.config top origin)
include hstarts

/-- A path that does not climb leads to a new directory, and to an empty one. -/
theorem Starts.opensEmpty (hdescends : copy.directory.climbs = false) :
    copy.OpensEmpty top origin := by
  intro made l hmade hbelow
  obtain ⟨e, hfound⟩ := hstarts.leads hmade
  have hsought := (FileSystem.locate_eq_ok.mp (FileSystem.find_eq_ok.mp hfound)).1
  have htree := hstarts.wellFormed.isTree
  rcases FileSystem.eq_or_isNewAt_of_makeDirectoriesFuel htree hdescends hmade with
    rfl | ⟨top', hnew⟩
  · exact absurd hfound hstarts.absent
  · obtain ⟨e', hlocate, hdir⟩ := hnew.leads
    have hfound' := FileSystem.find_of_locate_withoutSlash hsought hdir hlocate false
    cases hfound.symm.trans hfound'
    exact ⟨htree.entry?_eq_none hnew.free hbelow, hnew.holdsNothing hbelow⟩

/-- Wherever the path leads when it is made again, it led there when it was made at first. -/
theorem Starts.exists_find_of_within {full made : FileSystem}
    (hfull : origin.makeDirectories copy.directory = (.ok (), full)) (hwithin : made.Within full)
    (hmade : fs.makeDirectories copy.directory = (.ok (), made)) :
    ∃ e, made.find copy.directory false = .ok (top, e) := by
  obtain ⟨_, hopened⟩ := hstarts.leads hfull
  have hsought := (FileSystem.locate_eq_ok.mp (FileSystem.find_eq_ok.mp hopened)).1
  have hname : copy.directory.isEmpty = false := Bool.eq_false_iff.mpr hsought.2.1
  obtain ⟨l, e, hlocated, hdir⟩ := FileSystem.exists_of_makeDirectoriesFuel hmade hname
  have hled : ∃ l e, made.find copy.directory false = .ok (l, e) := by
    rcases hdir with hdir | hdir
    · exact ⟨l, e, FileSystem.find_of_locate_withoutSlash hsought hdir hlocated false⟩
    · obtain ⟨l', e', hstatus, -⟩ := FileSystem.exists_status_of_isDirectory hdir
      exact (FileSystem.locate_unfollowed hstatus).1
  obtain ⟨l', e', hled⟩ := hled
  obtain ⟨e'', hled', -⟩ := hwithin.find hled
  rw [hopened] at hled'
  cases hled'
  exact ⟨e', hled⟩

variable (hopens : copy.OpensEmpty top origin)
include hopens

/-- The directory of a copy is made anew where it always was, and empty. -/
theorem Vacant.exists_opened (h : Vacant copy top origin fs) {made : FileSystem}
    (hmade : fs.makeDirectories copy.directory = (.ok (), made)) :
    ∃ full e, Opened copy top origin full made e := by
  have hadds := FileSystem.addsDirectories_of_makeDirectoriesFuel hmade
  obtain ⟨full, hfull, hwithin⟩ := h.exists_full hmade
  have haddsFull := FileSystem.addsDirectories_of_makeDirectoriesFuel hfull
  have hmadeFull : made.Within full :=
    FileSystem.Within.of_makeDirectoriesFuel haddsFull h.kept hwithin hfull (.refl full) hmade
  obtain ⟨e, hfound⟩ := hstarts.exists_find_of_within hfull hmadeFull hmade
  have hentry := FileSystem.entry?_of_find hfound
  obtain ⟨hnode, -, hmodified⟩ := hadds.isPlain hentry (h.free hfull (List.prefix_refl top))
  refine ⟨full, e, {
    makes := hfull
    within := hmadeFull
    kept := h.kept.trans hadds.within
    wellFormed := h.wellFormed.makeDirectories hmade
    found := hfound
    isDirectory := by simp [Entry.isDirectory, hnode]
    dated := hmodified
    treeAt_eq := ?_ }⟩
  funext below
  by_cases hbelow : below = []
  · simp [FileSystem.treeAt, Tree.empty, hbelow, hentry, hnode]
  · have hne : top ++ below ≠ top := by simpa using hbelow
    have hnone := hmadeFull.entry?_eq_none ((hopens hfull (List.prefix_append top below)).2 hne)
    simp [FileSystem.treeAt, Tree.empty, hbelow, hnone]

omit hopens

theorem Vacant.not_find (h : Vacant copy top origin fs) {l : Location} {e : Entry} :
    fs.find copy.directory false ≠ .ok (l, e) := by
  intro hfound
  rcases h.within with hwithin | ⟨full, hfull, hwithin⟩
  · obtain ⟨e', hfound', -⟩ := hwithin.find hfound
    exact hstarts.absent hfound'
  · obtain ⟨e', hopened⟩ := hstarts.leads hfull
    obtain ⟨e'', hfound', -⟩ := hwithin.find hfound
    rw [hopened] at hfound'
    cases hfound'
    have hentry := FileSystem.entry?_of_find hfound
    rw [h.free hfull (List.prefix_refl top)] at hentry
    cases hentry

theorem Vacant.pathExists_eq_false (h : Vacant copy top origin fs) :
    fs.pathExists copy.directory = false := by
  cases hthere : fs.pathExists copy.directory with
  | false => rfl
  | true =>
    obtain ⟨l, e, hstatus⟩ := FileSystem.pathExists_eq_true_iff.mp hthere
    obtain ⟨⟨l', e', hfound⟩, -⟩ := FileSystem.locate_unfollowed hstatus
    exact absurd hfound (h.not_find hstarts)

end Vacant

end Copy

end Launchpad
