import Launchpad.Proofs.Copy.Failures
import Launchpad.Proofs.Suite.Shelf

/-!
What a renewed copy of a suite is worth to the fetches behind it. The archives are not newer than
the start of the run, and a renewed copy is not older. Renewing the copy of another suite changes
neither, and so every later fetch finds the copy current.
-/

namespace Launchpad

open FileSystem Results

/-! ### Archives and copies -/

def Config.HasArchive (c : Config) (suite : TestSuite) (archive : Path) : Prop :=
  ∃ name ∈ (suite.copy c).artifacts, ∃ relative, c.artifacts.lookup name = some relative ∧
    archive = c.suitePath relative

/-- The shelf stands at a location. Neither the path to it nor those to the archives lead through
the copies on it. -/
structure IsShelvedAt (c : Config) (fs : FileSystem) (shelf : Location) : Prop where
  leads : fs.LeadsBeside shelf c.shelf shelf
  archives : ∀ {suite archive}, c.HasArchive suite archive →
    ∃ l, fs.LeadsBeside shelf archive l

/-- There is no shelf, and its path does not climb. -/
structure IsBare (c : Config) (fs : FileSystem) : Prop where
  missing : fs.pathExists c.shelf = false
  descends : c.shelf.climbs = false

/-- Archives that the table names are there, not changed after a moment, and the copies of suites
stand apart from them, or can be made so. -/
structure IsOrderly (c : Config) (start : Timestamp) (fs : FileSystem) : Prop where
  wellFormed : fs.WellFormed
  dated : ∀ {suite archive}, c.HasArchive suite archive →
    ∃ l e, fs.status archive = .ok (l, e) ∧ (e.isDirectory = true ∨ e.modified ≤ start)
  placed : (∃ shelf, IsShelvedAt c fs shelf) ∨ IsBare c fs

/-- All archives of a suite are there, as something that can be unpacked. -/
def HasFiles (c : Config) (suite : TestSuite) (fs : FileSystem) : Prop :=
  ∀ name ∈ (suite.copy c).artifacts, ∃ relative l e, c.artifacts.lookup name = some relative ∧
    fs.status (c.suitePath relative) = .ok (l, e) ∧ e.isDirectory = false

/-- The copy of a suite is a directory that was last changed after a moment. -/
structure IsFresh (c : Config) (start : Timestamp) (suite : TestSuite) (fs : FileSystem) :
    Prop where
  stands : ∃ top e, fs.find (suite.copy c).directory false = .ok (top, e) ∧
    e.isDirectory = true ∧ start ≤ e.modified
  archives : HasFiles c suite fs

/-- What a child leaves of the copies and the archives: copies that are directories stay where they
are with no earlier time stamp, archives stay as they are, and the order of all of them is kept. -/
structure LeavesSuites (c : Config) (start : Timestamp) (before after : FileSystem) : Prop where
  clock : before.now ≤ after.now
  copies : ∀ {suite : TestSuite} {top e},
    before.find (suite.copy c).directory false = .ok (top, e) → e.isDirectory = true →
    ∃ e', after.find (suite.copy c).directory false = .ok (top, e') ∧ e'.isDirectory = true ∧
      e.modified ≤ e'.modified
  archives : ∀ {suite archive l e}, c.HasArchive suite archive →
    before.status archive = .ok (l, e) → e.isDirectory = false → after.status archive = .ok (l, e)
  orderly : IsOrderly c start after

/-- Whatever is launched leaves the copies and the archives. -/
def Executor.LeavesSuites (executor : Executor) (c : Config) (start : Timestamp) : Prop :=
  ∀ launch w, IsOrderly c start w.files →
    Launchpad.LeavesSuites c start w.files (executor.respond .run launch w).files

variable {c : Config} {host : Host} {start : Timestamp} {suite other : TestSuite}
  {fs gs base after : FileSystem} {shelf : Location}

theorem HasFiles.hasArchive {name : String} (hname : name ∈ (suite.copy c).artifacts)
    {relative : Path} (h : c.artifacts.lookup name = some relative) :
    c.HasArchive suite (c.suitePath relative) :=
  ⟨name, hname, relative, h, rfl⟩

/-- A child that changes nothing leaves everything. -/
theorem LeavesSuites.refl (h : IsOrderly c start fs) : LeavesSuites c start fs fs where
  clock := Timestamp.le_refl _
  copies {_ _ e} hfound hdir := ⟨e, hfound, hdir, Timestamp.le_refl _⟩
  archives _ hstatus _ := hstatus
  orderly := h

/-! ### A fresh copy is kept -/

namespace Copy

open Launchpad.Action

/-- A fetch keeps what looks current, and does nothing. -/
theorem perform_ensureCurrent_of_looksCurrent {copy : Copy} {w : World}
    (h : copy.LooksCurrent host.config w.files) :
    (copy.ensureCurrent host).perform w = (.ok .kept, w) := by
  obtain ⟨l, e, hstatus, hdated⟩ := h
  have hstale : (copy.isStale host.config).perform w = (.ok false, w) := by
    rw [perform_isStale_there hstatus, firstNewer_eq_none.mpr hdated]
  unfold ensureCurrent
  rw [perform_bind, hstale]
  rfl

end Copy

theorem IsFresh.looksCurrent (h : IsFresh c start suite fs) (horderly : IsOrderly c start fs) :
    (suite.copy c).LooksCurrent c fs := by
  obtain ⟨top, e, hfound, hdir, hlate⟩ := h.stands
  refine ⟨top, e, status_of_find hdir hfound, fun name hname => ?_⟩
  obtain ⟨relative, l, own, hlookup, hstatus, hfile⟩ := h.archives name hname
  obtain ⟨l', own', hstatus', hold⟩ := horderly.dated (HasFiles.hasArchive hname hlookup)
  cases hstatus.symm.trans hstatus'
  have hearly : own.modified ≤ start := by
    rcases hold with hdir' | hearly
    · rw [hfile] at hdir'
      cases hdir'
    · exact hearly
  have hthere := pathExists_eq_true_iff.mpr ⟨l, own, hstatus⟩
  refine ⟨own.modified, Artifact.modified_eq_ok.mpr ⟨_, l, own, ?_, hstatus, rfl⟩, ?_⟩
  · exact Artifact.locate_eq_ok.mpr ⟨relative, hlookup, rfl, hthere⟩
  · rw [Timestamp.lt_iff]
    rw [Timestamp.le_iff] at hlate hearly
    omega

/-- A child leaves a fresh copy fresh. -/
theorem IsFresh.of_leavesSuites (h : IsFresh c start suite fs)
    (hleaves : LeavesSuites c start fs gs) : IsFresh c start suite gs := by
  obtain ⟨top, e, hfound, hdir, hlate⟩ := h.stands
  obtain ⟨e', hfound', hdir', hlater⟩ := hleaves.copies hfound hdir
  refine ⟨⟨top, e', hfound', hdir', Timestamp.le_trans hlate hlater⟩, fun name hname => ?_⟩
  obtain ⟨relative, l, own, hlookup, hstatus, hfile⟩ := h.archives name hname
  have hsame := hleaves.archives (HasFiles.hasArchive hname hlookup) hstatus hfile
  exact ⟨relative, l, own, hlookup, hsame, hfile⟩

/-! ### What changes only the copies -/

theorem IsShelvedAt.of_keepsBeside (h : IsShelvedAt c fs shelf) (hkeeps : KeepsBeside shelf fs gs) :
    IsShelvedAt c gs shelf := by
  refine ⟨h.leads.of_alikeBeside hkeeps.alike, fun harchive => ?_⟩
  obtain ⟨l, hleads⟩ := h.archives harchive
  exact ⟨l, hleads.of_alikeBeside hkeeps.alike⟩

/-- What happens on the shelf keeps the order. -/
theorem IsOrderly.of_keepsBeside (h : IsOrderly c start fs) (hshelved : IsShelvedAt c fs shelf)
    (hkeeps : KeepsBeside shelf fs gs) (hwell : gs.WellFormed) : IsOrderly c start gs := by
  refine ⟨hwell, fun harchive => ?_, .inl ⟨shelf, hshelved.of_keepsBeside hkeeps⟩⟩
  obtain ⟨l, e, hstatus, hold⟩ := h.dated harchive
  obtain ⟨own, hleads⟩ := hshelved.archives harchive
  obtain ⟨e', hstatus', halike, hsame⟩ := hleads.status_of_keepsBeside hkeeps hstatus
  refine ⟨l, e', hstatus', ?_⟩
  cases hdir : e.isDirectory with
  | true => exact .inl (halike.isDirectory_eq ▸ hdir)
  | false =>
    rw [hsame hdir]
    exact hold

theorem HasFiles.of_keepsBeside (h : HasFiles c suite fs) (hshelved : IsShelvedAt c fs shelf)
    (hkeeps : KeepsBeside shelf fs gs) : HasFiles c suite gs := by
  intro name hname
  obtain ⟨relative, l, e, hlookup, hstatus, hfile⟩ := h name hname
  obtain ⟨own, hleads⟩ := hshelved.archives (hasArchive hname hlookup)
  obtain ⟨e', hstatus', -, hsame⟩ := hleads.status_of_keepsBeside hkeeps hstatus
  rw [hsame hfile] at hstatus'
  exact ⟨relative, l, e, hlookup, hstatus', hfile⟩

/-- What stands on the shelf under the name of a suite is what the path of its copy leads to. -/
theorem IsShelvedAt.find_eq_ok (h : IsShelvedAt c fs shelf)
    (hsearch : fs.searchable shelf = .ok ()) (hsought : isSought (suite.copy c).directory)
    {e : Entry} (hentry : fs.entry? (shelf ++ [suite.place]) = some e) :
    fs.find (suite.copy c).directory false = .ok (shelf ++ [suite.place], e) := by
  obtain ⟨d, hstatus⟩ := h.leads.status
  rw [suite.directory_copy] at hsought ⊢
  have hlocate := locate_below c.endsInName_shelf suite.isSingle_place suite.descends_place hsought
    hstatus hsearch
  rw [hentry] at hlocate
  exact FileSystem.find_eq_ok.mpr hlocate

theorem IsShelvedAt.eq_of_find (h : IsShelvedAt c fs shelf) {l : Location} {e : Entry}
    (hfound : fs.find (suite.copy c).directory false = .ok (l, e)) :
    l = shelf ++ [suite.place] ∧ fs.searchable shelf = .ok () := by
  obtain ⟨d, hstatus⟩ := h.leads.status
  rw [suite.directory_copy] at hfound
  exact eq_of_find_below c.endsInName_shelf suite.isSingle_place suite.descends_place hstatus hfound

end Launchpad
