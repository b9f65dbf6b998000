import Launchpad.Proofs.Copy.Renewal
import Launchpad.Proofs.Suite.Orderly

/-!
Renewing the copy of a suite. A renewal that succeeds makes a directory on the shelf where nothing
is, and unpacks into it; if there was no shelf, it makes one first, and that holds nothing. Either
way the order is kept, the copy is fresh afterwards, and the fresh copies of the other suites are
not touched.
-/

namespace Launchpad

open FileSystem Results

variable {c : Config} {host : Host} {start : Timestamp} {suite other : TestSuite}
  {fs base after : FileSystem} {shelf : Location}

/-! ### Unpacking -/

namespace Copy.Adds

variable {destination : Path} {names : List String} {contents : List ByteArray} {top : Location}
  {before : FileSystem}

/-- Each archive is read from files that are like those before and those in the end. -/
theorem exists_holds (hbelow : host.unpacker.StaysBelow destination) (hwell : before.WellFormed)
    (hstraight : before.LeadsStraight destination top)
    (h : Adds host destination names contents before after) :
    ∀ name ∈ names, ∃ between content, SameOutside top before between ∧
      SameOutside top between after ∧ Artifact.Holds host.config between name content := by
  induction h with
  | nil fs => simp
  | @cons name names content contents before between after hcontent hunpack hrest ih =>
    obtain ⟨hwell', hfirst⟩ := hbelow hwell hstraight hunpack
    have hstraight' := hfirst.leadsStraight hstraight
    have hlater := (hrest.changesInside hbelow hwell' hstraight').2.toSameOutside
    refine List.forall_mem_cons.mpr ⟨?_, fun name hname => ?_⟩
    · exact ⟨before, content, .refl top before, hfirst.toSameOutside.trans hlater, hcontent⟩
    · obtain ⟨middle, content', hfront, hback, hholds⟩ := ih hwell' hstraight' name hname
      exact ⟨middle, content', hfirst.toSameOutside.trans hfront, hback, hholds⟩

theorem inTime (hunpacks : host.unpacker.InTime destination) (hwell : before.WellFormed)
    (hstraight : before.LeadsStraight destination top)
    (h : Adds host destination names contents before after) :
    before.now ≤ after.now ∧ ∀ {moment : Timestamp}, moment ≤ before.now →
      (∀ {e}, before.entry? top = some e → moment ≤ e.modified) →
        ∀ {e}, after.entry? top = some e → moment ≤ e.modified := by
  induction h with
  | nil fs => exact ⟨Timestamp.le_refl fs.now, fun _ hdated => hdated⟩
  | cons _ hunpack _ ih =>
    obtain ⟨hwell', hinside⟩ := hunpacks.below hwell hstraight hunpack
    have hclock := hunpacks.clock hwell hstraight hunpack
    obtain ⟨hlater, hdated⟩ := ih hwell' (hinside.leadsStraight hstraight)
    exact ⟨Timestamp.le_trans hclock hlater, fun hmoment hbefore =>
      hdated (Timestamp.le_trans hmoment hclock)
        (hunpacks.dated hwell hstraight hunpack hmoment hbefore)⟩

end Copy.Adds

/-! ### A copy on the shelf -/

/-- The copy of a suite is made on a shelf: first its directory, then what it holds. -/
structure MakesCopy (host : Host) (suite : TestSuite) (shelf : Location)
    (base after : FileSystem) : Prop where
  wellFormed : base.WellFormed
  shelved : IsShelvedAt host.config base shelf
  makes : ∃ made contents,
    base.makeDirectory (suite.copy host.config).directory = .ok made ∧
      Copy.Adds host (suite.copy host.config).directory (suite.copy host.config).artifacts contents
        made after

/-- Copies of two suites do not stand one below the other. -/
theorem not_prefix_place (hother : other ≠ suite) :
    ¬shelf ++ [suite.place] <+: shelf ++ [other.place] := by
  intro hbelow
  have hsame := hbelow.eq_of_length (by simp)
  exact hother (TestSuite.place_injective (by simpa using hsame.symm))

namespace MakesCopy

/-- The directory is made where nothing was, and the archives are unpacked into it. -/
theorem exists_adds (h : MakesCopy host suite shelf base after) :
    ∃ made contents, base.searchable shelf = .ok () ∧
      base.entry? (shelf ++ [suite.place]) = none ∧
      made = base.add (shelf ++ [suite.place]) .directory directoryMode ∧ made.WellFormed ∧
      made.LeadsStraight (suite.copy host.config).directory (shelf ++ [suite.place]) ∧
      Copy.Adds host (suite.copy host.config).directory (suite.copy host.config).artifacts contents
        made after := by
  obtain ⟨made, contents, hmade, hadds⟩ := h.makes
  obtain ⟨d, hstatus⟩ := h.shelved.leads.status
  have hsought : isSought (suite.copy host.config).directory := by
    obtain ⟨l, -, hlocate, -, -⟩ := makeDirectory_eq_ok.mp hmade
    rw [suite.directory_copy, Path.withoutSlash_below _ suite.isSingle_place] at hlocate
    rw [suite.directory_copy]
    exact (locate_eq_ok.mp hlocate).1
  have hcase := hmade
  rw [suite.directory_copy] at hcase
  obtain ⟨hfree, hsearch, rfl⟩ := makeDirectory_below host.config.endsInName_shelf
    suite.isSingle_place suite.descends_place hstatus hcase
  have hkeeps := keepsBeside_add suite .directory directoryMode
    (exists_directory_of_searchable hsearch)
  have hsearch' := (within_add hfree directoryMode .directory).searchable_ok hsearch
  have hfound := (h.shelved.of_keepsBeside hkeeps).find_eq_ok hsearch' hsought
    (entry?_add_self base _ _ _)
  have hleads : IsDirectoryAt (base.add (shelf ++ [suite.place]) .directory directoryMode)
      (suite.copy host.config).directory (shelf ++ [suite.place]) :=
    ⟨_, status_of_find rfl hfound, rfl⟩
  exact ⟨_, contents, hsearch, hfree, rfl, h.wellFormed.makeDirectory hmade,
    hleads.leadsStraight (treeAt_add_directory h.wellFormed.isTree hfree _), hadds⟩

variable (h : MakesCopy host suite shelf base after)
  (hunpacks : host.unpacker.InTime (suite.copy host.config).directory)
include h hunpacks

theorem wellFormed_after : after.WellFormed := by
  obtain ⟨made, contents, -, -, -, hwell, hstraight, hadds⟩ := h.exists_adds
  exact (hadds.changesInside hunpacks.below hwell hstraight).1

theorem keepsBeside : KeepsBeside shelf base after := by
  obtain ⟨made, contents, hsearch, -, rfl, hwell, hstraight, hadds⟩ := h.exists_adds
  have hmade := keepsBeside_add suite .directory directoryMode
    (exists_directory_of_searchable hsearch)
  have hinside := (hadds.changesInside hunpacks.below hwell hstraight).2
  exact hmade.trans hinside.toSameOutside.keepsBeside

theorem clock : base.now ≤ after.now := by
  obtain ⟨made, contents, -, -, rfl, hwell, hstraight, hadds⟩ := h.exists_adds
  have hmade := base.now_le_add (shelf ++ [suite.place]) .directory directoryMode
  exact Timestamp.le_trans hmade (hadds.inTime hunpacks hwell hstraight).1

theorem entry?_eq (hother : other ≠ suite) :
    after.entry? (shelf ++ [other.place]) = base.entry? (shelf ++ [other.place]) := by
  obtain ⟨made, contents, -, -, rfl, hwell, hstraight, hadds⟩ := h.exists_adds
  have hoff : ¬shelf ++ [suite.place] <+: shelf ++ [other.place] := not_prefix_place hother
  have hne : shelf ++ [other.place] ≠ shelf ++ [suite.place] := fun heq =>
    hoff (heq ▸ List.prefix_refl _)
  have hshelf : shelf ++ [other.place] ≠ shelf := by simp
  have hsame := (hadds.changesInside hunpacks.below hwell hstraight).2.toSameOutside
  rw [hsame.entry?_eq hoff, entry?_add_of_ne _ _ _ hne, entry?_stamp, List.dropLast_concat]
  simp [hshelf]

/-- The copy is fresh: its directory was made during the run, and its archives were read. -/
theorem isFresh (hstart : start ≤ base.now) : IsFresh host.config start suite after := by
  obtain ⟨made, contents, hsearch, -, hadded, hwell, hstraight, hadds⟩ := h.exists_adds
  have hinside := (hadds.changesInside hunpacks.below hwell hstraight).2
  have hshelved := h.shelved.of_keepsBeside (h.keepsBeside hunpacks)
  obtain ⟨d, hshelf⟩ := hshelved.leads.status
  obtain ⟨e, hstatus, hdir⟩ := (hinside.leadsStraight hstraight).isDirectoryAt
  have hentry := entry?_of_find hstatus
  have hlocate := find_eq_ok.mp hstatus
  have hsearch' : after.searchable shelf = .ok () := by
    have hbelow := hlocate
    rw [suite.directory_copy] at hbelow
    obtain ⟨holder, d', hshelf', hsearch'⟩ := exists_status_of_locate_below
      host.config.endsInName_shelf suite.isSingle_place hbelow
    cases hshelf.symm.trans hshelf'
    exact hsearch'
  have hclock : base.now ≤ made.now := hadded ▸ base.now_le_add _ .directory directoryMode
  have hdated : base.now ≤ e.modified := by
    refine (hadds.inTime hunpacks hwell hstraight).2 hclock (fun {own} hown => ?_) hentry
    rw [hadded, entry?_add_self] at hown
    cases hown
    exact Timestamp.le_refl base.now
  refine ⟨⟨_, e, hshelved.find_eq_ok hsearch' (locate_eq_ok.mp hlocate).1 hentry, hdir, ?_⟩, ?_⟩
  · exact Timestamp.le_trans hstart hdated
  · intro name hname
    obtain ⟨between, content, hfront, hback, hholds⟩ :=
      hadds.exists_holds hunpacks.below hwell hstraight name hname
    obtain ⟨relative, l, own, hlookup, hown, hfile⟩ := hholds.exists_status
    have hmade := keepsBeside_add suite .directory directoryMode
      (exists_directory_of_searchable hsearch)
    rw [hadded] at hfront
    have hbetween := h.shelved.of_keepsBeside (hmade.trans hfront.keepsBeside)
    obtain ⟨place, hleads⟩ := hbetween.archives (HasFiles.hasArchive hname hlookup)
    obtain ⟨own', hown', -, hsame⟩ := hleads.status_of_keepsBeside hback.keepsBeside hown
    rw [hsame hfile] at hown'
    exact ⟨relative, l, own, hlookup, hown', hfile⟩

end MakesCopy

/-! ### A renewal -/

/-- On a shelf that is there, the old copy is taken away and a new one is made. -/
theorem IsShelvedAt.exists_makesCopy (h : IsShelvedAt host.config fs shelf)
    (hwell : fs.WellFormed)
    (hrenews : (suite.copy host.config).Renews host fs after) :
    ∃ base, MakesCopy host suite shelf base after ∧ KeepsBeside shelf fs base ∧
      fs.now ≤ base.now ∧ ∀ {other}, other ≠ suite →
        base.entry? (shelf ++ [other.place]) = fs.entry? (shelf ++ [other.place]) := by
  obtain ⟨cleared, made, contents, hclears, hmade, hadds⟩ := hrenews
  have hkept : KeepsBeside shelf fs cleared ∧ fs.now ≤ cleared.now ∧ ∀ {other}, other ≠ suite →
      cleared.entry? (shelf ++ [other.place]) = fs.entry? (shelf ++ [other.place]) := by
    cases hclears with
    | missing => exact ⟨.refl shelf fs, Timestamp.le_refl fs.now, fun _ => rfl⟩
    | removed _ hremoved =>
      obtain ⟨l, e, hfound, rfl⟩ := removeTree_ok hremoved
      obtain ⟨rfl, hsearch⟩ := h.eq_of_find hfound
      refine ⟨keepsBeside_remove suite (exists_directory_of_searchable hsearch),
        fs.now_le_remove _, fun {other} hother => ?_⟩
      have hshelf : shelf ++ [other.place] ≠ shelf := by simp
      rw [entry?_remove, if_neg (not_prefix_place hother), List.dropLast_concat]
      simp [hshelf]
  obtain ⟨hkeeps, hclock, hothers⟩ := hkept
  have hshelved := h.of_keepsBeside hkeeps
  obtain ⟨d, hstatus⟩ := hshelved.leads.status
  have hgone := hclears.pathExists_eq_false
  refine ⟨cleared, ⟨hclears.wellFormed hwell, hshelved, made, contents, ?_, hadds⟩, hkeeps, hclock,
    hothers⟩
  rw [suite.directory_copy] at hgone hmade ⊢
  exact makeDirectories_below host.config.endsInName_shelf suite.isSingle_place
    suite.descends_place hstatus hgone hmade

/-- Without a shelf there is no copy yet. -/
theorem IsBare.find_ne_ok {c : Config} {l : Location} {e : Entry} (h : IsBare c fs) :
    fs.find (suite.copy c).directory false ≠ .ok (l, e) := by
  intro hfound
  rw [suite.directory_copy] at hfound
  obtain ⟨holder, d, hstatus, -⟩ := exists_status_of_locate_below c.endsInName_shelf
    suite.isSingle_place (find_eq_ok.mp hfound)
  have hthere := h.missing
  rw [pathExists_eq_true_iff.mpr ⟨holder, d, hstatus⟩] at hthere
  cases hthere

/-- Where there is no shelf one is made first, which keeps the order. -/
theorem IsBare.exists_makesCopy (h : IsBare host.config fs)
    (horderly : IsOrderly host.config start fs)
    (hrenews : (suite.copy host.config).Renews host fs after) :
    ∃ shelf base, MakesCopy host suite shelf base after ∧ IsOrderly host.config start base ∧
      fs.now ≤ base.now := by
  obtain ⟨cleared, made, contents, hclears, hmade, hadds⟩ := hrenews
  have hsame : cleared = fs := by
    cases hclears with
    | missing => rfl
    | removed _ hremoved =>
      obtain ⟨l, e, hfound, -⟩ := removeTree_ok hremoved
      exact absurd hfound h.find_ne_ok
  rw [hsame, suite.directory_copy] at hmade
  obtain ⟨n, between, shelf, d, hbetween, hnew, hstatus, hlast⟩ :=
    makeDirectories_below_missing host.config.endsInName_shelf suite.isSingle_place
      suite.descends_place horderly.wellFormed.isTree h.descends h.missing hmade
  have hwithin := (addsDirectories_of_makeDirectoriesFuel hbetween).within
  have habove := makesAbove_of_makeDirectoriesFuel hbetween
  have hfree : ∀ {l}, OnShelf shelf l → between.entry? l = none := by
    rintro l ⟨own, hbelow⟩
    refine hnew.holdsNothing ((List.prefix_append shelf _).trans hbelow) ?_
    rintro rfl
    exact not_onShelf_shelf l ⟨own, hbelow⟩
  have hshelved : IsShelvedAt host.config between shelf := by
    refine ⟨.of_within (.refl between) hfree hstatus, fun harchive => ?_⟩
    obtain ⟨l, e, harchive, -⟩ := horderly.dated harchive
    obtain ⟨e', harchive', -⟩ := hwithin.find harchive
    exact ⟨l, .of_within (.refl between) hfree harchive'⟩
  have hclock : fs.now ≤ between.now :=
    makeDirectoriesFuel_induction (motive := fun gs => fs.now ≤ gs.now)
      (fun {gs l} hgs _ => Timestamp.le_trans hgs (gs.now_le_add l .directory directoryMode)) n
      (Timestamp.le_refl fs.now) hbetween
  have hwell : between.WellFormed :=
    makeDirectoriesFuel_preserves (fun _ hgs hone => hgs.makeDirectory hone) horderly.wellFormed
      hbetween
  refine ⟨shelf, between, ⟨hwell, hshelved, made, contents, ?_, hadds⟩, ⟨hwell, fun harchive => ?_,
    .inl ⟨shelf, hshelved⟩⟩, hclock⟩
  · rw [suite.directory_copy]
    exact hlast
  · obtain ⟨l, e, hold, hdated⟩ := horderly.dated harchive
    obtain ⟨e', hstatus', halike⟩ := hwithin.find hold
    refine ⟨l, e', hstatus', ?_⟩
    cases hdir : e.isDirectory with
    | true => exact .inl (halike.isDirectory_eq ▸ hdir)
    | false =>
      rcases habove.kept (entry?_of_find hold) with hkept | ⟨hdir', -⟩
      · cases (entry?_of_find hstatus').symm.trans hkept
        exact hdated
      · rw [hdir] at hdir'
        cases hdir'

/-- Renewing the copy of a suite keeps the order and makes this copy fresh; fresh copies of other
suites stay fresh. -/
theorem IsOrderly.renewed (h : IsOrderly host.config start fs) (hstart : start ≤ fs.now)
    (hunpacks : host.unpacker.InTime (suite.copy host.config).directory)
    (hrenews : (suite.copy host.config).Renews host fs after) :
    IsOrderly host.config start after ∧ start ≤ after.now ∧
      IsFresh host.config start suite after ∧
      ∀ {other}, IsFresh host.config start other fs → IsFresh host.config start other after := by
  rcases h.placed with ⟨shelf, hshelved⟩ | hbare
  · obtain ⟨base, hmakes, hkeeps, hclock, hothers⟩ :=
      hshelved.exists_makesCopy h.wellFormed hrenews
    have hbase := Timestamp.le_trans hstart hclock
    have hlater := hkeeps.trans (hmakes.keepsBeside hunpacks)
    have hfresh := hmakes.isFresh hunpacks hbase
    refine ⟨h.of_keepsBeside hshelved hlater (hmakes.wellFormed_after hunpacks),
      Timestamp.le_trans hbase (hmakes.clock hunpacks), hfresh, fun {other} hother => ?_⟩
    by_cases hsame : other = suite
    · exact hsame ▸ hfresh
    · obtain ⟨top, e, hfound, hdir, hlate⟩ := hother.stands
      obtain ⟨rfl, hsearch⟩ := hshelved.eq_of_find hfound
      have hentry := entry?_of_find hfound
      rw [← hothers hsame, ← hmakes.entry?_eq hunpacks hsame] at hentry
      obtain ⟨_, _, hown, -⟩ := hfresh.stands
      have hafter := hshelved.of_keepsBeside hlater
      have hsought := (locate_eq_ok.mp (find_eq_ok.mp hfound)).1
      exact ⟨⟨_, e, hafter.find_eq_ok (hafter.eq_of_find hown).2 hsought hentry, hdir, hlate⟩,
        hother.archives.of_keepsBeside hshelved hlater⟩
  · obtain ⟨shelf, base, hmakes, horderly, hclock⟩ := hbare.exists_makesCopy h hrenews
    have hbase := Timestamp.le_trans hstart hclock
    refine ⟨horderly.of_keepsBeside hmakes.shelved (hmakes.keepsBeside hunpacks)
        (hmakes.wellFormed_after hunpacks),
      Timestamp.le_trans hbase (hmakes.clock hunpacks), hmakes.isFresh hunpacks hbase,
      fun {other} hother => ?_⟩
    obtain ⟨top, e, hfound, -⟩ := hother.stands
    exact absurd hfound hbare.find_ne_ok

end Launchpad
