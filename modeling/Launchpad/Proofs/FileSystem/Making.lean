import Launchpad.Proofs.FileSystem.Within
import Launchpad.Proofs.Path.Parents

/-!
Making a directory together with its ancestors. Nothing is touched beyond the directories that are
made, and the same path makes the same directories again in every file system between the first and
what it became: none stands in the way, and none is made that was not made then.
-/

namespace Launchpad.FileSystem

variable {fs gs : FileSystem} {p : Path} {l : Location}

/-! ### One directory -/

theorem makeDirectory_eq_ok {made : FileSystem} :
    fs.makeDirectory p = .ok made ↔
      ∃ l, isSought p ∧ fs.locate p.withoutSlash false = .ok ⟨l, none⟩ ∧
        fs.holderWritable l = .ok () ∧ made = fs.add l .directory directoryMode := by
  simp only [← and_assoc (a := isSought p), ← locateBare_eq_ok]
  unfold makeDirectory
  cases hfound : fs.locateBare p with
  | error cause => simp [bind, Except.bind]
  | ok found =>
    obtain ⟨l, e?⟩ := found
    cases e? with
    | some e => simp [bind, Except.bind]
    | none =>
      cases hholder : fs.holderWritable l with
      | error cause => simp [bind, Except.bind, hholder]
      | ok u => simp [bind, Except.bind, hholder, eq_comm]

theorem makeDirectory_eq_noEntry (hp : isSought p) :
    fs.makeDirectory p = .error (.os .noEntry) ↔
      fs.locate p.withoutSlash false = .error (.os .noEntry) ∨
        ∃ l, fs.locate p.withoutSlash false = .ok ⟨l, none⟩ ∧
          fs.holderWritable l = .error (.os .noEntry) := by
  unfold makeDirectory
  rw [locateBare_of_isSought hp]
  cases hfound : fs.locate p.withoutSlash false with
  | error cause => simp [bind, Except.bind]
  | ok found =>
    obtain ⟨l, e?⟩ := found
    cases e? with
    | some e => simp [bind, Except.bind, Errno.alreadyExists, Errno.noEntry]
    | none =>
      cases hholder : fs.holderWritable l with
      | error cause => simp [bind, Except.bind, hholder]
      | ok u => simp [bind, Except.bind, hholder]

/-- A new directory leaves everything else as it was, up to a time stamp. -/
theorem within_add (hfree : fs.entry? l = none) (mode : Nat) (node : Node) :
    fs.Within (fs.add l node mode) := by
  refine ⟨rfl, fun {m e} hentry => ?_⟩
  have hm : m ≠ l := by
    rintro rfl
    rw [hfree] at hentry
    cases hentry
  rw [entry?_add_of_ne fs node mode hm, entry?_stamp, hentry]
  refine ⟨_, rfl, ?_⟩
  split
  · exact ⟨rfl, .inl rfl⟩
  · exact .refl e

/-- A directory that stands in the larger file system may be made in the smaller one. -/
theorem Within.add (h : fs.Within gs) {e : Entry} (hentry : gs.entry? l = some e)
    (hnode : e.node = .directory) (hmode : e.mode = directoryMode) :
    (fs.add l .directory directoryMode).Within gs := by
  refine ⟨h.here, fun {m own} hown => ?_⟩
  by_cases hm : m = l
  · subst hm
    rw [entry?_add_self] at hown
    cases hown
    exact ⟨e, hentry, hmode.symm, .inl hnode.symm⟩
  · rw [entry?_add_of_ne fs _ _ hm, entry?_stamp, Option.map_eq_some_iff] at hown
    obtain ⟨own', hown', rfl⟩ := hown
    obtain ⟨e', he', halike⟩ := h.entry hown'
    refine ⟨e', he', ?_⟩
    split
    · exact halike
    · exact halike

theorem Within.isDirectory (h : fs.Within gs) (hp : fs.isDirectory p = true) :
    gs.isDirectory p = true := by
  unfold FileSystem.isDirectory at hp ⊢
  cases hstatus : fs.status p with
  | error cause => simp [hstatus] at hp
  | ok found =>
    obtain ⟨l, e⟩ := found
    obtain ⟨e', hstatus', halike⟩ := h.find hstatus
    rw [hstatus] at hp
    rw [status, hstatus']
    simpa [halike.isDirectory_eq] using hp

theorem exists_status_of_isDirectory (hp : fs.isDirectory p = true) :
    ∃ l e, fs.status p = .ok (l, e) ∧ e.isDirectory = true := by
  unfold FileSystem.isDirectory at hp
  cases hstatus : fs.status p with
  | error cause => simp [hstatus] at hp
  | ok found =>
    obtain ⟨l, e⟩ := found
    rw [hstatus] at hp
    exact ⟨l, e, rfl, hp⟩

/-- An ancestor that is missing in the larger file system is missing in the smaller one. -/
theorem Within.makeDirectory_noEntry (h : fs.Within gs)
    (hmissing : gs.makeDirectory p = .error (.os .noEntry)) :
    fs.makeDirectory p = .error (.os .noEntry) := by
  by_cases hp : isSought p
  case neg =>
    obtain ⟨cause, hcause⟩ := exists_locateBare_of_not_isSought hp
    rw [makeDirectory, hcause] at hmissing ⊢
    exact hmissing
  rw [makeDirectory_eq_noEntry hp] at hmissing ⊢
  cases hfound : fs.locate p.withoutSlash false with
  | error cause =>
    by_cases hcause : cause = .os .noEntry
    · exact .inl (congrArg _ hcause)
    · rw [h.locate_refused hfound hcause] at hmissing
      rcases hmissing with heq | ⟨l, heq, -⟩
      · cases heq
        exact absurd rfl hcause
      · cases heq
  | ok found =>
    obtain ⟨l, e?⟩ := found
    cases e? with
    | some e =>
      obtain ⟨e', hfound', -⟩ := h.locate_found hfound
      rw [hfound'] at hmissing
      rcases hmissing with heq | ⟨l, heq, -⟩
      · cases heq
      · cases heq
    | none =>
      rw [h.locate_free hfound] at hmissing
      rcases hmissing with heq | ⟨l', heq, hholder'⟩
      · cases heq
      · rw [Except.ok.injEq, Found.mk.injEq] at heq
        obtain ⟨rfl, -⟩ := heq
        refine .inr ⟨l, rfl, ?_⟩
        by_contra hholder
        rw [h.holderWritable hholder] at hholder'
        exact hholder hholder'

/-! ### A directory with its ancestors -/

/-- How making a directory with its ancestors succeeds, where there is a directory to make. -/
theorem makeDirectoriesFuel_eq_ok {n : Nat} {made : FileSystem} (hp : p.isEmpty = false) :
    makeDirectoriesFuel (n + 1) fs p = (.ok (), made) ↔
      fs.makeDirectory p = .ok made ∨
      (∃ cause, fs.makeDirectory p = .error cause ∧ cause ≠ .os .noEntry ∧
        fs.isDirectory p = true ∧ made = fs) ∨
      (fs.makeDirectory p = .error (.os .noEntry) ∧
        ∃ parent between, p.parent? = some parent ∧
          makeDirectoriesFuel n fs parent = (.ok (), between) ∧
          (between.makeDirectory p = .ok made ∨
            ((∃ cause, between.makeDirectory p = .error cause) ∧
              between.isDirectory p = true ∧ made = between))) := by
  rw [makeDirectoriesFuel, if_neg (by simp [hp])]
  cases hfirst : fs.makeDirectory p with
  | ok made' => simp
  | error cause =>
    by_cases hcause : cause = .os .noEntry
    · subst hcause
      cases hparent : p.parent? with
      | none => simp
      | some parent =>
        rcases hmade : makeDirectoriesFuel n fs parent with ⟨outcome, between⟩
        cases outcome with
        | error cause => simp [hmade]
        | ok u =>
          cases hlast : between.makeDirectory p with
          | ok made' => simp [hmade, hlast]
          | error cause' =>
            cases hdir : between.isDirectory p with
            | true => simp [hmade, hlast, hdir, @eq_comm _ between made]
            | false => simp [hmade, hlast, hdir]
    · cases hdir : fs.isDirectory p with
      | true => simp [hcause, @eq_comm _ fs made]
      | false => simp [hcause]

/-- What survives every directory that is made of a path or of one above it survives making them
all, whether that succeeds or stops on the way. -/
theorem makeDirectoriesFuel_preserves {motive : FileSystem → Prop} {n : Nat}
    {outcome : Except IoError Unit} {made : FileSystem}
    (hstep : ∀ {gs gs' q}, q.IsAbove p → motive gs → gs.makeDirectory q = .ok gs' → motive gs')
    (hstart : motive fs) (h : makeDirectoriesFuel n fs p = (outcome, made)) : motive made := by
  induction n generalizing p outcome made with
  | zero =>
    cases h
    exact hstart
  | succ n ih =>
    rw [makeDirectoriesFuel] at h
    split at h
    · cases h
      exact hstart
    · split at h
      · cases h
        rename_i hmade
        exact hstep (.refl p) hstart hmade
      · split at h
        · cases h
          exact hstart
        · split at h
          · cases h
            exact hstart
          · rename_i parent hparent
            rcases hbetween : makeDirectoriesFuel n fs parent with ⟨outcome', between⟩
            have hkept : motive between :=
              ih (fun habove => hstep (.parent hparent habove)) hbetween
            rw [hbetween] at h
            cases outcome' with
            | error cause =>
              cases h
              exact hkept
            | ok u =>
              simp only at h
              split at h
              · cases h
                rename_i hmade
                exact hstep (.refl p) hkept hmade
              · cases h
                exact hkept

/-- What survives every new directory survives making a directory and its ancestors. -/
theorem makeDirectoriesFuel_induction {motive : FileSystem → Prop}
    (hadd : ∀ {gs l}, motive gs → gs.entry? l = none →
      motive (gs.add l .directory directoryMode)) (n : Nat) {p : Path} {made : FileSystem}
    (hstart : motive fs) (h : makeDirectoriesFuel n fs p = (.ok (), made)) : motive made := by
  refine makeDirectoriesFuel_preserves (fun {gs gs' q} _ hgs hmade => ?_) hstart h
  obtain ⟨l, -, hfree, -, rfl⟩ := makeDirectory_eq_ok.mp hmade
  exact hadd hgs (entry?_of_locate hfree)

/-- All that one file system has beyond another are plain directories that were made by now. -/
structure AddsDirectories (fs gs : FileSystem) : Prop where
  within : fs.Within gs
  isPlain : ∀ {l e}, gs.entry? l = some e → fs.entry? l = none →
    e.node = .directory ∧ e.mode = directoryMode ∧ e.modified ≤ gs.now

theorem AddsDirectories.refl (fs : FileSystem) : fs.AddsDirectories fs := by
  refine ⟨.refl fs, fun hsome hnone => ?_⟩
  rw [hnone] at hsome
  cases hsome

theorem AddsDirectories.add (h : fs.AddsDirectories gs) (hfree : gs.entry? l = none) :
    fs.AddsDirectories (gs.add l .directory directoryMode) := by
  have hlater := gs.now_le_add l .directory directoryMode
  refine ⟨h.within.trans (within_add hfree _ _), fun {m e} hsome hnone => ?_⟩
  by_cases hm : m = l
  · subst hm
    rw [entry?_add_self] at hsome
    cases hsome
    exact ⟨rfl, rfl, hlater⟩
  · rw [entry?_add_of_ne gs _ _ hm, entry?_stamp, Option.map_eq_some_iff] at hsome
    obtain ⟨e', hsome', rfl⟩ := hsome
    obtain ⟨hnode, hmode, hmodified⟩ := h.isPlain hsome' hnone
    split
    · exact ⟨hnode, hmode, hlater⟩
    · exact ⟨hnode, hmode, Timestamp.le_trans hmodified hlater⟩

theorem addsDirectories_of_makeDirectoriesFuel {n : Nat} {made : FileSystem}
    (h : makeDirectoriesFuel n fs p = (.ok (), made)) : fs.AddsDirectories made :=
  makeDirectoriesFuel_induction (motive := fs.AddsDirectories) AddsDirectories.add n
    (.refl fs) h

/-- The directory was made last, or the path leads to a directory already. -/
theorem made_or_isDirectory_of_makeDirectoriesFuel {n : Nat} {made : FileSystem}
    (h : makeDirectoriesFuel n fs p = (.ok (), made)) (hp : p.isEmpty = false) :
    (∃ gs : FileSystem, gs.makeDirectory p = .ok made) ∨ made.isDirectory p = true := by
  cases n with
  | zero => cases h
  | succ n =>
    rcases (makeDirectoriesFuel_eq_ok hp).mp h with hmade | ⟨-, -, -, hdir, rfl⟩ |
      ⟨-, parent, between, -, -, hmade | ⟨-, hdir, rfl⟩⟩
    · exact .inl ⟨fs, hmade⟩
    · exact .inr hdir
    · exact .inl ⟨between, hmade⟩
    · exact .inr hdir

/-- A path that a directory was made of is one that is looked up. -/
theorem isSought_of_makeDirectoriesFuel {n : Nat} {made : FileSystem}
    (h : makeDirectoriesFuel n fs p = (.ok (), made)) (hp : p.isEmpty = false) : isSought p := by
  rcases made_or_isDirectory_of_makeDirectoriesFuel h hp with ⟨gs, hmade⟩ | hdir
  · obtain ⟨l, hsought, -⟩ := makeDirectory_eq_ok.mp hmade
    exact hsought
  · obtain ⟨l, e, hstatus, -⟩ := exists_status_of_isDirectory hdir
    exact (locate_eq_ok.mp (find_eq_ok.mp hstatus)).1

/-- What was made is there: as a directory, or as something that leads to one. -/
theorem exists_of_makeDirectoriesFuel {n : Nat} {made : FileSystem}
    (h : makeDirectoriesFuel n fs p = (.ok (), made)) (hp : p.isEmpty = false) :
    ∃ l e, made.locate p.withoutSlash false = .ok ⟨l, some e⟩ ∧
      (e.isDirectory = true ∨ made.isDirectory p = true) := by
  rcases made_or_isDirectory_of_makeDirectoriesFuel h hp with ⟨gs, hmade⟩ | hdir
  · obtain ⟨l, -, hfree, -, rfl⟩ := makeDirectory_eq_ok.mp hmade
    have hwithin := within_add (entry?_of_locate hfree) directoryMode .directory
    have hfound := hwithin.locate_free hfree
    rw [entry?_add_self] at hfound
    exact ⟨l, _, hfound, .inl rfl⟩
  · obtain ⟨l, e, hstatus, -⟩ := exists_status_of_isDirectory hdir
    obtain ⟨l', e', hfound⟩ := (locate_unfollowed hstatus).2
    exact ⟨l', e', hfound, .inr hdir⟩

theorem within_of_makeDirectory {made : FileSystem} (h : fs.makeDirectory p = .ok made) :
    fs.Within made := by
  obtain ⟨l, -, hfree, -, rfl⟩ := makeDirectory_eq_ok.mp h
  exact within_add (entry?_of_locate hfree) _ _

/-! ### The same directories again -/

/-- One directory made again, below a file system in which it is there. -/
theorem Within.of_makeDirectory {base full made : FileSystem} (hfs : fs.Within full)
    (hfull : base.AddsDirectories full) (hbase : base.Within fs)
    (hthere : ∃ l e, full.locate p.withoutSlash false = .ok ⟨l, some e⟩)
    (h : fs.makeDirectory p = .ok made) : made.Within full := by
  obtain ⟨l, -, hfree, -, rfl⟩ := makeDirectory_eq_ok.mp h
  obtain ⟨l', e, hfound⟩ := hthere
  have hsame := (hfs.locate_free hfree).symm.trans hfound
  simp only [Except.ok.injEq, Found.mk.injEq] at hsame
  obtain ⟨-, hentry⟩ := hsame
  have hnew : base.entry? l = none := hbase.entry?_eq_none (entry?_of_locate hfree)
  obtain ⟨hnode, hmode, -⟩ := hfull.isPlain hentry hnew
  exact hfs.add hentry hnode hmode

/-- Where an ancestor was missing, the ancestors were made first. -/
theorem exists_ancestors_of_noEntry {n : Nat} {made : FileSystem} {parent : Path}
    (hp : p.isEmpty = false) (hparent : p.parent? = some parent)
    (hmissing : fs.makeDirectory p = .error (.os .noEntry))
    (hmade : makeDirectoriesFuel (n + 1) fs p = (.ok (), made)) :
    ∃ between, makeDirectoriesFuel n fs parent = (.ok (), between) ∧ between.Within made := by
  rcases (makeDirectoriesFuel_eq_ok hp).mp hmade with hone | ⟨cause, hrefused, hcause, -⟩ |
    ⟨-, parent', between, hparent', hbetween, hlast⟩
  · rw [hmissing] at hone
    cases hone
  · rw [hmissing] at hrefused
    cases hrefused
    exact absurd rfl hcause
  · rw [hparent] at hparent'
    cases hparent'
    refine ⟨between, hbetween, ?_⟩
    rcases hlast with hone | ⟨-, -, rfl⟩
    · exact within_of_makeDirectory hone
    · exact .refl _

/-- Whatever of a directory and its ancestors stands already, making the rest makes nothing that was
not made from the start. -/
theorem Within.of_makeDirectoriesFuel {base full : FileSystem} (hfull : base.AddsDirectories full)
    (hbase : base.Within fs) (hfs : fs.Within full) {n : Nat} {p : Path} {made made' : FileSystem}
    (hmade : makeDirectoriesFuel n base p = (.ok (), made)) (hwithin : made.Within full)
    (hmade' : makeDirectoriesFuel n fs p = (.ok (), made')) : made'.Within full := by
  induction n generalizing p made made' with
  | zero => cases hmade
  | succ n ih =>
    cases hp : p.isEmpty with
    | true =>
      rw [makeDirectoriesFuel, if_pos hp] at hmade'
      cases hmade'
      exact hfs
    | false =>
      have hthere : ∃ l e, full.locate p.withoutSlash false = .ok ⟨l, some e⟩ := by
        obtain ⟨l, e, hfound, -⟩ := exists_of_makeDirectoriesFuel hmade hp
        obtain ⟨e', hfound', -⟩ := hwithin.locate_found hfound
        exact ⟨l, e', hfound'⟩
      rcases (makeDirectoriesFuel_eq_ok hp).mp hmade' with hone | ⟨-, -, -, -, rfl⟩ |
        ⟨hmissing, parent, between, hparent, hbetween, hlast⟩
      · exact hfs.of_makeDirectory hfull hbase hthere hone
      · exact hfs
      · -- An ancestor is missing now, so one was missing then and was made.
        have hmissing' := hbase.makeDirectory_noEntry hmissing
        obtain ⟨before, hbefore, hbeforeMade⟩ :=
          exists_ancestors_of_noEntry hp hparent hmissing' hmade
        have hbetweenFull := ih hbefore (hbeforeMade.trans hwithin) hbetween
        have hgrown := (addsDirectories_of_makeDirectoriesFuel hbetween).within
        rcases hlast with hone | ⟨-, -, rfl⟩
        · exact hbetweenFull.of_makeDirectory hfull (hbase.trans hgrown) hthere hone
        · exact hbetweenFull

/-! ### File systems that hold the same -/

/-- Where one file system holds nothing that the other does not, a directory that can be made in one
can be made in the other. -/
theorem makeDirectory_of_within (h : fs.Within gs) (h' : gs.Within fs) {made : FileSystem}
    (hmade : fs.makeDirectory p = .ok made) :
    ∃ made', gs.makeDirectory p = .ok made' ∧ made.Within made' ∧ made'.Within made := by
  obtain ⟨l, hp, hfree, hholder, rfl⟩ := makeDirectory_eq_ok.mp hmade
  have hnone : gs.entry? l = none := h'.entry?_eq_none (entry?_of_locate hfree)
  have hfree' := h.locate_free hfree
  rw [hnone] at hfree'
  have hthere : fs.holderWritable l ≠ .error (.os .noEntry) := by simp [hholder]
  have hholder' := h.holderWritable hthere
  refine ⟨_, makeDirectory_eq_ok.mpr ⟨l, hp, hfree', hholder'.trans hholder, rfl⟩, ?_, ?_⟩
  · exact (h.trans (within_add hnone _ _)).add (entry?_add_self _ _ _ _) rfl rfl
  · exact (h'.trans (within_add (entry?_of_locate hfree) _ _)).add
      (entry?_add_self _ _ _ _) rfl rfl

/-- What is refused in one is refused in the other: it would be made in both otherwise. -/
theorem makeDirectory_refused_of_within (h : fs.Within gs) (h' : gs.Within fs) {cause : IoError}
    (hcause : fs.makeDirectory p = .error cause) :
    ∃ cause', gs.makeDirectory p = .error cause' := by
  cases hgs : gs.makeDirectory p with
  | error cause' => exact ⟨cause', rfl⟩
  | ok made =>
    obtain ⟨made', hfs, -⟩ := makeDirectory_of_within h' h hgs
    rw [hcause] at hfs
    cases hfs

/-- The same with the ancestors of the directory. -/
theorem makeDirectoriesFuel_of_within (h : fs.Within gs) (h' : gs.Within fs) {n : Nat}
    {p : Path} {made : FileSystem} (hmade : makeDirectoriesFuel n fs p = (.ok (), made)) :
    ∃ made', makeDirectoriesFuel n gs p = (.ok (), made') ∧ made.Within made' ∧
      made'.Within made := by
  induction n generalizing p made with
  | zero => cases hmade
  | succ n ih =>
    cases hp : p.isEmpty with
    | true =>
      rw [makeDirectoriesFuel, if_pos hp] at hmade
      cases hmade
      exact ⟨gs, by rw [makeDirectoriesFuel, if_pos hp], h, h'⟩
    | false =>
      rcases (makeDirectoriesFuel_eq_ok hp).mp hmade with hone | ⟨cause, hcause, hne, hdir, rfl⟩ |
        ⟨hmissing, parent, between, hparent, hbetween, hlast⟩
      · obtain ⟨made', hone', hwithin⟩ := makeDirectory_of_within h h' hone
        exact ⟨made', (makeDirectoriesFuel_eq_ok hp).mpr (.inl hone'), hwithin⟩
      · obtain ⟨cause', hcause'⟩ := makeDirectory_refused_of_within h h' hcause
        have hne' : cause' ≠ .os .noEntry := by
          rintro rfl
          rw [h.makeDirectory_noEntry hcause'] at hcause
          cases hcause
          exact hne rfl
        have hsame := (makeDirectoriesFuel_eq_ok (n := n) hp).mpr
          (.inr (.inl ⟨cause', hcause', hne', h.isDirectory hdir, rfl⟩))
        exact ⟨gs, hsame, h, h'⟩
      · have hmissing' := h'.makeDirectory_noEntry hmissing
        obtain ⟨between', hbetween', hbw, hbw'⟩ := ih hbetween
        rcases hlast with hone | ⟨⟨cause, hcause⟩, hdir, rfl⟩
        · obtain ⟨made', hone', hwithin⟩ := makeDirectory_of_within hbw hbw' hone
          refine ⟨made', (makeDirectoriesFuel_eq_ok hp).mpr (.inr (.inr ?_)), hwithin⟩
          exact ⟨hmissing', parent, between', hparent, hbetween', .inl hone'⟩
        · refine ⟨between', (makeDirectoriesFuel_eq_ok hp).mpr (.inr (.inr ?_)), hbw, hbw'⟩
          exact ⟨hmissing', parent, between', hparent, hbetween',
            .inr ⟨makeDirectory_refused_of_within hbw hbw' hcause, hbw.isDirectory hdir, rfl⟩⟩

end Launchpad.FileSystem
