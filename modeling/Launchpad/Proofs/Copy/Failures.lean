import Launchpad.Proofs.Copy.Opening
import Launchpad.Proofs.Copy.Resolver

/-!
What a fetch that fails leaves behind. It fails while it asks whether the copy is stale, while it
prepares an empty directory, or at one of the artifacts, and it fails at one of these only. Whatever
it did before stays done: the artifacts in front were unpacked, those behind were not looked at, and
outside the copy nothing has changed but directories that had to be made above it.
-/

namespace Launchpad

open Results

namespace Copy

/-- Artifacts are found and unpacked one after the other. -/
inductive Extracts (resolver : Resolver) (unpacker : Unpacker) (destination : Path) :
    List String → List Path → FileSystem → FileSystem → Prop where
  | nil (fs : FileSystem) : Extracts resolver unpacker destination [] [] fs fs
  | cons {name : String} {names : List String} {archive : Path} {archives : List Path}
      {before between after : FileSystem} (hlocate : resolver.locate before name = .ok archive)
      (hunpack : unpackFile unpacker archive destination before = (.ok (), between))
      (hrest : Extracts resolver unpacker destination names archives between after) :
      Extracts resolver unpacker destination (name :: names) (archive :: archives) before after

/-- One artifact fails: it is not found, or what is found cannot be unpacked as a whole. -/
inductive Fails (resolver : Resolver) (unpacker : Unpacker) (destination : Path) (name : String)
    (before : FileSystem) : Failure → List Path → FileSystem → Prop where
  | unresolved {failure : Failure} (h : resolver.locate before name = .error failure) :
      Fails resolver unpacker destination name before failure [] before
  | unextractable {archive : Path} {cause : IoError} {after : FileSystem}
      (hlocate : resolver.locate before name = .ok archive)
      (h : unpackFile unpacker archive destination before = (.error cause, after)) :
      Fails resolver unpacker destination name before (.unextractable archive cause) [archive] after

end Copy

namespace Unpacker.StaysBelow

variable {unpacker : Unpacker} {destination : Path} {top : Location} {before after : FileSystem}

/-- Unpacking a file stays below, whether the file can be read or not. -/
theorem unpackFile {archive : Path} {outcome : Except IoError Unit}
    (h : unpacker.StaysBelow destination) (hwell : before.WellFormed)
    (hstraight : before.LeadsStraight destination top)
    (hunpack : Copy.unpackFile unpacker archive destination before = (outcome, after)) :
    after.WellFormed ∧ FileSystem.ChangesInside top before after := by
  unfold Copy.unpackFile at hunpack
  cases hread : before.readFile archive with
  | ok content =>
    rw [hread] at hunpack
    exact h hwell hstraight hunpack
  | error cause =>
    -- The directory is there, so there is none to make before the file turns out unreadable.
    have hprepare := FileSystem.prepare_of_isDirectoryAt hstraight.isDirectoryAt
    have hsame : after = before := by
      simp only [hread, hprepare] at hunpack
      split at hunpack
      · cases hunpack
        rfl
      · cases hunpack
        rfl
    rw [hsame]
    exact ⟨hwell, .refl top before⟩

theorem extracts {resolver : Resolver} {names : List String} {archives : List Path}
    (h : unpacker.StaysBelow destination) (hwell : before.WellFormed)
    (hstraight : before.LeadsStraight destination top)
    (hextracts : Copy.Extracts resolver unpacker destination names archives before after) :
    after.WellFormed ∧ FileSystem.ChangesInside top before after := by
  induction hextracts with
  | nil fs => exact ⟨hwell, .refl top fs⟩
  | cons hlocate hunpack hrest ih =>
    obtain ⟨hwell', hfirst⟩ := h.unpackFile hwell hstraight hunpack
    obtain ⟨hwell'', hlater⟩ := ih hwell' (hfirst.leadsStraight hstraight)
    exact ⟨hwell'', hfirst.trans hlater⟩

/-- All that was done up to an artifact that fails, and for it, was done below. -/
theorem fails {resolver : Resolver} {names : List String} {archives opened : List Path}
    {name : String} {failure : Failure} {between : FileSystem}
    (h : unpacker.StaysBelow destination) (hwell : before.WellFormed)
    (hstraight : before.LeadsStraight destination top)
    (hextracts : Copy.Extracts resolver unpacker destination names archives before between)
    (hfails : Copy.Fails resolver unpacker destination name between failure opened after) :
    FileSystem.ChangesInside top before after := by
  obtain ⟨hwell', hfront⟩ := h.extracts hwell hstraight hextracts
  cases hfails with
  | unresolved => exact hfront
  | unextractable hlocate hunpack =>
    exact hfront.trans (h.unpackFile hwell' (hfront.leadsStraight hstraight) hunpack).2

end Unpacker.StaysBelow

namespace Copy

open Launchpad.Action

/-- The entries that clearing a copy away makes. -/
def clearing (copy : Copy) (files : FileSystem) : List Event :=
  if files.pathExists copy.directory then [copy.deleting] else []

/-- Where a fetch fails. -/
inductive Stage where
  /-- While it asks whether the copy is stale. -/
  | asking
  /-- While it throws the old directory away and makes a new one. -/
  | preparing
  /-- At the artifact with this index. -/
  | adding (index : Nat)
  deriving DecidableEq, Repr

/-- How a fetch fails at a stage: its failure, and the world that it leaves. -/
inductive BreaksAt (copy : Copy) (resolver : Resolver) (unpacker : Unpacker) (w : World) :
    Failure → World → Stage → Prop where
  | asking {failure : Failure}
      (h : (copy.isStaleBy resolver).perform w = (.error failure, w)) :
      BreaksAt copy resolver unpacker w failure w .asking
  | clearing {entry : LogEntry} {cause : IoError} {after : FileSystem}
      (hstale : (copy.isStaleBy resolver).perform w = (.ok true, w.record (.logged entry)))
      (hthere : w.files.pathExists copy.directory = true)
      (h : w.files.removeTree copy.directory = (.error cause, after)) :
      BreaksAt copy resolver unpacker w (.io .deletingDirectory copy.directory cause)
        ⟨after, w.journal ++ [.logged entry, copy.deleting]⟩ .preparing
  | making {entry : LogEntry} {cause : IoError} {cleared after : FileSystem}
      (hstale : (copy.isStaleBy resolver).perform w = (.ok true, w.record (.logged entry)))
      (hclears : copy.Clears w.files cleared)
      (h : cleared.makeDirectories copy.directory = (.error cause, after)) :
      BreaksAt copy resolver unpacker w (.io .creatingDirectory copy.directory cause)
        ⟨after, w.journal ++ .logged entry :: copy.clearing w.files⟩ .preparing
  /-- What stands behind the artifact that fails makes no difference. -/
  | adding {entry : LogEntry} {failure : Failure} {cleared made between after : FileSystem}
      {before rest : List String} {name : String} {archives opened : List Path}
      {top : Location} {prepared : List Event}
      (hstale : (copy.isStaleBy resolver).perform w = (.ok true, w.record (.logged entry)))
      (hmade : copy.MadeAt w.files cleared made top)
      (hprepared : prepared = w.journal ++ .logged entry :: copy.clearing w.files)
      (hlist : copy.artifacts = before ++ name :: rest)
      (hbefore : Extracts resolver unpacker copy.directory before archives made between)
      (hfails : Fails resolver unpacker copy.directory name between failure opened after)
      (hthere : made.LeadsStraight copy.directory top → after.IsDirectoryAt copy.directory top)
      (hbehind : ∀ behind,
        (addArtifactsBy resolver unpacker copy.directory (before ++ name :: behind)).perform
            ⟨made, prepared⟩ =
          (.error failure,
            ⟨after, prepared ++ (archives ++ opened).map (extracting copy.directory)⟩)) :
      BreaksAt copy resolver unpacker w failure
        ⟨after, prepared ++ (archives ++ opened).map (extracting copy.directory)⟩
        (.adding before.length)

variable {copy : Copy} {resolver : Resolver} {unpacker : Unpacker} {destination : Path}
  {name : String} {names before : List String} {archives opened : List Path}
  {fs between after made cleared : FileSystem} {w w' : World} {failure : Failure}

/-! ### One stage -/

/-- Clearing away fails only at a directory that is there. -/
theorem perform_discard_error (h : copy.discard.perform w = (.error failure, w')) :
    ∃ cause after, w.files.pathExists copy.directory = true ∧
      w.files.removeTree copy.directory = (.error cause, after) ∧
      failure = .io .deletingDirectory copy.directory cause ∧
      w' = ⟨after, w.journal ++ [copy.deleting]⟩ := by
  rw [perform_discard] at h
  split at h
  · rename_i hthere
    obtain ⟨houtcome, rfl⟩ := Prod.mk.inj h
    obtain ⟨cause, hcause, rfl⟩ := mapError_eq_error.mp houtcome
    exact ⟨cause, _, hthere, Prod.ext hcause rfl, rfl, rfl⟩
  · cases h

theorem journal_of_discard_ok (h : copy.discard.perform w = (.ok (), w')) :
    w'.journal = w.journal ++ copy.clearing w.files := by
  rw [perform_discard] at h
  unfold clearing
  split at h
  · rename_i hthere
    obtain ⟨-, rfl⟩ := Prod.mk.inj h
    rw [if_pos hthere]
  · rename_i hmissing
    cases h
    rw [if_neg hmissing, List.append_nil]

/-- The artifacts up to one that fails, whatever stands behind it. -/
theorem perform_addArtifactsBy_of_fails
    (hbefore : Extracts resolver unpacker destination before archives fs between)
    (hfails : Fails resolver unpacker destination name between failure opened after)
    (behind : List String) (journal : List Event) :
    (addArtifactsBy resolver unpacker destination (before ++ name :: behind)).perform
        ⟨fs, journal⟩ =
      (.error failure, ⟨after, journal ++ (archives ++ opened).map (extracting destination)⟩) := by
  induction hbefore generalizing journal with
  | nil fs =>
    rw [List.nil_append, addArtifactsBy, perform_bind, perform_addArtifactBy]
    cases hfails with
    | unresolved h => simp [h]
    | unextractable hlocate h =>
      simp only [hlocate, h, List.nil_append, List.map_cons, List.map_nil]
      rfl
  | @cons name' names' archive archives' fs next between' hlocate hunpack hrest ih =>
    rw [List.cons_append, addArtifactsBy, perform_bind, perform_addArtifactBy]
    simp only [hlocate, hunpack]
    have hlater := ih hfails (journal ++ [extracting destination archive])
    rw [List.append_assoc] at hlater
    exact hlater

/-- Adding artifacts fails at one of them, once all in front of it were added. -/
theorem exists_fails_of_addArtifactsBy
    (h : (addArtifactsBy resolver unpacker destination names).perform w = (.error failure, w')) :
    ∃ before name rest archives opened between, names = before ++ name :: rest ∧
      Extracts resolver unpacker destination before archives w.files between ∧
      Fails resolver unpacker destination name between failure opened w'.files := by
  induction names generalizing w with
  | nil => cases h
  | cons name rest ih =>
    rw [addArtifactsBy] at h
    rcases perform_bind_error.mp h with hfirst | ⟨_, next, hfirst, h⟩
    · rw [perform_addArtifactBy] at hfirst
      refine ⟨[], name, rest, [], ?_⟩
      cases hlocate : resolver.locate w.files name with
      | error cause =>
        simp only [hlocate] at hfirst
        cases hfirst
        exact ⟨[], _, rfl, .nil _, .unresolved hlocate⟩
      | ok archive =>
        simp only [hlocate, Prod.mk.injEq] at hfirst
        obtain ⟨houtcome, rfl⟩ := hfirst
        obtain ⟨cause, hcause, rfl⟩ := mapError_eq_error.mp houtcome
        exact ⟨[archive], w.files, rfl, .nil _, .unextractable hlocate (Prod.ext hcause rfl)⟩
    · rw [perform_addArtifactBy] at hfirst
      cases hlocate : resolver.locate w.files name with
      | error cause =>
        simp only [hlocate] at hfirst
        cases hfirst
      | ok archive =>
        simp only [hlocate, Prod.mk.injEq] at hfirst
        obtain ⟨houtcome, rfl⟩ := hfirst
        have hunpack := mapError_eq_ok.mp houtcome
        obtain ⟨before, bad, behind, archives, opened, between, rfl, hbefore, hfails⟩ := ih h
        exact ⟨name :: before, bad, behind, archive :: archives, opened, between, rfl,
          .cons hlocate (Prod.ext hunpack rfl) hbefore, hfails⟩

/-- A fetch that fails fails at a stage. -/
theorem exists_breaksAt (hname : copy.directory.isEmpty = false) (hwell : w.files.WellFormed)
    (hbelow : unpacker.StaysBelow copy.directory)
    (h : (copy.ensureCurrentBy resolver unpacker).perform w = (.error failure, w')) :
    ∃ stage, copy.BreaksAt resolver unpacker w failure w' stage := by
  unfold ensureCurrentBy at h
  rcases perform_bind_error.mp h with h | ⟨stale, asked, hstale, h⟩
  · have hsame := perform_isStaleBy_error h
    subst hsame
    exact ⟨.asking, .asking h⟩
  cases stale with
  | false => cases h
  | true =>
    obtain ⟨entry, rfl⟩ := perform_isStaleBy_true hstale
    have hjournal : (w.record (.logged entry)).journal = w.journal ++ [.logged entry] := rfl
    rcases perform_bind_error.mp h with h | ⟨_, discarded, hdiscard, h⟩
    · obtain ⟨cause, after, hthere, hcause, rfl, rfl⟩ := perform_discard_error h
      rw [hjournal, List.append_assoc]
      exact ⟨.preparing, .clearing hstale hthere hcause⟩
    have hclears : copy.Clears w.files discarded.files :=
      perform_discard_ok (w := w.record (.logged entry)) hdiscard
    have hentries : discarded.journal = w.journal ++ .logged entry :: copy.clearing w.files := by
      rw [journal_of_discard_ok hdiscard, hjournal, List.append_assoc]
      rfl
    rcases perform_bind_error.mp h with h | ⟨_, prepared, hmake, h⟩
    · rw [perform_change, Prod.mk.injEq] at h
      obtain ⟨houtcome, rfl⟩ := h
      obtain ⟨cause, hcause, rfl⟩ := mapError_eq_error.mp houtcome
      rw [hentries]
      exact ⟨.preparing, .making hstale hclears (Prod.ext hcause rfl)⟩
    obtain ⟨top, hmade⟩ := exists_madeAt hname hwell.isTree hclears (files_of_change_ok hmake)
    have hprepared : prepared.journal = discarded.journal := by
      rw [perform_change, Prod.mk.injEq] at hmake
      rw [← hmake.2]
    rcases perform_bind_error.mp h with h | ⟨_, _, -, h⟩
    · obtain ⟨before, name, rest, archives, opened, between, hlist, hbefore, hfails⟩ :=
        exists_fails_of_addArtifactsBy h
      have hbehind := fun behind =>
        perform_addArtifactsBy_of_fails hbefore hfails behind prepared.journal
      have hw' : w' = ⟨w'.files,
          prepared.journal ++ (archives ++ opened).map (extracting copy.directory)⟩ := by
        rw [hlist] at h
        have hsame := h.symm.trans (hbehind rest)
        exact (Prod.mk.inj hsame).2
      rw [hw']
      have hthere : prepared.files.LeadsStraight copy.directory top →
          w'.files.IsDirectoryAt copy.directory top := fun hstraight =>
        ((hbelow.fails (hmade.wellFormed hwell) hstraight hbefore hfails).leadsStraight
          hstraight).isDirectoryAt
      exact ⟨.adding before.length,
        .adding hstale hmade (hprepared.trans hentries) hlist hbefore hfails hthere hbehind⟩
    · cases h

/-! ### No other stage -/

theorem Clears.unique {other : FileSystem} (h : copy.Clears fs cleared)
    (h' : copy.Clears fs other) : other = cleared := by
  cases h with
  | missing hmissing =>
    cases h' with
    | missing => rfl
    | removed hthere =>
      rw [hmissing] at hthere
      cases hthere
  | removed hthere h =>
    cases h' with
    | missing hmissing =>
      rw [hmissing] at hthere
      cases hthere
    | removed _ h' => exact (Prod.mk.inj (h'.symm.trans h)).2

/-- An artifact that fails is not gone past. -/
theorem Extracts.not_fails {more : List String} {archives' : List Path} {after' : FileSystem}
    (hbefore : Extracts resolver unpacker destination before archives fs between)
    (hfails : Fails resolver unpacker destination name between failure opened after)
    (hpast : Extracts resolver unpacker destination (before ++ name :: more) archives' fs after') :
    False := by
  induction hbefore generalizing archives' with
  | nil fs =>
    cases hpast with
    | cons hlocate hunpack =>
      cases hfails with
      | unresolved h =>
        rw [h] at hlocate
        cases hlocate
      | unextractable hlocate' h =>
        cases hlocate.symm.trans hlocate'
        cases hunpack.symm.trans h
  | cons hlocate hunpack hrest ih =>
    cases hpast with
    | cons hlocate' hunpack' hpast =>
      cases hlocate.symm.trans hlocate'
      cases hunpack.symm.trans hunpack'
      exact ih hfails hpast

/-- Of two ways to cut a list at an element, the one with fewer in front is passed by the other. -/
theorem exists_eq_append_cons_of_length_lt {α : Type} {front front' back back' : List α} {a b : α}
    (h : front ++ a :: back = front' ++ b :: back') (hlt : front.length < front'.length) :
    ∃ more, front' = front ++ a :: more := by
  rcases List.append_eq_append_iff.mp h with ⟨between, hfront', hback⟩ | ⟨between, hfront, hback⟩
  · cases between with
    | nil =>
      rw [hfront', List.append_nil] at hlt
      exact absurd hlt (lt_irrefl _)
    | cons c more =>
      rw [List.cons_append, List.cons.injEq] at hback
      exact ⟨more, by rw [hfront', hback.1]⟩
  · rw [hfront, List.length_append] at hlt
    omega

/-- A fetch fails at one stage only. -/
theorem BreaksAt.unique {failure' : Failure} {w'' : World} {stage stage' : Stage}
    (h : copy.BreaksAt resolver unpacker w failure w' stage)
    (h' : copy.BreaksAt resolver unpacker w failure' w'' stage') : stage' = stage := by
  cases h with
  | asking hasking =>
    cases h' with
    | asking => rfl
    | clearing hstale | making hstale | adding hstale =>
      rw [hasking] at hstale
      cases hstale
  | clearing hstale hthere hfails =>
    cases h' with
    | asking hasking =>
      rw [hstale] at hasking
      cases hasking
    | clearing | making => rfl
    | adding _ hmade =>
      cases hmade.clears with
      | missing hmissing =>
        rw [hmissing] at hthere
        cases hthere
      | removed _ hremoved => cases hremoved.symm.trans hfails
  | making hstale hclears hfails =>
    cases h' with
    | asking hasking =>
      rw [hstale] at hasking
      cases hasking
    | clearing | making => rfl
    | adding _ hmade =>
      cases hclears.unique hmade.clears
      cases hmade.makes.symm.trans hfails
  | @adding _ _ _ _ _ _ before _ _ _ _ _ _ hstale hmade _ hlist hbefore hfails _ _ =>
    cases h' with
    | asking hasking =>
      rw [hstale] at hasking
      cases hasking
    | clearing _ hthere hrefused =>
      cases hmade.clears with
      | missing hmissing =>
        rw [hmissing] at hthere
        cases hthere
      | removed _ hremoved => cases hremoved.symm.trans hrefused
    | making _ hclears hrefused =>
      cases hmade.clears.unique hclears
      cases hmade.makes.symm.trans hrefused
    | @adding _ _ _ _ _ _ before' _ _ _ _ _ _ _ hmade' _ hlist' hbefore' hfails' _ _ =>
      cases hmade.clears.unique hmade'.clears
      cases hmade.makes.symm.trans hmade'.makes
      rw [hlist] at hlist'
      rcases lt_trichotomy before.length before'.length with hlt | heq | hlt
      · obtain ⟨more, rfl⟩ := exists_eq_append_cons_of_length_lt hlist' hlt
        exact (hbefore.not_fails hfails hbefore').elim
      · rw [heq]
      · obtain ⟨more, rfl⟩ := exists_eq_append_cons_of_length_lt hlist'.symm hlt
        exact (hbefore'.not_fails hfails' hbefore).elim

end Copy

end Launchpad
