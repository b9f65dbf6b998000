import Launchpad.Proofs.Copy.Renewal
import Mathlib.Data.List.Forall2

/-!
What every step of a run preserves. Between two steps the copy holds what its archives unpacked to
when it was made, and an archive that has changed since carries a later stamp than the copy; so a
copy that is kept is current, and one that is renewed is current because it is.
-/

namespace Launchpad

namespace Copy

variable {copy : Copy} {c : Config} {host : Host} {top : Location} {admitted : ByteArray → Prop}
  {effect : ByteArray → Tree → Tree} {origin fs gs : FileSystem} {bound moment : Timestamp}
  {e : Entry} {contents : List ByteArray}

/-! ### What every step preserves -/

/-- An archive holds a content, or was changed after a moment. -/
def HoldsOrNewer (c : Config) (fs : FileSystem) (moment : Timestamp) (name : String)
    (content : ByteArray) : Prop :=
  Artifact.Holds c fs name content ∨
    ∃ date, Artifact.modified c fs name = .ok date ∧ moment < date

/-- There is a copy. It holds what some contents unpacked to, and an archive that holds another
content by now is newer than the copy. The copy was last changed before `bound`. -/
structure Standing (copy : Copy) (c : Config) (top : Location)
    (effect : ByteArray → Tree → Tree) (origin fs : FileSystem) (bound : Timestamp)
    (e : Entry) (contents : List ByteArray) : Prop where
  wellFormed : fs.WellFormed
  kept : origin.Within fs
  within : ∃ full, origin.makeDirectories copy.directory = (.ok (), full) ∧
    (fs.eraseBelow top).Within full
  found : fs.find copy.directory false = .ok (top, e)
  isDirectory : e.isDirectory = true
  bounded : e.modified ≤ bound
  treeAt_eq : fs.treeAt top = Tree.unpacked effect contents
  archives : List.Forall₂ (HoldsOrNewer c fs e.modified) copy.artifacts contents

/-- Between two steps there is no copy, or one that is stale if it is not current. -/
inductive Coherent (copy : Copy) (c : Config) (top : Location)
    (effect : ByteArray → Tree → Tree) (origin fs : FileSystem) (bound : Timestamp) : Prop where
  | vacant (h : Vacant copy top origin fs)
  | standing {e : Entry} {contents : List ByteArray}
      (h : Standing copy c top effect origin fs bound e contents)

/-- A change that touches neither the copy nor where anything lies, and stamps what it touches with
a later time. -/
structure Touches (top : Location) (bound : Timestamp) (fs gs : FileSystem) : Prop where
  wellFormed : fs.WellFormed → gs.WellFormed
  within : fs.Within gs
  back : gs.Within fs
  inside : ∀ {l}, top <+: l → gs.entry? l = fs.entry? l
  stamped : ∀ {l e}, fs.entry? l = some e →
    gs.entry? l = some e ∨ ∃ e', gs.entry? l = some e' ∧ bound < e'.modified

theorem Vacant.of_touches (h : Vacant copy top origin fs) (htouches : Touches top bound fs gs) :
    Vacant copy top origin gs := by
  refine ⟨htouches.wellFormed h.wellFormed, h.kept.trans htouches.within,
    fun hfull hbelow => ?_, ?_⟩
  · rw [htouches.inside hbelow]
    exact h.free hfull hbelow
  · rcases h.within with hwithin | ⟨full, hfull, hwithin⟩
    · exact .inl (htouches.back.trans hwithin)
    · exact .inr ⟨full, hfull, htouches.back.trans hwithin⟩

/-- An archive that is touched is newer than the copy; any other is as it was. -/
theorem HoldsOrNewer.of_touches {name : String} {content : ByteArray}
    (harchive : ∃ path, Artifact.locate c origin name = .ok path) (hkept : origin.Within fs)
    (htouches : Touches top bound fs gs) (hmoment : moment ≤ bound)
    (h : HoldsOrNewer c fs moment name content) : HoldsOrNewer c gs moment name content := by
  obtain ⟨path, hpath⟩ := harchive
  obtain ⟨l, hlies⟩ := Artifact.exists_liesAt hpath
  have hkept' := hkept.trans htouches.within
  obtain ⟨-, e, -, hentry⟩ := hlies.found hkept
  rcases htouches.stamped hentry with hsame | ⟨e', hentry', hstamp⟩
  · rcases h with hholds | ⟨date, hdate, hnewer⟩
    · exact .inl (hlies.holds hkept hkept' (hsame.trans hentry.symm) hholds)
    · obtain ⟨e', hentry', hmodified⟩ := (hlies.modified_eq_ok hkept).mp hdate
      rw [hentry] at hentry'
      cases hentry'
      exact .inr ⟨date, (hlies.modified_eq_ok hkept').mpr ⟨e, hsame, hmodified⟩, hnewer⟩
  · exact .inr ⟨e'.modified, (hlies.modified_eq_ok hkept').mpr ⟨e', hentry', rfl⟩,
      Timestamp.lt_of_le_of_lt hmoment hstamp⟩

theorem Standing.of_touches
    (harchives : ∀ name ∈ copy.artifacts, ∃ path, Artifact.locate c origin name = .ok path)
    (h : Standing copy c top effect origin fs bound e contents)
    (htouches : Touches top bound fs gs) :
    Standing copy c top effect origin gs bound e contents where
  wellFormed := htouches.wellFormed h.wellFormed
  kept := h.kept.trans htouches.within
  within := by
    obtain ⟨full, hfull, hwithin⟩ := h.within
    exact ⟨full, hfull, (htouches.back.eraseBelow top).trans hwithin⟩
  found := htouches.within.find_of_entry?_eq (htouches.inside (List.prefix_refl top)) h.found
  isDirectory := h.isDirectory
  bounded := h.bounded
  treeAt_eq := by
    rw [← h.treeAt_eq]
    funext below
    rw [FileSystem.treeAt, FileSystem.treeAt, htouches.inside (List.prefix_append top below)]
  archives := ((List.forall₂_and_left _ _).mpr ⟨harchives, h.archives⟩).imp
    fun _ _ ⟨harchive, hcontent⟩ => hcontent.of_touches harchive h.kept htouches h.bounded

theorem Coherent.of_touches
    (harchives : ∀ name ∈ copy.artifacts, ∃ path, Artifact.locate c origin name = .ok path)
    (h : Coherent copy c top effect origin fs bound) (htouches : Touches top bound fs gs) :
    Coherent copy c top effect origin gs bound := by
  cases h with
  | vacant h => exact .vacant (h.of_touches htouches)
  | standing h => exact .standing (h.of_touches harchives htouches)

theorem touches_until (top : Location) (bound moment : Timestamp) (fs : FileSystem) :
    Touches top bound fs { fs with now := moment } where
  wellFormed h := h.of_within ⟨rfl, fun h => ⟨_, h, .refl _⟩⟩
    (fun _ e hentry => ⟨e, hentry, rfl, rfl⟩) (Nat.le_refl _)
  within := ⟨rfl, fun h => ⟨_, h, .refl _⟩⟩
  back := ⟨rfl, fun h => ⟨_, h, .refl _⟩⟩
  inside _ := rfl
  stamped h := .inl h

theorem touches_rewrite {serial : Nat} (content : ByteArray) (hlater : bound < fs.now)
    (houtside : ∀ {l e}, fs.entry? l = some e → e.serial = serial →
      e.isFile = true ∧ ¬top <+: l) :
    Touches top bound fs (fs.rewrite serial content) := by
  obtain ⟨hwithin, hback⟩ := FileSystem.within_rewrite content
    fun hentry hserial => (houtside hentry hserial).1
  refine ⟨fun hwell => hwell.of_within hwithin ?_ (Nat.le_refl _), hwithin, hback,
    fun {l} hbelow => ?_, fun {l e} hentry => ?_⟩
  · intro l e hentry
    rw [FileSystem.entry?_rewrite, Option.map_eq_some_iff] at hentry
    obtain ⟨own, hown, rfl⟩ := hentry
    split
    · rename_i hserial
      exact ⟨own, hown, rfl, (Entry.isDirectory_of_isFile (houtside hown hserial).1).symm⟩
    · exact ⟨own, hown, rfl, rfl⟩
  · rw [FileSystem.entry?_rewrite]
    cases hentry : fs.entry? l with
    | none => rfl
    | some e =>
      have hserial : e.serial ≠ serial := fun hserial => (houtside hentry hserial).2 hbelow
      rw [Option.map_some, if_neg hserial]
  · rw [FileSystem.entry?_rewrite, hentry, Option.map_some]
    split
    · exact .inr ⟨_, rfl, hlater⟩
    · exact .inl rfl

/-! ### A step -/

theorem Standing.remove (hopens : copy.OpensEmpty top origin)
    (h : Standing copy c top effect origin fs bound e contents) :
    Vacant copy top origin (fs.remove top) := by
  obtain ⟨full, hfull, hwithin⟩ := h.within
  refine ⟨h.wellFormed.remove top, h.kept.remove fun hbelow => (hopens hfull hbelow).1,
    fun _ hbelow => ?_, .inr ⟨full, hfull, (FileSystem.within_remove fs top).trans hwithin⟩⟩
  rw [FileSystem.entry?_remove, if_pos hbelow]

section Step

variable (hlawful : host.unpacker.Lawful copy.directory admitted effect)
  (hstarts : copy.Starts host.config top origin) (hopens : copy.OpensEmpty top origin)
include hstarts hopens

theorem Coherent.deleted (h : Coherent copy host.config top effect origin fs bound)
    {after : FileSystem} (hremoved : fs.removeTree copy.directory = (.ok (), after)) :
    Vacant copy top origin after := by
  obtain ⟨l, e, hfound, rfl⟩ := FileSystem.removeTree_ok hremoved
  cases h with
  | vacant h => exact absurd hfound (h.not_find hstarts)
  | standing h =>
    rw [h.found] at hfound
    cases hfound
    exact h.remove hopens

/-- A copy that is thrown away, if it is there at all, leaves none. -/
theorem Coherent.discarded (h : Coherent copy host.config top effect origin fs bound)
    {cleared : FileSystem} (hclears : copy.Clears fs cleared) :
    Vacant copy top origin cleared := by
  cases hclears with
  | missing hmissing =>
    cases h with
    | vacant h => exact h
    | standing h =>
      have hstatus := FileSystem.status_of_find h.isDirectory h.found
      have hthere := FileSystem.pathExists_eq_true_iff.mpr ⟨top, _, hstatus⟩
      rw [hmissing] at hthere
      cases hthere
  | removed _ hremoved => exact h.deleted hstarts hopens hremoved

include hlawful

/-- What is unpacked where no copy was stands, and holds what the archives hold. -/
theorem Vacant.renewed (h : Vacant copy top origin fs) {made after : FileSystem}
    (hmade : fs.makeDirectories copy.directory = (.ok (), made))
    (hadds : Adds host copy.directory copy.artifacts contents made after)
    (hkind : copy.HoldsOnly host.config admitted after) :
    ∃ e, Standing copy host.config top effect origin after after.now e contents ∧
      List.Forall₂ (Artifact.Holds host.config after) copy.artifacts contents := by
  obtain ⟨full, e, hopened⟩ := h.exists_opened hstarts hopens hmade
  have hfree : ∀ {l}, top <+: l → origin.entry? l = none :=
    fun hbelow => (hopens hopened.makes hbelow).1
  have hstraight := hopened.leadsStraight
  obtain ⟨hwell, hinside⟩ := hadds.changesInside hlawful.below hopened.wellFormed hstraight
  have hholds := hadds.holds hlawful.below hfree hstarts.archives hopened.kept
    hopened.wellFormed hstraight
  have hadmitted : ∀ content ∈ contents, admitted content := by
    intro content hcontent
    obtain ⟨i, hi, rfl⟩ := List.mem_iff_getElem.mp hcontent
    have hi' : i < copy.artifacts.length := by rwa [hholds.length_eq]
    exact hkind (List.getElem_mem hi') (hholds.get hi' hi)
  obtain ⟨hdated, htree⟩ := hadds.treeAt_eq_unpacked [] hlawful hopened.wellFormed hstraight
    hopened.isDated (List.forall_mem_nil _) hopened.treeAt_eq hadmitted
  obtain ⟨e', hfound, halike⟩ := (hinside.within hopened.treeAt_eq).find hopened.found
  have hkept := hopened.kept.of_sameOutside hfree hinside.toSameOutside
  have hwithin := hinside.toSameOutside.within_eraseBelow.trans
    ((FileSystem.eraseBelow_within made top).trans hopened.within)
  exact ⟨e', ⟨hwell, hkept, ⟨full, hopened.makes, hwithin⟩, hfound,
    halike.isDirectory_eq ▸ hopened.isDirectory, hdated (FileSystem.entry?_of_find hfound), htree,
    hholds.imp fun _ _ => .inl⟩, hholds⟩

/-- After a fetch there is a copy, and it is current. -/
theorem Coherent.fetched {w w' : World} {outcome : Outcome}
    (h : Coherent copy host.config top effect origin w.files bound) (hlater : bound < w.files.now)
    (hfetch : (copy.ensureCurrent host).perform w = (.ok outcome, w'))
    (hkind : copy.HoldsOnly host.config admitted w'.files) :
    Coherent copy host.config top effect origin w'.files w'.files.now ∧
      copy.IsCurrent host.config effect w'.files := by
  rcases perform_ensureCurrent_ok hfetch with ⟨-, hfiles, l, e, hstatus, hdated⟩ |
    ⟨-, cleared, made, contents, hclears, hmade, hadds⟩
  · rw [hfiles]
    cases h with
    | vacant h =>
      have hmissing := h.pathExists_eq_false hstarts
      rw [FileSystem.pathExists_eq_true_iff.mpr ⟨l, e, hstatus⟩] at hmissing
      cases hmissing
    | @standing _ contents h =>
      rw [FileSystem.status_of_find h.isDirectory h.found] at hstatus
      cases hstatus
      refine ⟨.standing { h with bounded := ?_ }, top, e, contents,
        FileSystem.status_of_find h.isDirectory h.found, ?_, h.treeAt_eq⟩
      · exact Timestamp.le_of_lt (Timestamp.lt_of_le_of_lt h.bounded hlater)
      · -- No archive is newer than the copy, so each holds what the copy was made from.
        refine ((List.forall₂_and_left _ _).mpr ⟨hdated, h.archives⟩).imp ?_
        rintro name content ⟨⟨date, hdate, hold⟩, hholds | ⟨date', hdate', hnewer⟩⟩
        · exact hholds
        · rw [hdate] at hdate'
          cases hdate'
          exact absurd hnewer hold
  · have hvacant := h.discarded hstarts hopens hclears
    obtain ⟨e, hstanding, hholds⟩ := hvacant.renewed hlawful hstarts hopens hmade hadds hkind
    exact ⟨.standing hstanding, top, e, contents,
      FileSystem.status_of_find hstanding.isDirectory hstanding.found, hholds, hstanding.treeAt_eq⟩

theorem Coherent.step {w w' : World}
    (h : Coherent copy host.config top effect origin w.files bound) (hlater : bound < w.files.now)
    (hstep : Step copy host admitted top w w') :
    Coherent copy host.config top effect origin w'.files w'.files.now := by
  cases hstep with
  | fetched hfetch hkind => exact (h.fetched hlawful hstarts hopens hlater hfetch hkind).1
  | replaced serial content houtside =>
    have htouches := touches_rewrite content hlater houtside
    cases h.of_touches hstarts.archives htouches with
    | vacant h => exact .vacant h
    | standing h =>
      exact .standing { h with
        bounded := Timestamp.le_of_lt (Timestamp.lt_of_le_of_lt h.bounded hlater) }
  | deleted hremoved => exact .vacant (h.deleted hstarts hopens hremoved)

/-- Whatever happens to a copy, it is coherent. -/
theorem Coherent.run {w₀ w : World} (hrun : Run copy host admitted top w₀ w)
    (h : Coherent copy host.config top effect origin w₀.files w₀.files.now) :
    Coherent copy host.config top effect origin w.files w.files.now := by
  induction hrun with
  | start => exact h
  | @step between after moment hrun hlater hstep ih =>
    have hwaited := ih.of_touches hstarts.archives
      (touches_until top between.files.now moment between.files)
    exact hwaited.step (w := between.until moment) hlawful hstarts hopens hlater hstep

end Step

end Copy

end Launchpad
