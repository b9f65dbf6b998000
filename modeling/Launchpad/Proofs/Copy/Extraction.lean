import Launchpad.Proofs.Copy.Opening
import Launchpad.Proofs.Copy.Renewal

/-!
What a renewed copy holds. Whatever stood at its path before, the archives are unpacked in order
into a directory that holds nothing; so the tree depends on their contents alone, as far as
unpacking does.
-/

namespace Launchpad

open FileSystem

/-- A path leads to a directory that holds a tree. -/
def FileSystem.Shows (fs : FileSystem) (p : Path) (tree : Tree) : Prop :=
  ∃ top, fs.IsDirectoryAt p top ∧ fs.treeAt top = tree

namespace Unpacker

/-- Contents that are unpacked one after the other turn one tree into another. -/
inductive Leads (unpacker : Unpacker) (destination : Path) :
    List ByteArray → Tree → Tree → Prop where
  | nil (tree : Tree) : Leads unpacker destination [] tree tree
  | cons {content contents tree next last} (hfirst : unpacker.Turns destination content tree next)
      (hrest : Leads unpacker destination contents next last) :
      Leads unpacker destination (content :: contents) tree last

end Unpacker

namespace Copy

variable {copy : Copy} {c : Config} {host : Host} {contents : List ByteArray}
  {fs cleared made : FileSystem} {top : Location} {tree : Tree}

/-- A state from which a copy can be renewed. Whatever there was of it is cleared away and its
directory is made anew; then its archives are found, with their contents. If the path of the copy
climbs, the directory that is made holds nothing all the same. -/
structure Ready (copy : Copy) (c : Config) (contents : List ByteArray) (fs : FileSystem) :
    Prop where
  sound : fs.Sound
  archives : ∀ {cleared made}, copy.Clears fs cleared →
    cleared.makeDirectories copy.directory = (.ok (), made) →
    List.Forall₂ (Artifact.Holds c made) copy.artifacts contents
  opens : copy.directory.climbs = true → ∀ {cleared made top}, copy.Clears fs cleared →
    cleared.makeDirectories copy.directory = (.ok (), made) →
    made.IsDirectoryAt copy.directory top → made.treeAt top = Tree.empty

theorem Clears.sound (h : copy.Clears fs cleared) (hsound : fs.Sound) : cleared.Sound := by
  cases h with
  | missing => exact hsound
  | removed _ h =>
    obtain ⟨l, e, -, rfl⟩ := removeTree_ok h
    exact hsound.remove l

/-- The directory of a copy is made anew, and nothing is left there. -/
theorem Ready.exists_empty (h : copy.Ready c contents fs)
    (hname : copy.directory.isEmpty = false) (hclears : copy.Clears fs cleared)
    (hmade : cleared.makeDirectories copy.directory = (.ok (), made)) :
    ∃ top, made.IsDirectoryAt copy.directory top ∧ made.treeAt top = Tree.empty := by
  obtain ⟨top, hmadeAt⟩ := exists_madeAt hname h.sound.isTree hclears hmade
  refine ⟨top, hmadeAt.leads, ?_⟩
  cases hclimbs : copy.directory.climbs with
  | false => exact hmadeAt.isEmpty hclimbs
  | true => exact h.opens hclimbs hclears hmade hmadeAt.leads

/-! ### Archives -/

/-- An archive keeps its content while something is put into a directory that held nothing. -/
theorem holds_of_changesInside {name : String} {content : ByteArray} {after : FileSystem}
    (hempty : fs.treeAt top = Tree.empty) (hinside : ChangesInside top fs after)
    (h : Artifact.Holds c fs name content) : Artifact.Holds c after name content := by
  obtain ⟨path, hpath, -⟩ := id h
  obtain ⟨l, hlies⟩ := Artifact.exists_liesAt hpath
  have houtside : ¬top <+: l := by
    rintro ⟨below, rfl⟩
    -- The archive would be the directory itself, and so none.
    obtain ⟨relative, m, e, hlookup, hstatus, hfile⟩ := h.exists_status
    obtain ⟨hfound, e', hstatus', hentry⟩ := hlies.found (.refl fs)
    obtain ⟨relative', hlookup', rfl, -⟩ := Artifact.locate_eq_ok.mp hfound
    cases hlookup.symm.trans hlookup'
    cases hstatus.symm.trans hstatus'
    have htop := congrFun hempty below
    rw [treeAt, hentry, Tree.empty, if_pos (below_eq_top_of_empty hempty hentry),
      Option.map_some, Option.some.injEq] at htop
    simp [Entry.isDirectory, htop] at hfile
  exact hlies.holds (.refl fs) (hinside.within hempty) (hinside.entry?_eq houtside) h

/-- Unpacking archives in order turns the tree as their contents say. The induction is on the
archives; each is read when its turn comes, and by then still holds what it held at first. -/
theorem Adds.treeAt_eq {base before after : FileSystem} {p : Path} {names : List String}
    {contents read : List ByteArray} (hempty : base.treeAt top = Tree.empty)
    (hholds : List.Forall₂ (Artifact.Holds host.config base) names contents)
    (hinside : ChangesInside top base before) (hsound : before.Sound)
    (hstraight : before.LeadsStraight p top)
    (hleads : host.unpacker.Leads p contents (before.treeAt top) tree)
    (hadds : Adds host p names read before after) :
    after.LeadsStraight p top ∧ after.treeAt top = tree := by
  induction hadds generalizing contents with
  | nil fs =>
    cases hholds
    cases hleads
    exact ⟨hstraight, rfl⟩
  | @cons name names content read before between after hcontent hunpack _ ih =>
    cases hholds with
    | cons hfirst hothers =>
      cases hleads with
      | cons hturns hleads =>
        cases (holds_of_changesInside hempty hinside hfirst).unique hcontent
        obtain ⟨hsound', hinside', htree⟩ := hturns hsound hstraight rfl hunpack
        exact ih hothers (hinside.trans hinside') hsound' (hinside'.leadsStraight hstraight)
          (htree ▸ hleads)

/-- A copy that was renewed holds what the contents of its archives lead to in an empty directory,
whatever stood at its path before. -/
theorem Ready.shows {w w' : World} (h : copy.Ready host.config contents w.files)
    (hname : copy.directory.isEmpty = false)
    (hfetch : (copy.ensureCurrent host).perform w = (.ok .renewed, w'))
    (hleads : host.unpacker.Leads copy.directory contents Tree.empty tree) :
    w'.files.Shows copy.directory tree := by
  rcases perform_ensureCurrent_ok hfetch with ⟨hkept, -⟩ |
    ⟨-, cleared, made, read, hclears, hmade, hadds⟩
  · cases hkept
  obtain ⟨top, hled, hempty⟩ := h.exists_empty hname hclears hmade
  have hsound : made.Sound := (hclears.sound h.sound).makeDirectories hmade
  obtain ⟨hstraight, htree⟩ := hadds.treeAt_eq hempty (h.archives hclears hmade) (.refl top made)
    hsound (hled.leadsStraight hempty) (hempty ▸ hleads)
  exact ⟨top, hstraight.isDirectoryAt, htree⟩

end Copy

end Launchpad
