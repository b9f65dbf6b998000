import Launchpad.Proofs.FileSystem.Entries
import Launchpad.Proofs.FileSystem.Lookup

/-!
File systems of which one holds everything that the other holds, up to the contents of files and
their time stamps. What a look-up finds in the smaller one it finds in the larger, and only a name
that was missing can turn up.
-/

namespace Launchpad

/-- Two entries that may differ in nothing but their number, their time stamp, and the content if
they are files. -/
def Entry.Alike (a b : Entry) : Prop :=
  a.mode = b.mode ∧ (a.node = b.node ∨ a.isFile = true ∧ b.isFile = true)

theorem Entry.isDirectory_of_isFile {e : Entry} (h : e.isFile = true) : e.isDirectory = false := by
  unfold Entry.isFile at h
  unfold Entry.isDirectory
  cases hnode : e.node with
  | file content => rfl
  | directory | link target | device name =>
    rw [hnode] at h
    cases h

namespace Entry.Alike

variable {a b c : Entry}

theorem refl (a : Entry) : a.Alike a := ⟨rfl, .inl rfl⟩

theorem symm (h : a.Alike b) : b.Alike a :=
  ⟨h.1.symm, h.2.imp Eq.symm And.symm⟩

theorem isFile_eq (h : a.Alike b) : a.isFile = b.isFile := by
  rcases h.2 with hnode | ⟨ha, hb⟩
  · unfold isFile
    rw [hnode]
  · rw [ha, hb]

theorem node_eq (h : a.Alike b) (ha : a.isFile = false) : a.node = b.node := by
  rcases h.2 with hnode | ⟨hfile, -⟩
  · exact hnode
  · rw [ha] at hfile
    cases hfile

theorem trans (hab : a.Alike b) (hbc : b.Alike c) : a.Alike c := by
  refine ⟨hab.1.trans hbc.1, ?_⟩
  cases ha : a.isFile with
  | true =>
    have hb := hab.isFile_eq.symm.trans ha
    exact .inr ⟨rfl, hbc.isFile_eq.symm.trans hb⟩
  | false =>
    have hb := hab.isFile_eq.symm.trans ha
    exact .inl ((hab.node_eq ha).trans (hbc.node_eq hb))

theorem isDirectory_eq (h : a.Alike b) : a.isDirectory = b.isDirectory := by
  cases ha : a.isFile with
  | false =>
    unfold isDirectory
    rw [h.node_eq ha]
  | true =>
    have hb := h.isFile_eq.symm.trans ha
    rw [isDirectory_of_isFile ha, isDirectory_of_isFile hb]

theorem writable_eq (h : a.Alike b) : a.writable = b.writable := by
  rw [writable, writable, h.1]

theorem executable_eq (h : a.Alike b) : a.executable = b.executable := by
  rw [executable, executable, h.1]

end Entry.Alike

namespace FileSystem

/-- Everything of one file system stands in another. -/
structure Within (fs gs : FileSystem) : Prop where
  here : fs.here = gs.here
  entry : ∀ {l e}, fs.entry? l = some e → ∃ e', gs.entry? l = some e' ∧ e.Alike e'

namespace Within

variable {fs gs hs : FileSystem}

theorem refl (fs : FileSystem) : fs.Within fs := ⟨rfl, fun h => ⟨_, h, .refl _⟩⟩

theorem trans (h : fs.Within gs) (h' : gs.Within hs) : fs.Within hs := by
  refine ⟨h.here.trans h'.here, fun hentry => ?_⟩
  obtain ⟨e', hentry', halike⟩ := h.entry hentry
  obtain ⟨e'', hentry'', halike'⟩ := h'.entry hentry'
  exact ⟨e'', hentry'', halike.trans halike'⟩

theorem entry?_eq_none (h : fs.Within gs) {l : Location} (hnone : gs.entry? l = none) :
    fs.entry? l = none := by
  cases hentry : fs.entry? l with
  | none => rfl
  | some e =>
    obtain ⟨e', hentry', -⟩ := h.entry hentry
    rw [hnone] at hentry'
    cases hentry'

theorem searchable_eq (h : fs.Within gs) {l : Location}
    (hthere : fs.searchable l ≠ .error .noEntry) : gs.searchable l = fs.searchable l := by
  unfold searchable at hthere ⊢
  cases hentry : fs.entry? l with
  | none => simp [hentry] at hthere
  | some e =>
    obtain ⟨e', hentry', halike⟩ := h.entry hentry
    simp only [hentry', halike.isDirectory_eq, halike.executable_eq]

/-- How the answer to a look-up grows with the file system. With `atLast`, where the last name is
not followed if it turns out to be a link, a free place stays the answer. -/
structure Grown (atLast : Prop) (few many : Except Errno Found) : Prop where
  found : ∀ {l e}, few = .ok ⟨l, some e⟩ → ∃ e', many = .ok ⟨l, some e'⟩ ∧ e.Alike e'
  free : atLast → ∀ {l}, few = .ok ⟨l, none⟩ → ∃ e?, many = .ok ⟨l, e?⟩
  refused : ∀ {n}, few = .error n → n ≠ .noEntry → many = .error n

theorem searchable_ok (h : fs.Within gs) {l : Location} (hok : fs.searchable l = .ok ()) :
    gs.searchable l = .ok () := by
  rw [h.searchable_eq (by simp [hok]), hok]

namespace Grown

variable {atLast atLast' : Prop} {few many : Except Errno Found} {l : Location} {e e' : Entry}
  {n : Errno} {e? : Option Entry}

theorem of_found (h : e.Alike e') :
    Grown atLast (.ok ⟨l, some e⟩) (.ok ⟨l, some e'⟩) := by
  refine ⟨fun heq => ?_, fun _ _ heq => ?_, fun heq => ?_⟩
  · cases heq
    exact ⟨e', rfl, h⟩
  · cases heq
  · cases heq

theorem of_free (h : atLast → ∃ e?, many = .ok ⟨l, e?⟩) :
    Grown atLast (.ok ⟨l, none⟩) many := by
  refine ⟨fun heq => ?_, fun hlast _ heq => ?_, fun heq => ?_⟩
  · cases heq
  · cases heq
    exact h hlast
  · cases heq

theorem of_refused (h : n ≠ .noEntry → many = .error n) : Grown atLast (.error n) many := by
  refine ⟨fun heq => ?_, fun _ _ heq => ?_, fun heq hn => ?_⟩
  · cases heq
  · cases heq
  · cases heq
    exact h hn

theorem imp (h : Grown atLast few many) (hlast : atLast' → atLast) : Grown atLast' few many :=
  ⟨h.found, fun h' => h.free (hlast h'), h.refused⟩

end Grown

/-- The same walk in a larger file system. -/
theorem walk (h : fs.Within gs) (follow : Bool) (links : Nat) (place : Location)
    (pieces : List Name) (onlyDirectory : Bool) :
    Grown (follow = false ∧ onlyDirectory = false)
      (fs.walk follow links place pieces onlyDirectory)
      (gs.walk follow links place pieces onlyDirectory) := by
  fun_induction FileSystem.walk fs follow links place pieces onlyDirectory with
  | case1 links place onlyDirectory hentry => exact .of_refused (absurd rfl)
  | case2 links place onlyDirectory e hentry hdir =>
    obtain ⟨e', hentry', halike⟩ := h.entry hentry
    refine .of_refused fun _ => ?_
    rw [walk_nil, hentry']
    simp only [← halike.isDirectory_eq, hdir, if_true]
  | case3 links place onlyDirectory e hentry hdir =>
    obtain ⟨e', hentry', halike⟩ := h.entry hentry
    rw [walk_nil, hentry']
    simp only [← halike.isDirectory_eq, hdir]
    exact .of_found halike
  | case4 links place onlyDirectory piece rest n hsearch =>
    refine .of_refused fun hn => walk_unsearchable ?_
    rw [h.searchable_eq (by simp [hsearch, hn]), hsearch]
  | case5 links place onlyDirectory rest hsearch ih =>
    rw [walk_here (h.searchable_ok hsearch)]
    exact ih
  | case6 links place onlyDirectory rest hsearch _ ih =>
    rw [walk_up (h.searchable_ok hsearch)]
    exact ih
  | case7 links place onlyDirectory piece rest hsearch hhere hup hlong =>
    exact .of_refused fun _ => walk_long (h.searchable_ok hsearch) hhere hup hlong
  | case8 links place onlyDirectory piece hsearch hhere hup hfits next hentry =>
    have hpiece : Descends piece := ⟨hhere, hup, hfits⟩
    have hsearch' := h.searchable_ok hsearch
    -- Whatever turned up under the last name, the walk ends there.
    cases hentry' : gs.entry? next with
    | none =>
      exact .of_free fun _ => ⟨none, by rw [walk_missing hsearch' hpiece hentry', if_pos rfl]⟩
    | some e' =>
      refine .of_free fun hlast => ⟨some e', ?_⟩
      obtain ⟨hfollow, hany⟩ := hlast
      by_cases hlink : ∃ target, e'.node = .link target
      · obtain ⟨target, hnode⟩ := hlink
        rw [walk_link hsearch' hpiece hentry' hnode]
        simp [hfollow, hany, next]
      · rw [walk_on hsearch' hpiece hentry' fun target hnode => hlink ⟨target, hnode⟩, walk_nil]
        simp [hentry', hany, next]
  | case9 => exact .of_refused (absurd rfl)
  | case10 links place onlyDirectory piece rest hsearch hhere hup hfits next e hentry target hnode
      hstop =>
    obtain ⟨e', hentry', halike⟩ := h.entry hentry
    have hnode' := (halike.node_eq (by simp [Entry.isFile, hnode])).symm.trans hnode
    rw [walk_link (h.searchable_ok hsearch) ⟨hhere, hup, hfits⟩ hentry' hnode', if_pos hstop]
    exact .of_found halike
  | case11 place onlyDirectory piece rest hsearch hhere hup hfits next e hentry target hnode
      hstop =>
    obtain ⟨e', hentry', halike⟩ := h.entry hentry
    have hnode' := (halike.node_eq (by simp [Entry.isFile, hnode])).symm.trans hnode
    refine .of_refused fun _ => ?_
    rw [walk_link (h.searchable_ok hsearch) ⟨hhere, hup, hfits⟩ hentry' hnode', if_neg hstop]
  | case12 => exact .of_refused (absurd rfl)
  | case13 place onlyDirectory piece rest hsearch hhere hup hfits next e hentry target hnode hstop
      links htarget ih =>
    obtain ⟨e', hentry', halike⟩ := h.entry hentry
    have hnode' := (halike.node_eq (by simp [Entry.isFile, hnode])).symm.trans hnode
    rw [walk_link (h.searchable_ok hsearch) ⟨hhere, hup, hfits⟩ hentry' hnode', if_neg hstop]
    simp only [htarget]
    refine Grown.imp ih fun hlast => ⟨hlast.1, ?_⟩
    obtain ⟨hfollow, hany⟩ := hlast
    have hrest : rest ≠ [] := by
      intro hnil
      exact hstop (by simp [hnil, hfollow, hany])
    simp [hany, hrest]
  | case14 links place onlyDirectory piece rest hsearch hhere hup hfits next e hentry hnode ih =>
    obtain ⟨e', hentry', halike⟩ := h.entry hentry
    have hnode' : ∀ target, e'.node ≠ .link target := by
      intro target hlink
      have hfile : e'.isFile = false := by simp [Entry.isFile, hlink]
      exact hnode target ((halike.symm.node_eq hfile).symm.trans hlink)
    rw [walk_on (h.searchable_ok hsearch) ⟨hhere, hup, hfits⟩ hentry' hnode']
    exact ih

variable {p : Path} {follow : Bool} {l : Location} {e : Entry}

theorem startOf_eq (h : fs.Within gs) (p : Path) : gs.startOf p = fs.startOf p := by
  rw [startOf, startOf, h.here]

theorem locate_found (h : fs.Within gs) (hfound : fs.locate p follow = .ok ⟨l, some e⟩) :
    ∃ e', gs.locate p follow = .ok ⟨l, some e'⟩ ∧ e.Alike e' := by
  obtain ⟨hp, hwalk⟩ := locate_eq_ok.mp hfound
  obtain ⟨e', hwalk', halike⟩ := (h.walk follow _ _ _ _).found hwalk
  refine ⟨e', locate_eq_ok.mpr ⟨hp, ?_⟩, halike⟩
  rwa [h.startOf_eq]

/-- A free place that a new directory is made at. -/
theorem locate_free (h : fs.Within gs)
    (hfree : fs.locate p.withoutSlash false = .ok ⟨l, none⟩) :
    gs.locate p.withoutSlash false = .ok ⟨l, gs.entry? l⟩ := by
  obtain ⟨hp, hwalk⟩ := locate_eq_ok.mp hfree
  have hpieces : p.pieces ≠ [] := by
    intro hnil
    rw [Path.pieces_withoutSlash, hnil, walk_nil] at hwalk
    split at hwalk
    · cases hwalk
    · split at hwalk <;> simp at hwalk
  have hgrown := h.walk false linkLimit (fs.startOf p.withoutSlash) p.withoutSlash.pieces
    p.withoutSlash.endsInSlash
  obtain ⟨e?, hwalk'⟩ := hgrown.free ⟨rfl, Path.endsInSlash_withoutSlash hpieces⟩ hwalk
  have hentry : gs.entry? l = e? := entry?_of_walk hwalk'
  rw [hentry]
  refine locate_eq_ok.mpr ⟨hp, ?_⟩
  rwa [h.startOf_eq]

theorem locate_refused (h : fs.Within gs) {cause : IoError}
    (hrefused : fs.locate p follow = .error cause) (hcause : cause ≠ .os .noEntry) :
    gs.locate p follow = .error cause := by
  by_cases hp : isSought p
  · rw [locate_of_isSought hp, h.startOf_eq]
    rw [locate_of_isSought hp] at hrefused
    cases hwalk : fs.walk follow linkLimit (fs.startOf p) p.pieces p.endsInSlash with
    | ok found => simp [hwalk, Except.mapError] at hrefused
    | error n =>
      rw [hwalk] at hrefused
      cases hrefused
      have hn : n ≠ .noEntry := fun hn => hcause (by rw [hn])
      rw [(h.walk follow _ _ _ _).refused hwalk hn]
      rfl
  · obtain ⟨cause', hfs, hgs⟩ := locate_of_not_isSought hp fs gs follow follow
    rw [hrefused] at hfs
    cases hfs
    exact hgs

theorem find (h : fs.Within gs) (hfound : fs.find p follow = .ok (l, e)) :
    ∃ e', gs.find p follow = .ok (l, e') ∧ e.Alike e' := by
  obtain ⟨e', hfound', halike⟩ := h.locate_found (find_eq_ok.mp hfound)
  exact ⟨e', find_eq_ok.mpr hfound', halike⟩

/-- A directory that may be changed may be changed in the larger file system. -/
theorem holderWritable (h : fs.Within gs) (hthere : fs.holderWritable l ≠ .error (.os .noEntry)) :
    gs.holderWritable l = fs.holderWritable l := by
  unfold FileSystem.holderWritable at hthere ⊢
  cases hentry : fs.entry? l.dropLast with
  | none => simp [hentry] at hthere
  | some e =>
    obtain ⟨e', hentry', halike⟩ := h.entry hentry
    simp only [hentry', halike.writable_eq]

end Within

end FileSystem

end Launchpad
