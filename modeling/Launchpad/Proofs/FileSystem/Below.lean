import Launchpad.Proofs.Copy.Fetching
import Launchpad.Proofs.FileSystem.Ancestors
import Launchpad.Proofs.Path.Below

/-!
Looking up, and making, what has a name in the directory that a path leads to. Where the path leads
somewhere, only the entry at that name counts; where it does not, the directory is made first, and
then it is new and holds nothing, unless the path climbs.
-/

namespace Launchpad.FileSystem

open Launchpad.Path

variable {fs made : FileSystem} {p : Path} {name : Name} {l holder : Location} {e d : Entry}

/-- The last step of a look-up that does not follow what it arrives at. -/
theorem walk_last {links : Nat} {onlyDirectory : Bool} (hdown : Descends name)
    (hsearch : fs.searchable holder = .ok ()) (hany : onlyDirectory = false) :
    fs.walk false links holder [name] onlyDirectory =
      .ok ⟨holder ++ [name], fs.entry? (holder ++ [name])⟩ := by
  cases hentry : fs.entry? (holder ++ [name]) with
  | none => rw [walk_missing hsearch hdown hentry, if_pos rfl]
  | some e =>
    by_cases hlink : ∃ target, e.node = .link target
    · obtain ⟨target, hnode⟩ := hlink
      rw [walk_link hsearch hdown hentry hnode, if_pos (by simp [hany])]
    · rw [walk_on hsearch hdown hentry fun target hnode => hlink ⟨target, hnode⟩, walk_nil, hentry]
      simp [hany]

structure GoesOn (p : Path) (name : Name) (q : Path) : Prop where
  pieces : q.pieces = p.pieces ++ [name]
  isAbsolute : q.isAbsolute = p.isAbsolute
  endsInSlash : q.endsInSlash = false
  isSought : isSought q → isSought p

namespace GoesOn

variable {q : Path} (h : GoesOn p name q)
include h

theorem startOf_eq (fs : FileSystem) : fs.startOf q = fs.startOf p := by
  rw [startOf, startOf, h.isAbsolute]

theorem withoutSlash_eq : q.withoutSlash = q := withoutSlash_of_endsInSlash_eq_false h.endsInSlash

/-- What is found under a name is found in a directory that the path leads to. -/
theorem exists_status {follow : Bool} {found : Found} (hlocate : fs.locate q follow = .ok found) :
    ∃ holder d, fs.status p = .ok (holder, d) ∧ fs.searchable holder = .ok () := by
  obtain ⟨hsought, hwalk⟩ := locate_eq_ok.mp hlocate
  rw [h.pieces, h.startOf_eq] at hwalk
  obtain ⟨holder, d, hfront⟩ :=
    exists_of_walk_append p.endsInSlash (List.cons_ne_nil name []) hwalk
  refine ⟨holder, d, ?_, ?_⟩
  · exact find_eq_ok.mpr (locate_eq_ok.mpr ⟨h.isSought hsought, hfront⟩)
  · obtain ⟨links, hlater⟩ := walk_append (List.cons_ne_nil name []) hfront
    rw [hlater] at hwalk
    cases hsearch : fs.searchable holder with
    | ok u => rfl
    | error n =>
      rw [walk_unsearchable hsearch] at hwalk
      cases hwalk

/-- The look-up goes on from where the path leads. -/
theorem exists_walk (hstatus : fs.status p = .ok (holder, d)) :
    ∃ links, ∀ follow, fs.walk follow linkLimit (fs.startOf q) q.pieces q.endsInSlash =
      fs.walk follow links holder [name] false := by
  obtain ⟨-, hfront⟩ := locate_eq_ok.mp (find_eq_ok.mp hstatus)
  obtain ⟨links, hlater⟩ := walk_append (List.cons_ne_nil name []) hfront
  refine ⟨links, fun follow => ?_⟩
  rw [h.pieces, h.startOf_eq, hlater, h.endsInSlash]

/-- Only the entry at the name counts. -/
theorem locate_eq (hdown : Descends name) (hsought : FileSystem.isSought q)
    (hstatus : fs.status p = .ok (holder, d)) (hsearch : fs.searchable holder = .ok ()) :
    fs.locate q false = .ok ⟨holder ++ [name], fs.entry? (holder ++ [name])⟩ := by
  obtain ⟨links, hlater⟩ := h.exists_walk hstatus
  exact locate_eq_ok.mpr ⟨hsought, (hlater false).trans (walk_last hdown hsearch rfl)⟩

/-- Without links in the last place a look-up arrives at the name, or is refused. -/
theorem eq_of_locate {follow : Bool} {found : Found} (hhere : name ≠ [.char '.'])
    (hup : name ≠ Name.up) (hstatus : fs.status p = .ok (holder, d))
    (hnode : follow = true → ∀ {e target}, fs.entry? (holder ++ [name]) = some e →
      e.node ≠ .link target)
    (hlocate : fs.locate q follow = .ok found) :
    found = ⟨holder ++ [name], fs.entry? (holder ++ [name])⟩ := by
  obtain ⟨holder', d', hstatus', hsearch⟩ := h.exists_status hlocate
  cases hstatus.symm.trans hstatus'
  obtain ⟨links, hlater⟩ := h.exists_walk hstatus
  have hwalk := (locate_eq_ok.mp hlocate).2
  rw [hlater] at hwalk
  by_cases hlong : (Name.bytes name).length > nameLimit
  · rw [walk_long hsearch hhere hup hlong] at hwalk
    cases hwalk
  have hdown : Descends name := ⟨hhere, hup, hlong⟩
  cases follow with
  | false =>
    rw [walk_last hdown hsearch rfl] at hwalk
    cases hwalk
    rfl
  | true =>
    cases hentry : fs.entry? (holder ++ [name]) with
    | none =>
      rw [walk_missing hsearch hdown hentry, if_pos rfl] at hwalk
      cases hwalk
      rfl
    | some e =>
      rw [walk_on hsearch hdown hentry fun _ => hnode rfl hentry, walk_nil, hentry] at hwalk
      cases hwalk
      rfl

/-- In a directory that is there nothing is refused because of a missing ancestor. -/
theorem makeDirectory_ne_noEntry (hhere : name ≠ [.char '.']) (hup : name ≠ Name.up)
    (hstatus : fs.status p = .ok (holder, d)) :
    fs.makeDirectory q ≠ .error (.os .noEntry) := by
  have hholder := entry?_of_find hstatus
  by_cases hsought : FileSystem.isSought q
  · rw [ne_eq, makeDirectory_eq_noEntry hsought, h.withoutSlash_eq]
    rintro (hrefused | ⟨l, hlocate, hrefused⟩)
    · obtain ⟨links, hlater⟩ := h.exists_walk hstatus
      rw [locate_of_isSought hsought, hlater] at hrefused
      cases hsearch : fs.searchable holder with
      | ok u =>
        by_cases hlong : (Name.bytes name).length > nameLimit
        · rw [walk_long hsearch hhere hup hlong] at hrefused
          cases hrefused
        · rw [walk_last ⟨hhere, hup, hlong⟩ hsearch rfl] at hrefused
          cases hrefused
      | error n =>
        rw [walk_unsearchable hsearch] at hrefused
        cases hrefused
        unfold searchable at hsearch
        simp only [hholder] at hsearch
        split at hsearch
        · cases hsearch
        · split at hsearch <;> cases hsearch
    · have hplace := congrArg Found.location
        (h.eq_of_locate hhere hup hstatus (by simp) hlocate)
      simp only at hplace
      rw [hplace, holderWritable, List.dropLast_concat, hholder] at hrefused
      simp only at hrefused
      split at hrefused <;> cases hrefused
  · -- What is not looked up at all is refused for its letters or its length.
    have hempty : q.isEmpty = false := by
      by_contra hempty
      have hglyphs : q.glyphs = [] := by simpa [isEmpty] using hempty
      have hnone : q.pieces = [] := by rw [Path.pieces, hglyphs]; rfl
      simp [h.pieces] at hnone
    intro hrefused
    unfold makeDirectory locateBare at hrefused
    split at hrefused
    · cases hrefused
    · split at hrefused
      · cases hrefused
      · rename_i hnul hfits
        exact hsought ⟨hnul, by simp [hempty], hfits⟩

end GoesOn

theorem goesOn_below (hp : p.isEmpty = false) (hname : IsSingle name) :
    GoesOn p name (p.below name) where
  pieces := pieces_below p hname
  isAbsolute := isAbsolute_below hp name
  endsInSlash := endsInSlash_below p hname
  isSought := by
    rintro ⟨hnul, -, hfits⟩
    refine ⟨fun hmem => hnul ?_, by simp [hp], fun hlong => hfits ?_⟩
    · simp only [List.contains_iff_mem] at hmem ⊢
      exact List.mem_append_left _ hmem
    · rw [bytes, below, Name.bytes, List.flatMap_append, List.length_append]
      rw [bytes, Name.bytes] at hlong
      omega

section Below

variable (hp : p.EndsInName) (hname : IsSingle name)
include hp hname

theorem exists_status_of_locate_below {follow : Bool} {found : Found}
    (h : fs.locate (p.below name) follow = .ok found) :
    ∃ holder d, fs.status p = .ok (holder, d) ∧ fs.searchable holder = .ok () :=
  (goesOn_below (isEmpty_of_endsInName hp) hname).exists_status h

variable (hdown : Descends name)
include hdown

theorem locate_below (hsought : isSought (p.below name)) (hstatus : fs.status p = .ok (holder, d))
    (hsearch : fs.searchable holder = .ok ()) :
    fs.locate (p.below name) false =
      .ok ⟨holder ++ [name], fs.entry? (holder ++ [name])⟩ :=
  (goesOn_below (isEmpty_of_endsInName hp) hname).locate_eq hdown hsought hstatus hsearch

theorem eq_of_find_below (hstatus : fs.status p = .ok (holder, d))
    (h : fs.find (p.below name) false = .ok (l, e)) :
    l = holder ++ [name] ∧ fs.searchable holder = .ok () := by
  have hlocate := find_eq_ok.mp h
  obtain ⟨holder', d', hstatus', hsearch⟩ := exists_status_of_locate_below hp hname hlocate
  rw [hstatus] at hstatus'
  cases hstatus'
  have hsought := (locate_eq_ok.mp hlocate).1
  rw [locate_below hp hname hdown hsought hstatus hsearch] at hlocate
  simp only [Except.ok.injEq, Found.mk.injEq] at hlocate
  exact ⟨hlocate.1.symm, hsearch⟩

/-! ### Making it -/

/-- One directory that is made under a name. -/
theorem makeDirectory_below (hstatus : fs.status p = .ok (holder, d))
    (h : fs.makeDirectory (p.below name) = .ok made) :
    fs.entry? (holder ++ [name]) = none ∧ fs.searchable holder = .ok () ∧
      made = fs.add (holder ++ [name]) .directory directoryMode := by
  obtain ⟨l, -, hlocate, -, rfl⟩ := makeDirectory_eq_ok.mp h
  rw [withoutSlash_below p hname] at hlocate
  obtain ⟨holder', d', hstatus', hsearch⟩ := exists_status_of_locate_below hp hname hlocate
  rw [hstatus] at hstatus'
  cases hstatus'
  have hsought := (locate_eq_ok.mp hlocate).1
  rw [locate_below hp hname hdown hsought hstatus hsearch] at hlocate
  simp only [Except.ok.injEq, Found.mk.injEq] at hlocate
  obtain ⟨rfl, hfree⟩ := hlocate
  exact ⟨hfree, hsearch, rfl⟩

/-- In a directory that is there no ancestor has to be made. -/
theorem makeDirectories_below (hstatus : fs.status p = .ok (holder, d))
    (hmissing : fs.pathExists (p.below name) = false)
    (h : fs.makeDirectories (p.below name) = (.ok (), made)) :
    fs.makeDirectory (p.below name) = .ok made := by
  rcases (makeDirectoriesFuel_eq_ok (isEmpty_below p name)).mp h with hone | ⟨-, -, -, hdir, -⟩ |
    ⟨hrefused, -⟩
  · exact hone
  · obtain ⟨l, e, hthere, -⟩ := exists_status_of_isDirectory hdir
    rw [pathExists_eq_true_iff.mpr ⟨l, e, hthere⟩] at hmissing
    cases hmissing
  · exact absurd hrefused
      ((goesOn_below (isEmpty_of_endsInName hp) hname).makeDirectory_ne_noEntry hdown.notHere
        hdown.notUp hstatus)

/-- Where the path leads nowhere its directory is made first, and is new. -/
theorem makeDirectories_below_missing (htree : fs.IsTree) (hdescends : p.climbs = false)
    (hmissing : fs.pathExists p = false)
    (h : fs.makeDirectories (p.below name) = (.ok (), made)) :
    ∃ n between holder d, makeDirectoriesFuel n fs p = (.ok (), between) ∧
      IsNewAt fs between p holder ∧ between.status p = .ok (holder, d) ∧
      between.makeDirectory (p.below name) = .ok made := by
  have hnowhere : ∀ {holder d}, fs.status p ≠ .ok (holder, d) := by
    intro holder d hstatus
    rw [pathExists_eq_true_iff.mpr ⟨holder, d, hstatus⟩] at hmissing
    cases hmissing
  have hthere : ∀ {gs : FileSystem}, gs.isDirectory (p.below name) = true →
      ∃ holder d l e, gs.status p = .ok (holder, d) ∧
        gs.find (p.below name) false = .ok (l, e) := by
    intro gs hdir
    obtain ⟨l, e, hfound, -⟩ := exists_status_of_isDirectory hdir
    obtain ⟨holder, d, hstatus, -⟩ := exists_status_of_locate_below hp hname (find_eq_ok.mp hfound)
    obtain ⟨⟨l', e', hfound'⟩, -⟩ := locate_unfollowed hfound
    exact ⟨holder, d, l', e', hstatus, hfound'⟩
  rcases (makeDirectoriesFuel_eq_ok (isEmpty_below p name)).mp h with hone | ⟨-, -, -, hdir, -⟩ |
    ⟨-, parent, between, hparent, hbetween, hlast⟩
  · obtain ⟨l, -, hlocate, -, -⟩ := makeDirectory_eq_ok.mp hone
    rw [withoutSlash_below p hname] at hlocate
    obtain ⟨holder, d, hstatus, -⟩ := exists_status_of_locate_below hp hname hlocate
    exact absurd hstatus hnowhere
  · obtain ⟨holder, d, -, -, hstatus, -⟩ := hthere hdir
    exact absurd hstatus hnowhere
  · rw [parent?_below hp hname, Option.some.injEq] at hparent
    subst hparent
    have hsought : isSought p :=
      (goesOn_below (isEmpty_of_endsInName hp) hname).isSought
        (isSought_of_makeDirectoriesFuel h (isEmpty_below p name))
    obtain ⟨l, e, hlocate, hdir⟩ :=
      exists_of_makeDirectoriesFuel hbetween (isEmpty_of_endsInName hp)
    have hled : ∃ holder d, between.status p = .ok (holder, d) := by
      rcases hdir with hdir | hdir
      · exact ⟨l, e, find_of_locate_withoutSlash hsought hdir hlocate true⟩
      · obtain ⟨holder, d, hstatus, -⟩ := exists_status_of_isDirectory hdir
        exact ⟨holder, d, hstatus⟩
    obtain ⟨holder, d, hstatus⟩ := hled
    rcases eq_or_isNewAt_of_makeDirectoriesFuel htree hdescends hbetween with rfl | ⟨top, hnew⟩
    · exact absurd hstatus hnowhere
    obtain ⟨e', hlocate', hdir'⟩ := hnew.leads
    have hstatus' := find_of_locate_withoutSlash hsought hdir' hlocate' true
    rw [status, hstatus'] at hstatus
    cases hstatus
    refine ⟨_, between, holder, d, hbetween, hnew, hstatus', ?_⟩
    rcases hlast with hone | ⟨-, hdir, -⟩
    · exact hone
    · -- The new directory holds nothing.
      obtain ⟨holder', d', l', e'', hled, hfound⟩ := hthere hdir
      obtain ⟨rfl, -⟩ := eq_of_find_below hp hname hdown hstatus' hfound
      have hnone := hnew.holdsNothing (List.prefix_append holder [name]) (by simp)
      rw [entry?_of_find hfound] at hnone
      cases hnone

end Below

end Launchpad.FileSystem
