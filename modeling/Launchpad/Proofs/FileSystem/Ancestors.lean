import Launchpad.Proofs.FileSystem.Making
import Launchpad.Proofs.FileSystem.Outside
import Mathlib.Data.List.Induction

/-!
Where new directories come to stand. In a tree every entry is held by a directory, so nothing stands
below a location that is free. A path that does not climb therefore leads to an empty directory once
it was made, unless it led to one before. A path that climbs may lead through a directory that had
to be made for it, such as `b` in `a/b/..`.
-/

namespace Launchpad.FileSystem

variable {fs gs made : FileSystem} {p : Path} {l m : Location}

/-! ### Trees -/

/-- Every entry is held by a directory. -/
structure IsTree (fs : FileSystem) : Prop where
  held : ∀ {l e}, fs.entry? l = some e → l ≠ [] →
    ∃ d, fs.entry? l.dropLast = some d ∧ d.isDirectory = true

/-- Below what is not there nothing stands. -/
theorem IsTree.entry?_eq_none (h : fs.IsTree) (hfree : fs.entry? l = none) (hbelow : l <+: m) :
    fs.entry? m = none := by
  obtain ⟨below, rfl⟩ := hbelow
  induction below using List.reverseRecOn with
  | nil => rwa [List.append_nil]
  | append_singleton below name ih =>
    cases hentry : fs.entry? (l ++ (below ++ [name])) with
    | none => rfl
    | some e =>
      obtain ⟨d, hd, -⟩ := h.held hentry (by simp)
      rw [← List.append_assoc, List.dropLast_concat, ih] at hd
      cases hd

theorem IsTree.add (h : fs.IsTree) (hfree : fs.entry? l = none)
    (hholder : ∃ d, fs.entry? l.dropLast = some d ∧ d.isDirectory = true) (node : Node)
    (mode : Nat) : (fs.add l node mode).IsTree := by
  have hwithin := within_add hfree mode node
  refine ⟨fun {m e} hentry hm => ?_⟩
  have hheld : ∃ d, fs.entry? m.dropLast = some d ∧ d.isDirectory = true := by
    by_cases hl : m = l
    · rwa [hl]
    · rw [entry?_add_of_ne fs node mode hl, entry?_stamp, Option.map_eq_some_iff] at hentry
      obtain ⟨e', hentry', -⟩ := hentry
      exact h.held hentry' hm
  obtain ⟨d, hd, hdir⟩ := hheld
  obtain ⟨d', hd', halike⟩ := hwithin.entry hd
  exact ⟨d', hd', halike.isDirectory_eq ▸ hdir⟩

theorem IsTree.remove (h : fs.IsTree) (l : Location) : (fs.remove l).IsTree := by
  refine ⟨fun {m e} hentry hm => ?_⟩
  rw [entry?_remove] at hentry
  split at hentry
  · cases hentry
  · rename_i houtside
    obtain ⟨e', hentry', -⟩ := Option.map_eq_some_iff.mp hentry
    obtain ⟨d, hd, hdir⟩ := h.held hentry' hm
    have hholder : ¬l <+: m.dropLast := fun hbelow =>
      houtside (hbelow.trans (List.dropLast_prefix m))
    rw [entry?_remove, if_neg hholder, hd]
    refine ⟨_, rfl, ?_⟩
    split
    · exact hdir
    · exact hdir

/-! ### Free locations -/

theorem exists_directory_of_searchable (h : fs.searchable l = .ok ()) :
    ∃ d, fs.entry? l = some d ∧ d.isDirectory = true := by
  unfold searchable at h
  cases hentry : fs.entry? l with
  | none => simp [hentry] at h
  | some d =>
    refine ⟨d, rfl, ?_⟩
    cases hdir : d.isDirectory with
    | true => rfl
    | false => simp [hentry, hdir] at h

/-- A location that a look-up finds free is held by a directory. -/
theorem holder_of_walk_free {follow : Bool} {links : Nat} {place : Location} {pieces : List Name}
    {onlyDirectory : Bool} {found : Found}
    (h : fs.walk follow links place pieces onlyDirectory = .ok found)
    (hfree : found.entry? = none) :
    ∃ d, fs.entry? found.location.dropLast = some d ∧ d.isDirectory = true := by
  revert h
  fun_induction FileSystem.walk fs follow links place pieces onlyDirectory with
  | case8 links place onlyDirectory piece hsearch hhere hup hfits next hentry =>
    intro h
    cases h
    simpa [next] using exists_directory_of_searchable hsearch
  | case5 | case6 | case13 | case14 => assumption
  | case3 | case10 =>
    intro h
    cases h
    cases hfree
  | case1 | case2 | case4 | case7 | case9 | case11 | case12 =>
    intro h
    cases h

/-- A new directory is held by a directory, so a tree stays one. -/
theorem IsTree.makeDirectory (h : fs.IsTree) (hmade : fs.makeDirectory p = .ok made) :
    made.IsTree := by
  obtain ⟨l, -, hlocate, -, rfl⟩ := makeDirectory_eq_ok.mp hmade
  exact h.add (entry?_of_locate hlocate) (holder_of_walk_free (locate_eq_ok.mp hlocate).2 rfl) _ _

/-- A path without names leads to no free location, so there is no directory to make for it. -/
theorem makeDirectory_ne_ok_of_ups (hp : ∀ name ∈ p.names, name = Name.up) :
    fs.makeDirectory p ≠ .ok made := by
  intro hmade
  obtain ⟨l, -, hlocate, -, -⟩ := makeDirectory_eq_ok.mp hmade
  have hups : ∀ piece ∈ p.pieces, piece = [.char '.'] ∨ piece = Name.up := by
    intro piece hpiece
    by_cases hstep : Path.isStep piece = true
    · refine .inr (hp piece ?_)
      rw [Path.names_eq_filter_pieces]
      exact List.mem_filter.mpr ⟨hpiece, hstep⟩
    · have hne : piece ≠ [] := by simpa [Path.pieces] using (List.mem_filter.mp hpiece).2
      exact .inl (by simpa [Path.isStep, hne] using hstep)
  have hwalk := (locate_eq_ok.mp hlocate).2
  rw [Path.pieces_withoutSlash] at hwalk
  revert hwalk
  generalize fs.startOf p.withoutSlash = place
  generalize p.withoutSlash.endsInSlash = onlyDirectory
  generalize p.pieces = pieces at hups
  intro hwalk
  induction pieces generalizing place with
  | nil =>
    rw [walk_nil] at hwalk
    split at hwalk
    · cases hwalk
    · split at hwalk <;> cases hwalk
  | cons piece rest ih =>
    obtain ⟨hpiece, hrest⟩ := List.forall_mem_cons.mp hups
    cases hsearch : fs.searchable place with
    | error n =>
      rw [walk_unsearchable hsearch] at hwalk
      cases hwalk
    | ok u =>
      rcases hpiece with rfl | rfl
      · exact ih place hrest (walk_here hsearch ▸ hwalk)
      · exact ih place.dropLast hrest (walk_up hsearch ▸ hwalk)

/-! ### Looking up in two parts -/

/-- A look-up that follows every link arrives somewhere, where a longer one goes on from; or the
longer one is refused as well. -/
theorem walk_append_cases (links : Nat) (place : Location) (front : List Name)
    {rest : List Name} (onlyDirectory : Bool) (hrest : rest ≠ []) :
    (∃ links' l e, fs.walk true links place front onlyDirectory = .ok ⟨l, some e⟩ ∧
        ∀ follow onlyDirectory', fs.walk follow links place (front ++ rest) onlyDirectory' =
          fs.walk follow links' l rest onlyDirectory') ∨
      (∀ l e, fs.walk true links place front onlyDirectory ≠ .ok ⟨l, some e⟩) ∧
        ∃ n, ∀ follow onlyDirectory',
          fs.walk follow links place (front ++ rest) onlyDirectory' = .error n := by
  obtain ⟨piece, others, rfl⟩ := List.exists_cons_of_ne_nil hrest
  fun_induction FileSystem.walk fs true links place front onlyDirectory with
  | case1 links place onlyDirectory hentry =>
    have hsearch : fs.searchable place = .error .noEntry := by simp [searchable, hentry]
    exact .inr ⟨by simp, _, fun _ _ => walk_unsearchable hsearch⟩
  | case2 links place onlyDirectory e hentry hdir =>
    have hdir' : e.isDirectory = false := by simpa using (Bool.and_eq_true_iff.mp hdir).2
    have hsearch : fs.searchable place = .error .notDirectory := by
      simp [searchable, hentry, hdir']
    exact .inr ⟨by simp, _, fun _ _ => walk_unsearchable hsearch⟩
  | case3 links place onlyDirectory e => exact .inl ⟨links, place, e, rfl, fun _ _ => rfl⟩
  | case4 links place onlyDirectory first more n hsearch =>
    exact .inr ⟨by simp, _, fun _ _ => walk_unsearchable hsearch⟩
  | case5 links place onlyDirectory more hsearch ih =>
    simpa only [List.cons_append, walk_here hsearch] using ih
  | case6 links place onlyDirectory more hsearch _ ih =>
    simpa only [List.cons_append, walk_up hsearch] using ih
  | case7 links place onlyDirectory first more hsearch hhere hup hlong =>
    exact .inr ⟨by simp, _, fun _ _ => walk_long hsearch hhere hup hlong⟩
  | case8 links place onlyDirectory first hsearch hhere hup hfits next hentry =>
    refine .inr ⟨by simp, .noEntry, fun _ _ => ?_⟩
    rw [List.singleton_append, walk_missing hsearch ⟨hhere, hup, hfits⟩ hentry, if_neg (by simp)]
  | case9 links place onlyDirectory first more hsearch hhere hup hfits next hentry hmore =>
    refine .inr ⟨by simp, .noEntry, fun _ _ => ?_⟩
    rw [List.cons_append, walk_missing hsearch ⟨hhere, hup, hfits⟩ hentry, if_neg (by simp)]
  | case10 links place onlyDirectory first more hsearch hhere hup hfits next e hentry target hnode
      hstop =>
    simp at hstop
  | case11 place onlyDirectory first more hsearch hhere hup hfits next e hentry target hnode
      hstop =>
    refine .inr ⟨by simp, .linkLoop, fun _ _ => ?_⟩
    rw [List.cons_append, walk_link hsearch ⟨hhere, hup, hfits⟩ hentry hnode]
    simp
  | case12 place onlyDirectory first more hsearch hhere hup hfits next e hentry target hnode hstop
      links htarget =>
    refine .inr ⟨by simp, .noEntry, fun _ _ => ?_⟩
    rw [List.cons_append, walk_link hsearch ⟨hhere, hup, hfits⟩ hentry hnode]
    simp [htarget]
  | case13 place onlyDirectory first more hsearch hhere hup hfits next e hentry target hnode hstop
      links htarget ih =>
    have hmore : more ++ piece :: others ≠ [] := by simp
    simpa only [List.cons_append, walk_link hsearch ⟨hhere, hup, hfits⟩ hentry hnode, hmore,
      decide_false, Bool.false_and, Bool.false_eq_true, if_false, htarget, Bool.or_false,
      List.append_assoc, dite_eq_ite] using ih
  | case14 links place onlyDirectory first more hsearch hhere hup hfits next e hentry hnode ih =>
    simpa only [List.cons_append, walk_on hsearch ⟨hhere, hup, hfits⟩ hentry hnode] using ih

/-- What a look-up that follows every link arrives at is where a longer one goes on from. -/
theorem walk_append {links : Nat} {place : Location} {front rest : List Name}
    {onlyDirectory : Bool} {e : Entry} (hrest : rest ≠ [])
    (h : fs.walk true links place front onlyDirectory = .ok ⟨l, some e⟩) :
    ∃ links', ∀ follow onlyDirectory',
      fs.walk follow links place (front ++ rest) onlyDirectory' =
        fs.walk follow links' l rest onlyDirectory' := by
  rcases fs.walk_append_cases links place front onlyDirectory hrest with
    ⟨links', l', e', hfront, hlater⟩ | ⟨hnowhere, -⟩
  · cases h.symm.trans hfront
    exact ⟨links', hlater⟩
  · exact absurd h (hnowhere l e)

/-- A look-up that goes on behind a path goes on from somewhere. -/
theorem exists_of_walk_append {follow : Bool} {links : Nat} {place : Location}
    {front rest : List Name} {onlyDirectory' : Bool} {found : Found} (onlyDirectory : Bool)
    (hrest : rest ≠ [])
    (h : fs.walk follow links place (front ++ rest) onlyDirectory' = .ok found) :
    ∃ l e, fs.walk true links place front onlyDirectory = .ok ⟨l, some e⟩ := by
  rcases fs.walk_append_cases links place front onlyDirectory hrest with
    ⟨links', l, e, hfront, -⟩ | ⟨-, n, hrefused⟩
  · exact ⟨l, e, hfront⟩
  · rw [hrefused] at h
    cases h

/-- Down from a directory that holds nothing there is nothing to find. -/
theorem walk_empty_ne_ok {follow : Bool} {links : Nat} {top : Location} {rest : List Name}
    {onlyDirectory : Bool} {e : Entry}
    (hempty : ∀ {m}, top <+: m → m ≠ top → fs.entry? m = none) (hup : Name.up ∉ rest)
    (hstep : ∃ piece ∈ rest, Path.isStep piece = true) :
    fs.walk follow links top rest onlyDirectory ≠ .ok ⟨l, some e⟩ := by
  intro h
  induction rest with
  | nil => simp at hstep
  | cons piece rest ih =>
    obtain ⟨hpiece, hrest⟩ := not_or.mp (List.mem_cons.not.mp hup)
    cases hsearch : fs.searchable top with
    | error n =>
      rw [walk_unsearchable hsearch] at h
      cases h
    | ok u =>
      by_cases hhere : piece = [.char '.']
      · subst hhere
        rw [walk_here hsearch] at h
        refine ih hrest ?_ h
        obtain ⟨step, hmem, hstep⟩ := hstep
        rcases List.mem_cons.mp hmem with rfl | hmem
        · simp [Path.isStep] at hstep
        · exact ⟨step, hmem, hstep⟩
      · by_cases hfits : (Name.bytes piece).length > nameLimit
        · rw [walk_long hsearch hhere (Ne.symm hpiece) hfits] at h
          cases h
        · have hnone : fs.entry? (top ++ [piece]) = none :=
            hempty (List.prefix_append top [piece]) (by simp)
          rw [walk_missing hsearch ⟨hhere, Ne.symm hpiece, hfits⟩ hnone] at h
          split at h <;> cases h

/-! ### Making a directory and its ancestors -/

/-- For a path without names nothing is made. -/
theorem eq_of_makeDirectoriesFuel_of_ups {n : Nat} {outcome : Except IoError Unit}
    (hp : ∀ name ∈ p.names, name = Name.up) (h : makeDirectoriesFuel n fs p = (outcome, made)) :
    made = fs := by
  refine makeDirectoriesFuel_preserves (motive := fun gs => gs = fs) ?_ rfl h
  intro gs gs' q habove _ hmade
  exact absurd hmade (makeDirectory_ne_ok_of_ups fun name hname => hp name (habove.mem_names hname))

/-- All that differs once directories were made: those directories, each of a path above the one
that was asked for, and the time stamps of the directories that hold them. -/
structure MakesAbove (p : Path) (fs gs : FileSystem) : Prop where
  here : gs.here = fs.here
  kept : ∀ {l e}, fs.entry? l = some e → gs.entry? l = some e ∨
    e.isDirectory = true ∧ (∃ t, gs.entry? l = some { e with modified := t }) ∧
      ∃ name, fs.entry? (l ++ [name]) = none ∧ gs.entry? (l ++ [name]) ≠ none
  fresh : ∀ {l e}, gs.entry? l = some e → fs.entry? l = none →
    e.node = .directory ∧ e.mode = directoryMode ∧
      ∃ q : Path, q.IsAbove p ∧ ∃ e', gs.locate q.withoutSlash false = .ok ⟨l, some e'⟩

namespace MakesAbove

theorem refl (p : Path) (fs : FileSystem) : MakesAbove p fs fs := by
  refine ⟨rfl, .inl, fun hsome hnone => ?_⟩
  rw [hnone] at hsome
  cases hsome

theorem entry?_eq_none (h : MakesAbove p fs gs) (hfree : gs.entry? l = none) :
    fs.entry? l = none := by
  cases hentry : fs.entry? l with
  | none => rfl
  | some e =>
    rcases h.kept hentry with hsame | ⟨-, ⟨t, hstamped⟩, -⟩
    · rw [hfree] at hsame
      cases hsame
    · rw [hfree] at hstamped
      cases hstamped

theorem makeDirectory (h : MakesAbove p fs gs) {q : Path} (habove : q.IsAbove p)
    (hmade : gs.makeDirectory q = .ok made) : MakesAbove p fs made := by
  obtain ⟨m, -, hlocate, -, rfl⟩ := makeDirectory_eq_ok.mp hmade
  have hfree := entry?_of_locate hlocate
  have hwithin := within_add hfree directoryMode .directory
  obtain ⟨d, hd, hdir⟩ := holder_of_walk_free (locate_eq_ok.mp hlocate).2 rfl
  have hroot : m ≠ [] := by
    rintro rfl
    rw [List.dropLast_nil, hfree] at hd
    cases hd
  have hstays : ∀ {k}, gs.entry? k ≠ none →
      FileSystem.entry? (gs.add m .directory directoryMode) k ≠ none :=
    fun hthere hnone => hthere (hwithin.entry?_eq_none hnone)
  refine ⟨h.here, fun {l e} hentry => ?_, fun {l e} hentry hnone => ?_⟩
  · have hne : l ≠ m := by
      rintro rfl
      rw [h.entry?_eq_none hfree] at hentry
      cases hentry
    rw [entry?_add_of_ne gs _ _ hne, entry?_stamp]
    by_cases hl : l = m.dropLast
    · -- The directory that holds the new one gets a new stamp, whatever it had before.
      have hm : l ++ [m.getLast hroot] = m := by rw [hl, List.dropLast_append_getLast]
      have hholds : ∃ name, fs.entry? (l ++ [name]) = none ∧
          FileSystem.entry? (gs.add m .directory directoryMode) (l ++ [name]) ≠ none := by
        refine ⟨m.getLast hroot, ?_, ?_⟩
        · rw [hm]
          exact h.entry?_eq_none hfree
        · rw [hm, entry?_add_self]
          exact Option.some_ne_none _
      rcases h.kept hentry with hsame | ⟨he, ⟨t, hstamped⟩, -⟩
      · have hsame' := hsame
        rw [hl, hd] at hsame'
        cases hsame'
        exact .inr ⟨hdir, ⟨gs.now, by rw [hsame, Option.map_some, if_pos hl]⟩, hholds⟩
      · exact .inr ⟨he, ⟨gs.now, by rw [hstamped, Option.map_some, if_pos hl]⟩, hholds⟩
    · simp only [if_neg hl]
      rcases h.kept hentry with hsame | ⟨he, ⟨t, hstamped⟩, name, hbefore, hafter⟩
      · exact .inl (by rw [hsame]; rfl)
      · exact .inr ⟨he, ⟨t, by rw [hstamped]; rfl⟩, name, hbefore, hstays hafter⟩
  · by_cases hl : l = m
    · subst hl
      rw [entry?_add_self] at hentry
      cases hentry
      have hfound := hwithin.locate_free hlocate
      rw [entry?_add_self] at hfound
      exact ⟨rfl, rfl, q, habove, _, hfound⟩
    · rw [entry?_add_of_ne gs _ _ hl, entry?_stamp, Option.map_eq_some_iff] at hentry
      obtain ⟨own, hown, rfl⟩ := hentry
      obtain ⟨hnode, hmode, q', habove', other, hfound⟩ := h.fresh hown hnone
      obtain ⟨found, hfound', -⟩ := hwithin.locate_found hfound
      refine ⟨?_, ?_, q', habove', found, hfound'⟩
      · split
        · exact hnode
        · exact hnode
      · split
        · exact hmode
        · exact hmode

end MakesAbove

theorem makesAbove_of_makeDirectoriesFuel {n : Nat} {outcome : Except IoError Unit}
    (h : makeDirectoriesFuel n fs p = (outcome, made)) : MakesAbove p fs made :=
  makeDirectoriesFuel_preserves (motive := MakesAbove p fs)
    (fun habove hgs hmade => hgs.makeDirectory habove hmade) (.refl p fs) h

/-- A path leads to a new directory that holds nothing. -/
structure IsNewAt (fs made : FileSystem) (p : Path) (top : Location) : Prop where
  leads : ∃ e, made.locate p.withoutSlash false = .ok ⟨top, some e⟩ ∧ e.isDirectory = true
  free : fs.entry? top = none
  holdsNothing : ∀ {m}, top <+: m → m ≠ top → made.entry? m = none

theorem isNewAt_of_makeDirectory (htree : gs.IsTree) (hwithin : fs.Within gs)
    (h : gs.makeDirectory p = .ok made) : ∃ top, IsNewAt fs made p top := by
  obtain ⟨top, -, hlocate, -, rfl⟩ := makeDirectory_eq_ok.mp h
  have hfree := entry?_of_locate hlocate
  have hfound := (within_add hfree directoryMode .directory).locate_free hlocate
  rw [entry?_add_self] at hfound
  refine ⟨top, ⟨_, hfound, rfl⟩, hwithin.entry?_eq_none hfree, fun {m} hbelow hne => ?_⟩
  rw [entry?_add_of_ne gs _ _ hne, entry?_stamp, htree.entry?_eq_none hfree hbelow]
  rfl

/-- A path that does not climb leads to a new directory that holds nothing once it was made with its
ancestors, unless nothing had to be made. -/
theorem eq_or_isNewAt_of_makeDirectoriesFuel {n : Nat} (htree : fs.IsTree)
    (hp : p.climbs = false) (h : makeDirectoriesFuel n fs p = (.ok (), made)) :
    made = fs ∨ ∃ top, IsNewAt fs made p top := by
  induction n generalizing p made with
  | zero => cases h
  | succ n ih =>
    cases hempty : p.isEmpty with
    | true =>
      rw [makeDirectoriesFuel, if_pos hempty] at h
      cases h
      exact .inl rfl
    | false =>
      rcases (makeDirectoriesFuel_eq_ok hempty).mp h with hmade | ⟨-, -, -, -, rfl⟩ |
        ⟨hmissing, parent, between, hparent, hbetween, hlast⟩
      · exact .inr (isNewAt_of_makeDirectory htree (.refl fs) hmade)
      · exact .inl rfl
      have htree' : between.IsTree :=
        makeDirectoriesFuel_preserves (fun _ h hmade => h.makeDirectory hmade) htree hbetween
      rcases hlast with hmade | ⟨-, hdir, rfl⟩
      · have hgrown := (addsDirectories_of_makeDirectoriesFuel hbetween).within
        exact .inr (isNewAt_of_makeDirectory htree' hgrown hmade)
      -- The path led to a directory as soon as its parent was made, which is possible only if
      -- nothing was made: a new parent holds nothing.
      refine .inl ?_
      cases hparentEmpty : parent.isEmpty with
      | true =>
        cases n with
        | zero => cases hbetween
        | succ n =>
          rw [makeDirectoriesFuel, if_pos hparentEmpty] at hbetween
          cases hbetween
          rfl
      | false =>
        obtain ⟨hparentDescends, rest, hrest, hstep, hups | hdown⟩ :=
          Path.descends_of_parent? hparent hparentEmpty hp
        · exact eq_of_makeDirectoriesFuel_of_ups hups hbetween
        · rcases ih hparentDescends hbetween with heq | ⟨top, ⟨e, hlocate, he⟩, -, hnothing⟩
          · exact heq
          · obtain ⟨l, e', hstatus, -⟩ := exists_status_of_isDirectory hdir
            have hwalk := (locate_eq_ok.mp (find_eq_ok.mp hstatus)).2
            have hwalkParent := (locate_eq_ok.mp hlocate).2
            rw [Path.pieces_withoutSlash, startOf_withoutSlash] at hwalkParent
            have hstart : made.startOf p = made.startOf parent := by
              rw [startOf, startOf, Path.isAbsolute_of_parent? hparent hparentEmpty]
            have hne : rest ≠ [] := by
              rintro rfl
              simp at hstep
            have hfollowed : made.walk true linkLimit (made.startOf parent) parent.pieces false =
                .ok ⟨top, some e⟩ :=
              walk_directory he (fun _ => .inl rfl) hwalkParent
            obtain ⟨links, hlater⟩ := walk_append hne hfollowed
            rw [hrest, hstart, hlater] at hwalk
            exact absurd hwalk (walk_empty_ne_ok hnothing hdown hstep)

end Launchpad.FileSystem
