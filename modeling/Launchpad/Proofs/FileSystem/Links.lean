import Launchpad.Proofs.FileSystem.Lookup
import Launchpad.Proofs.Path.Parts

/-!
How many links a look-up follows, and what single dots on the way matter. With more links to follow
a look-up answers the same, with fewer it may be refused as a loop. Two look-ups along the same
names never answer with two different places.
-/

namespace Launchpad.FileSystem

variable {fs : FileSystem} {follow : Bool} {links : Nat} {place l : Location}
  {pieces front rest : List Name} {onlyDirectory : Bool} {found : Found} {e : Entry}

/-- A look-up that is answered is answered the same with any number of links to follow, unless there
are too few of them. -/
theorem walk_of_walk (h : fs.walk follow links place pieces onlyDirectory = .ok found)
    (links' : Nat) :
    fs.walk follow links' place pieces onlyDirectory = .ok found ∨
      links' < links ∧ fs.walk follow links' place pieces onlyDirectory = .error .linkLoop := by
  revert h
  fun_induction FileSystem.walk fs follow links place pieces onlyDirectory generalizing links' with
  | case5 links place onlyDirectory rest hsearch ih =>
    intro h
    rw [walk_here hsearch]
    exact ih links' h
  | case6 links place onlyDirectory rest hsearch _ ih =>
    intro h
    rw [walk_up hsearch]
    exact ih links' h
  | case10 links place onlyDirectory piece rest hsearch hhere hup hfits next e hentry target hnode
      hstop =>
    intro h
    rw [walk_link hsearch ⟨hhere, hup, hfits⟩ hentry hnode, if_pos hstop]
    exact .inl h
  | case13 place onlyDirectory piece rest hsearch hhere hup hfits next e hentry target hnode hstop
      links htarget ih =>
    intro h
    rw [walk_link hsearch ⟨hhere, hup, hfits⟩ hentry hnode, if_neg hstop]
    -- Only here a link is spent: the other budget has one too, or this is where it runs out.
    cases links' with
    | zero => exact .inr ⟨Nat.succ_pos links, rfl⟩
    | succ links' =>
      simp only [htarget, Bool.false_eq_true, if_false]
      rw [dite_eq_ite] at ih
      rcases ih links' h with hsame | ⟨hfewer, hloop⟩
      · exact .inl hsame
      · exact .inr ⟨Nat.succ_lt_succ hfewer, hloop⟩
  | case14 links place onlyDirectory piece rest hsearch hhere hup hfits next e hentry hnode ih =>
    intro h
    rw [walk_on hsearch ⟨hhere, hup, hfits⟩ hentry hnode]
    exact ih links' h
  | case3 links place onlyDirectory e hentry hdir =>
    intro h
    refine .inl ?_
    simp only [walk_nil, hentry, if_neg hdir]
    exact h
  | case8 links place onlyDirectory piece hsearch hhere hup hfits next hentry =>
    intro h
    refine .inl ?_
    simpa only [walk_missing hsearch ⟨hhere, hup, hfits⟩ hentry, if_true] using h
  | case1 | case2 | case4 | case7 | case9 | case11 | case12 =>
    intro h
    cases h

/-- Where a look-up arrives, a longer one goes on, and with it the links that were left over and
those that are allowed beyond. -/
theorem walk_append_extra (hrest : rest ≠ [])
    (h : fs.walk true links place front onlyDirectory = .ok ⟨l, some e⟩) :
    ∃ left ≤ links, ∀ extra follow onlyDirectory',
      fs.walk follow (links + extra) place (front ++ rest) onlyDirectory' =
        fs.walk follow (left + extra) l rest onlyDirectory' := by
  revert h
  fun_induction FileSystem.walk fs true links place front onlyDirectory with
  | case3 links place onlyDirectory e hentry hdir =>
    intro h
    cases h
    exact ⟨links, le_refl links, fun _ _ _ => rfl⟩
  | case5 links place onlyDirectory more hsearch ih =>
    intro h
    simpa only [List.cons_append, walk_here hsearch] using ih h
  | case6 links place onlyDirectory more hsearch _ ih =>
    intro h
    simpa only [List.cons_append, walk_up hsearch] using ih h
  | case10 links place onlyDirectory first more hsearch hhere hup hfits next e hentry target hnode
      hstop =>
    simp at hstop
  | case13 place onlyDirectory first more hsearch hhere hup hfits next e hentry target hnode hstop
      links htarget ih =>
    intro h
    obtain ⟨left, hleft, hlater⟩ := ih h
    refine ⟨left, Nat.le_succ_of_le hleft, fun extra follow onlyDirectory' => ?_⟩
    have hmore : more ++ rest ≠ [] := by simp [hrest]
    rw [← hlater extra follow onlyDirectory', List.cons_append,
      walk_link hsearch ⟨hhere, hup, hfits⟩ hentry hnode, Nat.succ_add]
    simp [hmore, htarget]
  | case14 links place onlyDirectory first more hsearch hhere hup hfits next e hentry hnode ih =>
    intro h
    simpa only [List.cons_append, walk_on hsearch ⟨hhere, hup, hfits⟩ hentry hnode] using ih h
  | case8 links place onlyDirectory first hsearch hhere hup hfits next hentry =>
    intro h
    simp at h
  | case1 | case2 | case4 | case7 | case9 | case11 | case12 =>
    intro h
    cases h

/-! ### Single dots -/

/-- Pieces that are no single dots. -/
def isNotHere (piece : Name) : Bool := piece ≠ [.char '.']

/-- Single dots in front do not change where a look-up arrives. -/
theorem walk_of_filter_eq {piece : Name} {more : List Name}
    (h : fs.walk follow links place pieces onlyDirectory = .ok found)
    (hpieces : pieces.filter isNotHere = piece :: more) :
    ∃ rest, rest.filter isNotHere = more ∧
      fs.walk follow links place (piece :: rest) onlyDirectory = .ok found := by
  induction pieces with
  | nil => cases hpieces
  | cons first pieces ih =>
    rw [List.filter_cons] at hpieces
    split at hpieces
    · cases hpieces
      exact ⟨pieces, rfl, h⟩
    · rename_i hhere
      have hdot : first = [.char '.'] := by simpa [isNotHere] using hhere
      subst hdot
      cases hsearch : fs.searchable place with
      | error n =>
        rw [walk_unsearchable hsearch] at h
        cases h
      | ok u =>
        rw [walk_here hsearch] at h
        exact ih h hpieces

/-- Along single dots alone a look-up stays where it is. -/
theorem walk_nil_of_filter_eq (h : fs.walk follow links place pieces onlyDirectory = .ok found)
    (hpieces : pieces.filter isNotHere = []) :
    fs.walk follow links place [] onlyDirectory = .ok found ∧
      (pieces ≠ [] → fs.searchable place = .ok ()) := by
  induction pieces with
  | nil => exact ⟨h, fun hne => absurd rfl hne⟩
  | cons first pieces ih =>
    rw [List.filter_cons] at hpieces
    split at hpieces
    · cases hpieces
    · rename_i hhere
      have hdot : first = [.char '.'] := by simpa [isNotHere] using hhere
      subst hdot
      cases hsearch : fs.searchable place with
      | error n =>
        rw [walk_unsearchable hsearch] at h
        cases h
      | ok u =>
        rw [walk_here hsearch] at h
        exact ⟨(ih h hpieces).1, fun _ => rfl⟩

theorem eq_of_walk_nil (h : fs.walk follow links place [] onlyDirectory = .ok found) :
    found = ⟨place, fs.entry? place⟩ := by
  rw [walk_nil] at h
  cases hentry : fs.entry? place with
  | none => simp [hentry] at h
  | some e =>
    simp only [hentry] at h
    split at h
    · cases h
    · cases h
      rfl

/-- Two look-ups that follow every link along the same pieces, single dots aside, are answered with
the same if they are answered at all. -/
theorem walk_unique {links' : Nat} {pieces' : List Name} {onlyDirectory' : Bool} {found' : Found}
    (hpieces : pieces.filter isNotHere = pieces'.filter isNotHere)
    (h : fs.walk true links place pieces onlyDirectory = .ok found)
    (h' : fs.walk true links' place pieces' onlyDirectory' = .ok found') : found = found' := by
  revert h
  fun_induction FileSystem.walk fs true links place pieces onlyDirectory
    generalizing links' pieces' onlyDirectory'
  -- The first look-up sets the pace. Where it takes a step, the second one passes its own dots and
  -- then has the same piece in front of it; behind a link both have the target in front of them.
  case case3 links place onlyDirectory e hentry hdir =>
    intro h
    cases h
    have hstays := eq_of_walk_nil (walk_nil_of_filter_eq h' hpieces.symm).1
    rw [hstays, hentry]
  case case5 links place onlyDirectory rest hsearch ih =>
    intro h
    exact ih hpieces h' h
  case case6 links place onlyDirectory rest hsearch _ ih =>
    intro h
    rw [List.filter_cons, if_pos (by decide)] at hpieces
    obtain ⟨rest', hrest, h'⟩ := walk_of_filter_eq h' hpieces.symm
    rw [walk_up hsearch] at h'
    exact ih hrest.symm h' h
  case case8 links place onlyDirectory piece hsearch hhere hup hfits next hentry =>
    intro h
    cases h
    rw [List.filter_cons, if_pos (by simpa [isNotHere] using hhere)] at hpieces
    obtain ⟨rest', hrest, h'⟩ := walk_of_filter_eq h' hpieces.symm
    rw [walk_missing hsearch ⟨hhere, hup, hfits⟩ hentry] at h'
    split at h'
    · cases h'
      rfl
    · cases h'
  case case10 links place onlyDirectory piece rest hsearch hhere hup hfits next e hentry target
      hnode hstop =>
    simp at hstop
  case case13 place onlyDirectory piece rest hsearch hhere hup hfits next e hentry target hnode
      hstop links htarget ih =>
    intro h
    rw [List.filter_cons, if_pos (by simpa [isNotHere] using hhere)] at hpieces
    obtain ⟨rest', hrest, h'⟩ := walk_of_filter_eq h' hpieces.symm
    rw [walk_link hsearch ⟨hhere, hup, hfits⟩ hentry hnode] at h'
    simp only [Bool.not_true, Bool.and_false, Bool.false_and, Bool.false_eq_true, if_false] at h'
    cases links' with
    | zero => cases h'
    | succ links' =>
      simp only [htarget, Bool.false_eq_true, if_false] at h'
      refine ih ?_ h' h
      rw [List.filter_append, List.filter_append, hrest]
  case case14 links place onlyDirectory piece rest hsearch hhere hup hfits next e hentry hnode ih =>
    intro h
    rw [List.filter_cons, if_pos (by simpa [isNotHere] using hhere)] at hpieces
    obtain ⟨rest', hrest, h'⟩ := walk_of_filter_eq h' hpieces.symm
    rw [walk_on hsearch ⟨hhere, hup, hfits⟩ hentry hnode] at h'
    exact ih hrest.symm h' h
  all_goals
    intro h
    cases h

/-! ### Paths from the working directory -/

theorem filter_isNotHere_pieces (p : Path) : p.pieces.filter isNotHere = p.names := by
  rw [Path.names_eq_filter_pieces]
  refine List.filter_congr fun piece hpiece => ?_
  have hne : piece ≠ [] := by simpa [Path.pieces] using (List.mem_filter.mp hpiece).2
  simp [isNotHere, Path.isStep, hne]

/-- An absolute path leads to the working directory. How long it is and how many links it goes
through does not matter. -/
structure IsHere (fs : FileSystem) (base : Path) : Prop where
  isAbsolute : base.isAbsolute = true
  isWhole : .char '\x00' ∉ base.glyphs
  leads : ∃ links e, fs.walk true links [] base.pieces base.endsInSlash = .ok ⟨fs.here, some e⟩

/-- It does so without a link on the way. -/
def IsDirectlyHere (fs : FileSystem) (base : Path) : Prop :=
  ∃ e, fs.walk true 0 [] base.pieces base.endsInSlash = .ok ⟨fs.here, some e⟩

/-- A path that is understood from the directory `base` names what another one names: the parts are
the same, and from there the two never lead to different places. -/
structure SameFile (base p q : Path) : Prop where
  parts : Path.SameParts (base.join p) q
  found : ∀ {fs : FileSystem}, fs.IsHere base → ∀ {x y : Location × Entry},
    fs.status p = .ok x → fs.status q = .ok y → x = y

section

variable {base p q : Path}

/-- Behind the way to the working directory a relative path goes on as it does from there. -/
theorem IsHere.walk_join (hbase : fs.IsHere base) (hp : p.isAbsolute = false)
    (hempty : p.isEmpty = false)
    (hwalk : fs.walk true links fs.here p.pieces onlyDirectory = .ok found) :
    ∃ links', fs.walk true links' [] (base.join p).pieces onlyDirectory = .ok found := by
  obtain ⟨used, e, hleads⟩ := hbase.leads
  obtain ⟨left, -, hlater⟩ := walk_append_extra (Path.pieces_ne_nil hp hempty) hleads
  refine ⟨used + links, ?_⟩
  rw [Path.pieces_join base hp, hlater]
  rcases walk_of_walk hwalk (left + links) with hsame | ⟨hfewer, -⟩
  · exact hsame
  · omega

theorem walk_of_status {x : Location × Entry} (h : fs.status p = .ok x) :
    isSought p ∧
      fs.walk true linkLimit (fs.startOf p) p.pieces p.endsInSlash = .ok ⟨x.1, some x.2⟩ :=
  locate_eq_ok.mp (find_eq_ok.mp h)

/-- Paths with the same parts never lead to two different places. -/
theorem sameFile_of_sameParts (hbase : base.isAbsolute = true)
    (h : Path.SameParts (base.join p) q) : SameFile base p q := by
  refine ⟨h, fun {fs} hhere {x y} hx hy => ?_⟩
  obtain ⟨hp, hwalk⟩ := walk_of_status hx
  obtain ⟨hq, hwalk'⟩ := walk_of_status hy
  have hroot : fs.startOf q = [] := by
    rw [startOf, ← h.isAbsolute, Path.isAbsolute_join, hbase, Bool.or_true, if_pos rfl]
  have hpieces : (base.join p).pieces.filter isNotHere = q.pieces.filter isNotHere := by
    rw [filter_isNotHere_pieces, filter_isNotHere_pieces, h.names]
  obtain ⟨links, hjoined⟩ : ∃ links,
      fs.walk true links [] (base.join p).pieces p.endsInSlash = .ok ⟨x.1, some x.2⟩ := by
    cases habsolute : p.isAbsolute with
    | true =>
      rw [startOf, habsolute, if_pos rfl] at hwalk
      rw [Path.join_of_isAbsolute base habsolute]
      exact ⟨_, hwalk⟩
    | false =>
      rw [startOf, habsolute, if_neg (by simp)] at hwalk
      exact hhere.walk_join habsolute (by simpa using hp.2.1) hwalk
  rw [hroot] at hwalk'
  have hsame := walk_unique hpieces hjoined hwalk'
  simp only [Found.mk.injEq, Option.some.injEq] at hsame
  exact Prod.ext hsame.1 hsame.2

/-- What a relative path names, it names behind the name of the working directory, unless it gets
too long by that or has too many links to follow. -/
theorem IsHere.status_join (hbase : fs.IsHere base) (hp : p.isAbsolute = false)
    {x : Location × Entry} (h : fs.status p = .ok x) :
    (pathLimit < (base.join p).bytes.length →
      fs.status (base.join p) = .error (.os .nameTooLong)) ∧
    ((base.join p).bytes.length ≤ pathLimit →
      fs.status (base.join p) = .ok x ∨
        ¬fs.IsDirectlyHere base ∧ fs.status (base.join p) = .error (.os .linkLoop)) := by
  obtain ⟨hsought, hwalk⟩ := walk_of_status h
  rw [startOf, hp, if_neg (by simp)] at hwalk
  have hnul : ¬(base.join p).glyphs.contains (.char '\x00') = true := by
    rw [List.contains_iff_mem, Path.mem_glyphs_join hp (by decide), not_or]
    exact ⟨hbase.isWhole, fun hmem => hsought.1 (List.contains_iff_mem.mpr hmem)⟩
  have hempty : p.isEmpty = false := by simpa using hsought.2.1
  have hsome : ¬(base.join p).isEmpty = true := by
    intro hnone
    have hglyphs : (base.join p).glyphs = [] := List.isEmpty_iff.mp hnone
    have habsolute : (base.join p).isAbsolute = true := by
      rw [Path.isAbsolute_join, hp, hbase.isAbsolute]
      rfl
    simp [Path.isAbsolute, hglyphs] at habsolute
  constructor
  · intro hlong
    rw [status, find, locate, if_neg hnul, if_neg hsome, if_pos hlong]
    rfl
  · intro hfits
    have hjoined : isSought (base.join p) := ⟨hnul, hsome, Nat.not_lt.mpr hfits⟩
    have hroot : fs.startOf (base.join p) = [] := by
      rw [startOf, Path.isAbsolute_join, hp, hbase.isAbsolute]
      rfl
    have hlocate : fs.locate (base.join p) true = _ := locate_of_isSought hjoined true
    rw [hroot, Path.endsInSlash_join base hp hempty] at hlocate
    obtain ⟨links, hlinks⟩ := hbase.walk_join hp hempty hwalk
    rcases walk_of_walk hlinks linkLimit with hsame | ⟨-, hloop⟩
    · rw [status, find, hlocate, hsame]
      exact .inl rfl
    · refine .inr ⟨?_, by rw [status, find, hlocate, hloop]; rfl⟩
      -- Without a link in front, all the links that are allowed are left for the relative path.
      rintro ⟨e, hplain⟩
      obtain ⟨left, hleft, hlater⟩ := walk_append_extra (Path.pieces_ne_nil hp hempty) hplain
      have hsame := hlater linkLimit true p.endsInSlash
      rw [Nat.le_zero.mp hleft, ← Path.pieces_join base hp, Nat.zero_add, hloop, hwalk] at hsame
      cases hsame

end

end Launchpad.FileSystem
