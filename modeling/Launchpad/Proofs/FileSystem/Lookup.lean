import Launchpad.Proofs.FileSystem.Walk
import Launchpad.Proofs.Path.Pieces
import Launchpad.Proofs.Results

/-!
What a look-up arrives at. It answers with what stands at the place it arrives at, and a directory
that it arrives at without following a last link it arrives at in any way.
-/

namespace Launchpad.FileSystem

open Results

variable {fs : FileSystem} {p : Path}

/-- The entry that a look-up answers with is the one at the place it answers with. -/
theorem entry?_of_walk {follow : Bool} {links : Nat} {place : Location} {pieces : List Name}
    {onlyDirectory : Bool} {found : Found}
    (h : fs.walk follow links place pieces onlyDirectory = .ok found) :
    fs.entry? found.location = found.entry? := by
  revert h
  fun_induction FileSystem.walk fs follow links place pieces onlyDirectory with
  | case3 links place onlyDirectory e hentry =>
    intro h
    cases h
    exact hentry
  | case8 links place onlyDirectory piece hsearch hhere hup hfits next hentry =>
    intro h
    cases h
    exact hentry
  | case10 links place onlyDirectory piece rest hsearch hhere hup hfits next e hentry =>
    intro h
    cases h
    exact hentry
  | case5 | case6 | case13 | case14 => assumption
  | case1 | case2 | case4 | case7 | case9 | case11 | case12 =>
    intro h
    cases h

/-- What is found by following every link is there without following the last one, be it the link
itself. -/
theorem walk_unfollowed {links : Nat} {place : Location} {pieces : List Name}
    {onlyDirectory : Bool} {l : Location} {e : Entry} :
    ∀ {onlyDirectory' : Bool}, (onlyDirectory' = true → onlyDirectory = true) →
      fs.walk true links place pieces onlyDirectory = .ok ⟨l, some e⟩ →
      ∃ l' e', fs.walk false links place pieces onlyDirectory' = .ok ⟨l', some e'⟩ := by
  fun_induction FileSystem.walk fs true links place pieces onlyDirectory
  case case3 links place onlyDirectory e' hentry hdir =>
    intro onlyDirectory' hless _
    refine ⟨place, e', ?_⟩
    have hdir' : (onlyDirectory' && !e'.isDirectory) = false := by
      cases onlyDirectory' with
      | false => rfl
      | true => simpa [hless rfl] using hdir
    simp only [walk_nil, hentry, hdir', Bool.false_eq_true, if_false]
  case case5 links place onlyDirectory rest hsearch ih =>
    intro onlyDirectory' hless h
    rw [walk_here hsearch]
    exact ih hless h
  case case6 links place onlyDirectory rest hsearch _ ih =>
    intro onlyDirectory' hless h
    rw [walk_up hsearch]
    exact ih hless h
  case case10 links place onlyDirectory piece rest hsearch hhere hup hfits next e' hentry target
      hnode hstop =>
    simp at hstop
  case case13 place onlyDirectory piece rest hsearch hhere hup hfits next e' hentry target hnode
      hstop links htarget ih =>
    intro onlyDirectory' hless h
    rw [walk_link hsearch ⟨hhere, hup, hfits⟩ hentry hnode]
    split
    · exact ⟨_, _, rfl⟩
    · refine ih (fun hany => ?_) h
      rcases Bool.or_eq_true_iff.mp hany with hany | hslash
      · simp [hless hany]
      · simp [hslash]
  case case14 links place onlyDirectory piece rest hsearch hhere hup hfits next e' hentry hnode
      ih =>
    intro onlyDirectory' hless h
    rw [walk_on hsearch ⟨hhere, hup, hfits⟩ hentry hnode]
    exact ih hless h
  all_goals
    intro _ _ h
    simp at h

/-- A directory that is found without following a last link is found in every way that follows no
less. -/
theorem walk_directory {links : Nat} {place : Location} {pieces : List Name}
    {onlyDirectory follow : Bool} {l : Location} {e : Entry} (he : e.isDirectory = true) :
    ∀ {onlyDirectory' : Bool}, (onlyDirectory = true → follow = true ∨ onlyDirectory' = true) →
      fs.walk false links place pieces onlyDirectory = .ok ⟨l, some e⟩ →
      fs.walk follow links place pieces onlyDirectory' = .ok ⟨l, some e⟩ := by
  fun_induction FileSystem.walk fs false links place pieces onlyDirectory
  case case3 links place onlyDirectory e' hentry hdir =>
    intro onlyDirectory' hmore h
    cases h
    simp [walk_nil, hentry, he]
  case case5 links place onlyDirectory rest hsearch ih =>
    intro onlyDirectory' hmore h
    rw [walk_here hsearch]
    exact ih hmore h
  case case6 links place onlyDirectory rest hsearch _ ih =>
    intro onlyDirectory' hmore h
    rw [walk_up hsearch]
    exact ih hmore h
  case case10 links place onlyDirectory piece rest hsearch hhere hup hfits next e' hentry target
      hnode hstop =>
    intro onlyDirectory' hmore h
    simp only [Except.ok.injEq, Found.mk.injEq, Option.some.injEq] at h
    rw [← h.2] at he
    simp [Entry.isDirectory, hnode] at he
  case case13 place onlyDirectory piece rest hsearch hhere hup hfits next e' hentry target hnode
      hstop links htarget ih =>
    intro onlyDirectory' hmore h
    have hgoes : ¬(rest = [] && !follow && !onlyDirectory') = true := by
      intro hends
      simp only [Bool.and_eq_true, decide_eq_true_eq, Bool.not_eq_true'] at hends
      obtain ⟨⟨hrest, hfollow'⟩, hany'⟩ := hends
      have hany : onlyDirectory = true := by
        simpa [hrest] using hstop
      rcases hmore hany with h' | h'
      · rw [hfollow'] at h'
        cases h'
      · rw [hany'] at h'
        cases h'
    rw [walk_link hsearch ⟨hhere, hup, hfits⟩ hentry hnode, if_neg hgoes]
    simp only [htarget, Bool.false_eq_true, if_false]
    refine ih (fun hany => ?_) h
    rcases Bool.or_eq_true_iff.mp hany with hany | hslash
    · rcases hmore hany with h' | h'
      · exact .inl h'
      · exact .inr (by simp [h'])
    · exact .inr (by simp [hslash])
  case case14 links place onlyDirectory piece rest hsearch hhere hup hfits next e' hentry hnode
      ih =>
    intro onlyDirectory' hmore h
    rw [walk_on hsearch ⟨hhere, hup, hfits⟩ hentry hnode]
    exact ih hmore h
  all_goals
    intro _ _ h
    simp at h

/-! ### Look-ups of paths -/

/-- The paths that are looked up at all. The others are refused whatever there is. -/
def isSought (p : Path) : Prop :=
  ¬p.glyphs.contains (.char '\x00') ∧ ¬p.isEmpty ∧ ¬p.bytes.length > pathLimit

def startOf (fs : FileSystem) (p : Path) : Location :=
  if p.isAbsolute then [] else fs.here

theorem locate_of_isSought (hp : isSought p) (follow : Bool) :
    fs.locate p follow =
      (fs.walk follow linkLimit (fs.startOf p) p.pieces p.endsInSlash).mapError .os := by
  unfold locate
  rw [if_neg hp.1, if_neg hp.2.1, if_neg hp.2.2]
  rfl

/-- The answer to a path that is not sought does not depend on the file system. -/
theorem locate_of_not_isSought (hp : ¬isSought p) (fs gs : FileSystem) (follow follow' : Bool) :
    ∃ e, fs.locate p follow = .error e ∧ gs.locate p follow' = .error e := by
  unfold locate
  by_cases hnul : p.glyphs.contains (.char '\x00') = true
  · exact ⟨_, if_pos hnul, if_pos hnul⟩
  · rw [if_neg hnul, if_neg hnul]
    by_cases hempty : p.isEmpty = true
    · exact ⟨_, if_pos hempty, if_pos hempty⟩
    · rw [if_neg hempty, if_neg hempty]
      by_cases hlong : p.bytes.length > pathLimit
      · exact ⟨_, if_pos hlong, if_pos hlong⟩
      · exact absurd ⟨hnul, hempty, hlong⟩ hp

/-- A path that is answered is sought, and answered by a walk. -/
theorem locate_eq_ok {follow : Bool} {found : Found} :
    fs.locate p follow = .ok found ↔
      isSought p ∧
        fs.walk follow linkLimit (fs.startOf p) p.pieces p.endsInSlash = .ok found := by
  by_cases hp : isSought p
  · rw [locate_of_isSought hp]
    cases fs.walk follow linkLimit (fs.startOf p) p.pieces p.endsInSlash with
    | ok found' => simp [Except.mapError, hp]
    | error n => simp [Except.mapError]
  · obtain ⟨e, he, -⟩ := locate_of_not_isSought hp fs fs follow follow
    simp [he, hp]

theorem entry?_of_locate {follow : Bool} {found : Found} (h : fs.locate p follow = .ok found) :
    fs.entry? found.location = found.entry? :=
  entry?_of_walk (locate_eq_ok.mp h).2

theorem find_eq_ok {follow : Bool} {l : Location} {e : Entry} :
    fs.find p follow = .ok (l, e) ↔ fs.locate p follow = .ok ⟨l, some e⟩ := by
  unfold find Found.there
  cases fs.locate p follow with
  | error e => simp [bind, Except.bind]
  | ok found =>
    obtain ⟨location, entry⟩ := found
    cases entry with
    | none => simp [bind, Except.bind]
    | some e => simp [bind, Except.bind]

theorem entry?_of_find {follow : Bool} {l : Location} {e : Entry}
    (h : fs.find p follow = .ok (l, e)) : fs.entry? l = some e :=
  entry?_of_locate (find_eq_ok.mp h)

theorem isSought_withoutSlash (hp : isSought p) : isSought p.withoutSlash := by
  refine ⟨?_, ?_, ?_⟩
  · rw [Path.contains_withoutSlash p (by decide)]
    exact hp.1
  · rw [Path.isEmpty_withoutSlash]
    exact hp.2.1
  · have hle := Path.length_bytes_withoutSlash_le p
    have hfits := hp.2.2
    omega

theorem locateBare_of_isSought (hp : isSought p) :
    fs.locateBare p = fs.locate p.withoutSlash false := by
  unfold locateBare
  rw [if_neg hp.1, if_neg hp.2.2]

/-- The answer to a path that is not sought does not depend on the file system here either. -/
theorem exists_locateBare_of_not_isSought (hp : ¬isSought p) :
    ∃ cause, ∀ fs : FileSystem, fs.locateBare p = .error cause := by
  unfold locateBare
  by_cases hnul : p.glyphs.contains (.char '\x00') = true
  · exact ⟨_, fun fs => if_pos hnul⟩
  · simp only [if_neg hnul]
    by_cases hlong : p.bytes.length > pathLimit
    · exact ⟨_, fun fs => if_pos hlong⟩
    · simp only [if_neg hlong]
      have hempty : p.isEmpty = true := by
        by_contra hempty
        exact hp ⟨hnul, hempty, hlong⟩
      have hbare : ¬isSought p.withoutSlash := by
        intro hbare
        rw [isSought, Path.isEmpty_withoutSlash] at hbare
        exact hbare.2.1 hempty
      obtain ⟨cause, hcause, -⟩ := locate_of_not_isSought hbare default default false false
      refine ⟨cause, fun fs => ?_⟩
      obtain ⟨cause', hcause', hsame⟩ := locate_of_not_isSought hbare fs default false false
      rw [hcause] at hsame
      cases hsame
      exact hcause'

/-- A path that is answered is sought here too. -/
theorem locateBare_eq_ok {found : Found} :
    fs.locateBare p = .ok found ↔ isSought p ∧ fs.locate p.withoutSlash false = .ok found := by
  by_cases hp : isSought p
  · rw [locateBare_of_isSought hp]
    simp [hp]
  · obtain ⟨cause, hcause⟩ := exists_locateBare_of_not_isSought hp
    simp [hcause, hp]

theorem startOf_withoutSlash (fs : FileSystem) (p : Path) :
    fs.startOf p.withoutSlash = fs.startOf p := by
  rw [startOf, startOf, Path.isAbsolute_withoutSlash]

/-- What a path names is there without following a last link, with the path as it is and without the
separators at its end. -/
theorem locate_unfollowed {l : Location} {e : Entry} (h : fs.status p = .ok (l, e)) :
    (∃ l' e', fs.find p false = .ok (l', e')) ∧
      ∃ l' e', fs.locate p.withoutSlash false = .ok ⟨l', some e'⟩ := by
  obtain ⟨hp, hwalk⟩ := locate_eq_ok.mp (find_eq_ok.mp h)
  constructor
  · obtain ⟨l', e', hwalk'⟩ := walk_unfollowed id hwalk
    exact ⟨l', e', find_eq_ok.mpr (locate_eq_ok.mpr ⟨hp, hwalk'⟩)⟩
  · have hslash : p.withoutSlash.endsInSlash = true → p.endsInSlash = true := by
      by_cases hpieces : p.pieces = []
      · rw [Path.withoutSlash, if_pos hpieces]
        exact id
      · rw [Path.endsInSlash_withoutSlash hpieces]
        intro h
        cases h
    obtain ⟨l', e', hwalk'⟩ := walk_unfollowed hslash hwalk
    refine ⟨l', e', locate_eq_ok.mpr ⟨isSought_withoutSlash hp, ?_⟩⟩
    rwa [startOf_withoutSlash, Path.pieces_withoutSlash]

/-- A directory that is found without following a last link is what the path names. -/
theorem status_of_find {l : Location} {e : Entry} (he : e.isDirectory = true)
    (h : fs.find p false = .ok (l, e)) : fs.status p = .ok (l, e) := by
  obtain ⟨hp, hwalk⟩ := locate_eq_ok.mp (find_eq_ok.mp h)
  exact find_eq_ok.mpr (locate_eq_ok.mpr ⟨hp, walk_directory he (fun _ => .inl rfl) hwalk⟩)

/-- A directory that is found without the separators at the end of a path is what the path names. -/
theorem find_of_locate_withoutSlash {l : Location} {e : Entry} (hp : isSought p)
    (he : e.isDirectory = true) (h : fs.locate p.withoutSlash false = .ok ⟨l, some e⟩)
    (follow : Bool) : fs.find p follow = .ok (l, e) := by
  have hwalk := (locate_eq_ok.mp h).2
  rw [startOf_withoutSlash, Path.pieces_withoutSlash] at hwalk
  refine find_eq_ok.mpr (locate_eq_ok.mpr ⟨hp, walk_directory he (fun hslash => ?_) hwalk⟩)
  by_cases hpieces : p.pieces = []
  · rw [Path.withoutSlash, if_pos hpieces] at hslash
    exact .inr hslash
  · rw [Path.endsInSlash_withoutSlash hpieces] at hslash
    cases hslash

end Launchpad.FileSystem
