import Launchpad.Proofs.FileSystem.Below
import Launchpad.Proofs.FileSystem.Inside

/-!
Changes that stay inside a directory although there may be links in it. They are made to paths whose
last name is not followed, in a directory that is known to lie inside; so it makes no difference
where the path comes from, or what the name stood for.
-/

namespace Launchpad

namespace FileSystem

open Results

variable {fs gs hs made : FileSystem} {p q : Path} {top place l : Location} {name : Name}
  {e own d : Entry}

/-! ### What stays inside -/

/-- The clock goes on, and what is stamped is stamped with a time in between. -/
structure KeepsTime (l : Location) (fs gs : FileSystem) : Prop where
  clock : fs.now ≤ gs.now
  dated : ∀ {e}, gs.entry? l = some e →
    (∃ own, fs.entry? l = some own ∧ e.modified = own.modified) ∨
      fs.now ≤ e.modified ∧ e.modified ≤ gs.now

theorem KeepsTime.trans (h : KeepsTime l fs gs) (h' : KeepsTime l gs hs) : KeepsTime l fs hs := by
  refine ⟨Timestamp.le_trans h.clock h'.clock, fun hentry => ?_⟩
  rcases h'.dated hentry with ⟨own, hown, hsame⟩ | ⟨hafter, hbefore⟩
  · rw [hsame]
    exact (h.dated hown).imp_right fun ⟨hafter, hbefore⟩ =>
      ⟨hafter, Timestamp.le_trans hbefore h'.clock⟩
  · exact .inr ⟨Timestamp.le_trans h.clock hafter, hbefore⟩

/-- Nothing is changed but what a directory holds, and its own time stamp; and the file system is
well-formed afterwards. -/
structure StaysInside (top : Location) (fs gs : FileSystem) : Prop
    extends ChangesInside top fs gs, KeepsTime top fs gs where
  wellFormed : gs.WellFormed

theorem StaysInside.refl (h : fs.WellFormed) (top : Location) : StaysInside top fs fs where
  toChangesInside := .refl top fs
  toKeepsTime := ⟨Timestamp.le_refl fs.now, fun {e} hentry => .inl ⟨e, hentry, rfl⟩⟩
  wellFormed := h

theorem StaysInside.trans (h : StaysInside top fs gs) (h' : StaysInside top gs hs) :
    StaysInside top fs hs where
  toChangesInside := h.toChangesInside.trans h'.toChangesInside
  toKeepsTime := h.toKeepsTime.trans h'.toKeepsTime
  wellFormed := h'.wellFormed

/-- A change that leaves everything outside alone stays inside if all that it does to the directory
itself is to stamp it. -/
theorem staysInside_of_stamped (hin : top <+: place) (hwell : gs.WellFormed)
    (hhere : gs.here = fs.here) (hclock : fs.now ≤ gs.now)
    (h : ∀ {m}, m = top ∨ ¬top <+: m → gs.entry? m = FileSystem.entry? (fs.stamp place) m) :
    StaysInside top fs gs := by
  have htop : gs.entry? top = (fs.entry? top).map fun e =>
      if top = place then { e with modified := fs.now } else e := by
    rw [h (.inl rfl), entry?_stamp]
  refine
    { here := hhere
      entry?_eq := ?_
      alike := ?_
      clock := hclock
      dated := ?_
      wellFormed := hwell }
  · intro m houtside
    have hne : m ≠ place := fun heq => houtside (heq ▸ hin)
    rw [h (.inr houtside), entry?_stamp]
    simp [hne]
  · intro e hentry
    rw [htop, hentry]
    refine ⟨_, rfl, ?_⟩
    split
    · exact ⟨rfl, .inl rfl⟩
    · exact .refl e
  · intro e hentry
    rw [htop, Option.map_eq_some_iff] at hentry
    obtain ⟨own, hown, rfl⟩ := hentry
    split
    · exact .inr ⟨Timestamp.le_refl fs.now, hclock⟩
    · exact .inl ⟨own, hown, rfl⟩

theorem not_prefix_concat (name : Name) (hin : top <+: place) : ¬place ++ [name] <+: top := by
  intro habove
  have hle := habove.length_le.trans hin.length_le
  rw [List.length_append, List.length_singleton] at hle
  omega

theorem Gains.staysInside (h : Gains place name own fs gs) (hin : top <+: place)
    (hwell : gs.WellFormed) : StaysInside top fs gs := by
  refine staysInside_of_stamped hin hwell h.here h.clock fun {m} hm => h.others ?_
  rintro rfl
  rcases hm with hm | hm
  · exact not_prefix_concat name hin (hm ▸ List.prefix_refl top)
  · exact hm (hin.trans (List.prefix_append place [name]))

theorem WellFormed.staysInside_remove (h : fs.WellFormed) (hin : top <+: place) :
    StaysInside top fs (fs.remove (place ++ [name])) := by
  refine staysInside_of_stamped hin (h.remove _) rfl (fs.now_le_remove _) fun {m} hm => ?_
  have houtside : ¬place ++ [name] <+: m := by
    rcases hm with rfl | hm
    · exact not_prefix_concat name hin
    · exact fun hbelow => hm (hin.trans ((List.prefix_append place [name]).trans hbelow))
  rw [entry?_remove, if_neg houtside, List.dropLast_concat, entry?_stamp]

/-! ### What a path names -/

/-- What a path names lies below a directory, under all its names. -/
def NamesBelow (fs : FileSystem) (top : Location) (p : Path) : Prop :=
  ∀ {l e m own}, fs.status p = .ok (l, e) → fs.entry? m = some own → own.serial = e.serial →
    top <+: m ∧ m ≠ top

/-- Other permissions and another time for what a path names. -/
theorem NamesBelow.staysInside_alter (h : fs.NamesBelow top p) (hwell : fs.WellFormed)
    (hstatus : fs.status p = .ok (l, e)) {change : Entry → Entry}
    (hchange : ∀ e, (change e).node = e.node ∧ (change e).serial = e.serial) :
    StaysInside top fs (fs.alter e.serial change) := by
  have hkept : ∀ {m}, m = top ∨ ¬top <+: m →
      entry? (fs.alter e.serial change) m = fs.entry? m := by
    intro m hm
    rw [entry?_alter]
    cases hentry : fs.entry? m with
    | none => rfl
    | some own =>
      have hother : own.serial ≠ e.serial := by
        intro hserial
        obtain ⟨hbelow, hne⟩ := h hstatus hentry hserial
        rcases hm with heq | houtside
        · exact hne heq
        · exact houtside hbelow
      rw [Option.map_some, if_neg hother]
  refine
    { here := rfl
      entry?_eq := fun houtside => hkept (.inr houtside)
      alike := ?_
      clock := Timestamp.le_refl fs.now
      dated := ?_
      wellFormed := hwell.alter _ hchange }
  · exact fun {own} hentry => ⟨own, (hkept (.inl rfl)).trans hentry, .refl own⟩
  · exact fun {own} hentry => .inl ⟨own, (hkept (.inl rfl)).symm.trans hentry, rfl⟩

/-- What a path names is still below after it was dated. -/
theorem NamesBelow.alter_modified (h : fs.NamesBelow top p) (serial : Nat) (t : Timestamp) :
    NamesBelow (fs.alter serial fun e => { e with modified := t }) top p := by
  have hthins : fs.Thins (fs.alter serial fun e => { e with modified := t }) :=
    fs.thins_alter serial fun e => ⟨rfl, rfl⟩
  have hwithin : (fs.alter serial fun e => { e with modified := t }).Within fs := by
    refine ⟨rfl, fun {m e} hentry => ?_⟩
    rw [entry?_alter, Option.map_eq_some_iff] at hentry
    obtain ⟨own, hown, rfl⟩ := hentry
    refine ⟨own, hown, ?_⟩
    split
    · exact ⟨rfl, .inl rfl⟩
    · exact .refl own
  intro l e m own hstatus hown hserial
  obtain ⟨e', hstatus', -⟩ := hwithin.find hstatus
  obtain ⟨e'', hentry, hsame, -⟩ := hthins (entry?_of_find hstatus)
  cases (entry?_of_find hstatus').symm.trans hentry
  obtain ⟨own', hown', hsame', -⟩ := hthins hown
  exact h hstatus' hown' (hsame'.symm.trans (hserial.trans hsame))

/-! ### Under a name in a directory inside -/

/-- A path goes on by a name from one that leads to a directory inside. -/
structure HeldInside (top : Location) (fs : FileSystem) (q : Path) (place : Location)
    (name : Name) : Prop where
  below : top <+: place
  isProper : Name.IsProper name
  leads : ∃ p d, GoesOn p name q ∧ fs.status p = .ok (place, d)

namespace HeldInside

variable (h : HeldInside top fs q place name)
include h

theorem eq_of_locate {found : Found} (hlocate : fs.locate q false = .ok found) :
    found = ⟨place ++ [name], fs.entry? (place ++ [name])⟩ := by
  obtain ⟨p, d, hgoes, hstatus⟩ := h.leads
  have hhere : name ≠ [.char '.'] := by
    rintro rfl
    cases h.isProper.isStep
  exact hgoes.eq_of_locate hhere h.isProper.notUp hstatus (by simp) hlocate

/-- What is new under the name is what the path names, unless it is a link. -/
theorem eq_of_status (hself : fs.entry? (place ++ [name]) = some own)
    (hnode : ∀ target, own.node ≠ .link target) (hstatus : fs.status q = .ok (l, e)) :
    l = place ++ [name] ∧ e = own := by
  obtain ⟨p, d, hgoes, hled⟩ := h.leads
  have hhere : name ≠ [.char '.'] := by
    rintro rfl
    cases h.isProper.isStep
  have hplain : ∀ {e target}, fs.entry? (place ++ [name]) = some e → e.node ≠ .link target := by
    intro e target hentry
    cases hself.symm.trans hentry
    exact hnode target
  have hfound := hgoes.eq_of_locate hhere h.isProper.notUp hled (fun _ => hplain)
    (find_eq_ok.mp hstatus)
  rw [hself] at hfound
  cases hfound
  exact ⟨rfl, rfl⟩

theorem of_within (hwithin : fs.Within gs) : HeldInside top gs q place name := by
  obtain ⟨p, d, hgoes, hstatus⟩ := h.leads
  obtain ⟨d', hstatus', -⟩ := hwithin.find hstatus
  exact ⟨h.below, h.isProper, p, d', hgoes, hstatus'⟩

/-- In a smaller file system the directory is the same, if the path leads anywhere. -/
theorem of_locate (hwithin : gs.Within fs) {found : Found} {follow : Bool}
    (hlocate : gs.locate q follow = .ok found) : HeldInside top gs q place name := by
  obtain ⟨p, d, hgoes, hstatus⟩ := h.leads
  obtain ⟨place', d', hled, -⟩ := hgoes.exists_status hlocate
  obtain ⟨d'', hled', -⟩ := hwithin.find hled
  cases hstatus.symm.trans hled'
  exact ⟨h.below, h.isProper, p, d', hgoes, hled⟩

variable (hwell : fs.WellFormed)
include hwell

/-- What is made under the name stays inside, and is what the path names unless it is a link. -/
theorem add {node : Node} {mode : Nat} (hlocate : fs.locate q false = .ok ⟨l, none⟩) :
    StaysInside top fs (fs.add l node mode) ∧
      ((∀ target, node ≠ .link target) → NamesBelow (fs.add l node mode) top q) := by
  obtain ⟨rfl, hfree⟩ := Found.mk.inj (h.eq_of_locate hlocate)
  have hholder := holder_of_walk_free (locate_eq_ok.mp hlocate).2 rfl
  have hadded := hwell.add hfree.symm hholder (hwell.isProper_of_locate_free hlocate) node mode
  obtain ⟨place', name', hplace, hgains⟩ := exists_gains_add hfree.symm hholder node mode
  obtain ⟨rfl, hname⟩ := List.append_inj' hplace rfl
  cases hname
  refine ⟨hgains.staysInside h.below hadded, fun hnode => ?_⟩
  intro m e k other hstatus hother hserial
  obtain ⟨-, rfl⟩ := (h.of_within hgains.within).eq_of_status hgains.self hnode hstatus
  rcases hgains.eq_or_old hother with ⟨rfl, -⟩ | ⟨-, old, hold, hsame, -⟩
  · refine ⟨h.below.trans (List.prefix_append place [name]), fun heq => ?_⟩
    exact not_prefix_concat name h.below (heq ▸ List.prefix_refl top)
  · -- The number of the new entry was not in use.
    exact absurd (hsame.symm.trans hserial) (Nat.ne_of_lt (hwell.isNumbered hold))

theorem makeDirectory (hmade : fs.makeDirectory q = .ok made) :
    StaysInside top fs made ∧ made.NamesBelow top q := by
  obtain ⟨p, d, hgoes, -⟩ := h.leads
  obtain ⟨l, -, hlocate, -, rfl⟩ := makeDirectory_eq_ok.mp hmade
  rw [hgoes.withoutSlash_eq] at hlocate
  obtain ⟨hstays, hnames⟩ := h.add hwell hlocate
  exact ⟨hstays, hnames (by simp)⟩

/-- As the directory is there, none above it is made. -/
theorem makeDirectories {outcome : Except IoError Unit}
    (hmade : fs.makeDirectories q = (outcome, made)) : StaysInside top fs made := by
  obtain ⟨p, d, hgoes, hstatus⟩ := h.leads
  have hhere : name ≠ [.char '.'] := by
    rintro rfl
    cases h.isProper.isStep
  have hthere := hgoes.makeDirectory_ne_noEntry hhere h.isProper.notUp hstatus
  rw [FileSystem.makeDirectories, makeDirectoriesFuel] at hmade
  split at hmade
  · cases hmade
    exact .refl hwell top
  · split at hmade
    · cases hmade
      rename_i hone
      exact (h.makeDirectory hwell hone).1
    · rename_i cause hcause
      have hne : cause ≠ .os .noEntry := fun heq => hthere (heq ▸ hcause)
      rw [if_pos hne] at hmade
      cases hmade
      exact .refl hwell top

theorem makeLink {target : Path} (hmade : fs.makeLink target q = .ok made) :
    StaysInside top fs made := by
  obtain ⟨⟨l, e?⟩, hlocate, hrest⟩ := bind_eq_ok.mp hmade
  cases e? with
  | some e => cases hrest
  | none =>
    simp only at hrest
    split at hrest
    · cases hrest
    · obtain ⟨-, -, hadded⟩ := bind_eq_ok.mp hrest
      cases hadded
      exact (h.add hwell hlocate).1

theorem createNew {content : ByteArray} {mode serial : Nat}
    (hmade : fs.createNew q content mode = .ok (serial, made)) :
    StaysInside top fs made ∧ made.NamesBelow top q := by
  obtain ⟨⟨l, e?⟩, hlocate, hrest⟩ := bind_eq_ok.mp hmade
  cases e? with
  | some e => cases hrest
  | none =>
    simp only at hrest
    split at hrest
    · cases hrest
    · obtain ⟨-, -, hadded⟩ := bind_eq_ok.mp hrest
      cases hadded
      obtain ⟨hstays, hnames⟩ := h.add hwell hlocate
      exact ⟨hstays, hnames (by simp)⟩

theorem unlink (hok : fs.unlink q = .ok made) : StaysInside top fs made ∧ made.Within fs := by
  obtain ⟨⟨l, e⟩, hfound, hrest⟩ := bind_eq_ok.mp hok
  obtain ⟨rfl, -⟩ := Found.mk.inj (h.eq_of_locate (find_eq_ok.mp hfound))
  simp only at hrest
  split at hrest
  · cases hrest
  · obtain ⟨-, -, hremoved⟩ := bind_eq_ok.mp hrest
    cases hremoved
    exact ⟨hwell.staysInside_remove h.below,
      (within_remove fs _).trans (eraseBelow_within fs _)⟩

/-- A second name for a file, wherever this stands. -/
theorem shareEntry {source : Path} (hok : fs.shareEntry source q = .ok made) :
    StaysInside top fs made := by
  obtain ⟨⟨m, e⟩, hfound, hrest⟩ := bind_eq_ok.mp hok
  obtain ⟨⟨l, e?⟩, hlocate, hrest⟩ := bind_eq_ok.mp hrest
  cases e? with
  | some other => cases hrest
  | none =>
    simp only at hrest
    split at hrest
    · cases hrest
    · rename_i hdir
      obtain ⟨-, -, hshared⟩ := bind_eq_ok.mp hrest
      cases hshared
      obtain ⟨rfl, hfree⟩ := Found.mk.inj (h.eq_of_locate hlocate)
      have hholder := holder_of_walk_free (locate_eq_ok.mp hlocate).2 rfl
      have hnames := hwell.isProper_of_locate_free hlocate
      have hsource := entry?_of_find hfound
      rw [List.dropLast_concat] at hholder
      have hgains : Gains place name e fs
          (tick ((fs.stamp (place ++ [name]).dropLast).insert (place ++ [name]) e)) :=
        { here := rfl
          clock := fs.now_le_tick
          holder := hholder
          free := hfree.symm
          self := by rw [entry?_tick, entry?_insert, if_pos rfl]
          others := fun {k} hk => by
            rw [entry?_tick, entry?_insert, if_neg hk, List.dropLast_concat]
          grows := Nat.le_refl _
          numbered := hwell.isNumbered hsource }
      refine hgains.staysInside h.below (hwell.gains hgains hnames fun {k old} hold hserial => ?_)
      have hfile : e.isDirectory = false := by simpa using hdir
      refine ⟨?_, hfile⟩
      -- A directory with the number of a file would stand where the file stands.
      by_contra hold'
      have hsame := hwell.unshared hold hsource hserial (by simpa using hold')
      rw [hsame, hsource] at hold
      cases hold
      exact hold' hfile

end HeldInside

/-! ### The paths of locations -/

theorem isEmpty_toPath (l : Location) : l.toPath.isEmpty = false := rfl

/-- The path of a location goes on from that of the location above. -/
theorem goesOn_toPath (hnames : ∀ n ∈ l ++ [name], Name.IsProper n) :
    GoesOn l.toPath name (Location.toPath (l ++ [name])) := by
  have hname : Path.IsSingle name :=
    (hnames name (List.mem_append_right l (List.mem_singleton_self name))).toIsSingle
  have hl : l.toPath.pieces = l :=
    Location.pieces_toPath fun n hn => hnames n (List.mem_append_left [name] hn)
  by_cases hroot : l = []
  · subst hroot
    have hbelow : Location.toPath ([] ++ [name]) = Path.below ⟨[]⟩ name := by
      simp [Location.toPath, Path.below, Text.joinWith]
    refine ⟨?_, rfl, ?_, fun _ => ⟨by decide, by decide, by decide +kernel⟩⟩
    · rw [Location.pieces_toPath hnames, hl]
    · rw [hbelow]
      exact Path.endsInSlash_below _ hname
  · have hbelow : Location.toPath (l ++ [name]) = l.toPath.below name := by
      rw [Location.toPath, Path.joinWith_append hroot (List.cons_ne_nil name [])]
      rfl
    rw [hbelow]
    exact goesOn_below (isEmpty_toPath l) hname

end FileSystem

end Launchpad
