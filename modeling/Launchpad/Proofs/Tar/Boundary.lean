import Launchpad.Proofs.Copy.Opening
import Launchpad.Proofs.FileSystem.Boundary

/-!
Unpacking stays inside. Whatever an archive holds, links and second names for files included, and
however far its unpacking gets, nothing is changed outside the directory that it is unpacked into:
each member is put under its last name into a directory that was found to lie inside.
-/

namespace Launchpad

namespace Tar

open FileSystem Results

variable {fs : FileSystem} {top place : Location} {name : Name} {names : List Name} {q : Path}
  {m : Member}

/-! ### Work in several steps -/

theorem staysInside_andThen {first : Outcome} {next : FileSystem → Outcome}
    (hfirst : StaysInside top fs first.2)
    (hnext : first.1 = .ok () → StaysInside top first.2 (next first.2).2) :
    StaysInside top fs (first.andThen next).2 := by
  obtain ⟨result, between⟩ := first
  cases result with
  | error cause => exact hfirst
  | ok u => exact hfirst.trans (hnext rfl)

theorem staysInside_attempt (hwell : fs.WellFormed) {change : Except IoError FileSystem}
    (h : ∀ {changed}, change = .ok changed → StaysInside top fs changed) :
    StaysInside top fs (attempt fs change).2 := by
  cases change with
  | error cause => exact .refl hwell top
  | ok changed => exact h rfl

section Run

variable {α : Type} {work : α → FileSystem → Outcome} {items : List α}

/-- Work on several things, one after the other. -/
def inTurn (work : α → FileSystem → Outcome) (items : List α) (start : Outcome) : Outcome :=
  items.foldl (fun done item => done.andThen (work item)) start

theorem inTurn_error (cause : IoError) (fs : FileSystem) :
    inTurn work items (.error cause, fs) = (.error cause, fs) := by
  induction items with
  | nil => rfl
  | cons item items ih => exact ih

/-- What is done to each of several things may stop at any of them. -/
theorem staysInside_inTurn (hwell : fs.WellFormed)
    (hwork : ∀ item ∈ items, ∀ {fs : FileSystem}, fs.WellFormed →
      StaysInside top fs (work item fs).2) :
    StaysInside top fs (inTurn work items (.ok (), fs)).2 := by
  induction items generalizing fs with
  | nil => exact .refl hwell top
  | cons item items ih =>
    obtain ⟨hitem, hitems⟩ := List.forall_mem_cons.mp hwork
    have hfirst := hitem hwell
    have hcons : inTurn work (item :: items) (.ok (), fs) = inTurn work items (work item fs) := rfl
    rw [hcons]
    rcases hresult : work item fs with ⟨result, between⟩
    rw [hresult] at hfirst
    cases result with
    | error cause =>
      rw [inTurn_error]
      exact hfirst
    | ok u => exact hfirst.trans (ih hfirst.wellFormed hitems)

end Run

/-! ### The directory that holds a member -/

theorem exists_of_checkInside (h : checkInside fs top q = .ok ()) :
    ∃ place d, fs.status q = .ok (place, d) ∧ top <+: place := by
  obtain ⟨⟨place, d⟩, hstatus, hinside⟩ := bind_eq_ok.mp h
  simp only at hinside
  split at hinside
  · rename_i hbelow
    exact ⟨place, d, hstatus, List.isPrefixOf_iff_prefix.mp hbelow⟩
  · cases hinside

/-- What has a name in a directory that was found to lie inside. -/
theorem exists_heldInside {l : Location} (hnames : ∀ n ∈ l ++ [name], Name.IsProper n)
    (h : checkInside fs top l.toPath = .ok ()) :
    ∃ place, HeldInside top fs (Location.toPath (l ++ [name])) place name := by
  obtain ⟨place, d, hstatus, hbelow⟩ := exists_of_checkInside h
  have hname := hnames name (List.mem_append_right l (List.mem_singleton_self name))
  exact ⟨place, hbelow, hname, l.toPath, d, goesOn_toPath hnames, hstatus⟩

theorem staysInside_makeHolder {holder : Location} (hwell : fs.WellFormed)
    (hnames : ∀ n ∈ holder, Name.IsProper n) :
    StaysInside top fs (makeHolder fs top holder).2 := by
  refine staysInside_inTurn hwell fun l hl {gs} hgs => ?_
  have hfront : l <+: holder := by
    rw [missing, List.mem_reverse] at hl
    obtain ⟨n, -, rfl⟩ := List.mem_map.mp ((List.takeWhile_sublist _).subset hl)
    exact List.take_prefix _ _
  split
  · exact .refl hgs top
  · rename_i hinside
    by_cases hroot : l = []
    · -- The root is there, or cannot be made.
      have hsame : (gs.makeDirectories l.toPath).2 = gs := by
        rw [hroot]
        exact eq_of_makeDirectoriesFuel_of_ups (by decide) rfl
      rw [hsame]
      exact .refl hgs top
    · have hlast := List.dropLast_append_getLast hroot
      have hproper : ∀ n ∈ l.dropLast ++ [l.getLast hroot], Name.IsProper n := fun n hn =>
        hnames n (hfront.subset (hlast ▸ hn))
      obtain ⟨place, hheld⟩ := exists_heldInside hproper hinside
      rw [hlast] at hheld
      exact hheld.makeDirectories hgs rfl

/-! ### One member -/

section Held

variable (hheld : HeldInside top fs q place name) (hwell : fs.WellFormed)

theorem staysInside_applyMode (h : Header) (hwell : fs.WellFormed)
    (hbelow : fs.NamesBelow top q) : StaysInside top fs (applyMode h q fs).2 := by
  unfold applyMode
  split
  · refine staysInside_attempt hwell fun hset => ?_
    obtain ⟨⟨l, e⟩, hstatus, hset⟩ := bind_eq_ok.mp hset
    cases hset
    exact hbelow.staysInside_alter hwell hstatus fun e => ⟨rfl, rfl⟩
  · exact .refl hwell top

/-- What lies below a directory is still there after it was dated. -/
theorem staysInside_setModified (hwell : fs.WellFormed) (hbelow : fs.NamesBelow top q)
    (t : Timestamp) : StaysInside top fs (attempt fs (fs.setModified q t)).2 ∧
      NamesBelow (attempt fs (fs.setModified q t)).2 top q := by
  cases hset : fs.setModified q t with
  | error cause => exact ⟨.refl hwell top, hbelow⟩
  | ok dated =>
    obtain ⟨⟨l, e⟩, hstatus, hdate⟩ := bind_eq_ok.mp hset
    cases hdate
    have hstays : StaysInside top fs (fs.alter e.serial fun e => { e with modified := t }) :=
      hbelow.staysInside_alter hwell hstatus fun e => ⟨rfl, rfl⟩
    exact ⟨hstays, hbelow.alter_modified e.serial t⟩

include hheld hwell

theorem staysInside_unpackDirectory (h : Header) :
    StaysInside top fs (unpackDirectory h q fs).2 := by
  unfold unpackDirectory
  cases hmade : fs.makeDirectory q with
  | ok made =>
    obtain ⟨hstays, hbelow⟩ := hheld.makeDirectory hwell hmade
    exact staysInside_andThen hstays fun _ =>
      staysInside_applyMode h hstays.wellFormed hbelow
  | error cause =>
    refine staysInside_andThen (.refl hwell top) fun hthere => ?_
    cases hfound : fs.find q false with
    | error fault => simp [hfound] at hthere
    | ok pair =>
      obtain ⟨l, e⟩ := pair
      obtain ⟨-, hdir⟩ : cause = .os .alreadyExists ∧ e.isDirectory = true := by
        simpa [hfound] using hthere
      refine staysInside_applyMode h hwell ?_
      -- The directory that is there is the one under the name, and has no other.
      intro l' e' k own hstatus hown hserial
      obtain ⟨rfl, -⟩ := Found.mk.inj (hheld.eq_of_locate (find_eq_ok.mp hfound))
      cases (status_of_find hdir hfound).symm.trans hstatus
      cases hwell.unshared (entry?_of_find hfound) hown hserial.symm hdir
      refine ⟨hheld.below.trans (List.prefix_append place [name]), fun heq => ?_⟩
      exact not_prefix_concat name hheld.below (heq ▸ List.prefix_refl top)

theorem staysInside_unpackHardLink (target : Path) :
    StaysInside top fs (unpackHardLink top target q fs).2 := by
  unfold unpackHardLink
  simp only
  split
  · exact .refl hwell top
  · exact staysInside_attempt hwell fun hok => hheld.shareEntry hwell hok

theorem staysInside_unpackSymbolicLink (target : Path) :
    StaysInside top fs (unpackSymbolicLink target q fs).2 := by
  unfold unpackSymbolicLink
  split
  · rename_i hmade
    exact hheld.makeLink hwell hmade
  · split
    · cases hunlink : fs.unlink q with
      | error cause => exact .refl hwell top
      | ok cleared =>
        obtain ⟨hstays, hwithin⟩ := hheld.unlink hwell hunlink
        refine staysInside_andThen hstays fun _ => ?_
        refine staysInside_attempt hstays.wellFormed fun hmade => ?_
        obtain ⟨found, hlocate, -⟩ := bind_eq_ok.mp hmade
        exact (hheld.of_locate hwithin hlocate).makeLink hstays.wellFormed hmade
    · exact .refl hwell top

/-- What stood under the name is taken away, and then there is no more than before. -/
theorem staysInside_clear :
    StaysInside top fs (match fs.find q false with
      | .ok _ => attempt fs (fs.unlink q)
      | .error _ => (.ok (), fs)).2 ∧
    FileSystem.Within (match fs.find q false with
      | .ok _ => attempt fs (fs.unlink q)
      | .error _ => (.ok (), fs)).2 fs := by
  cases fs.find q false with
  | error cause => exact ⟨.refl hwell top, .refl fs⟩
  | ok found =>
    cases hunlink : fs.unlink q with
    | error cause => exact ⟨.refl hwell top, .refl fs⟩
    | ok cleared => exact hheld.unlink hwell hunlink

theorem staysInside_unpackFile : StaysInside top fs (unpackFile m q fs).2 := by
  obtain ⟨hcleared, hwithin⟩ := staysInside_clear hheld hwell
  refine staysInside_andThen hcleared fun _ => ?_
  generalize (match fs.find q false with
    | .ok _ => attempt fs (fs.unlink q)
    | .error _ => (.ok (), fs)).2 = cleared at hcleared hwithin ⊢
  split
  · exact .refl hcleared.wellFormed top
  · rename_i serial made hmade
    obtain ⟨found, hlocate, -⟩ := bind_eq_ok.mp hmade
    have hstill := hheld.of_locate hwithin hlocate
    obtain ⟨hnew, hbelow⟩ := hstill.createNew hcleared.wellFormed hmade
    split
    · exact hnew
    · refine hnew.trans (staysInside_andThen ?_ fun _ => ?_)
      · split
        · exact (staysInside_setModified hnew.wellFormed hbelow _).1
        · exact .refl hnew.wellFormed top
      · split
        · obtain ⟨hdated, hstill⟩ := staysInside_setModified hnew.wellFormed hbelow _
          exact staysInside_applyMode _ hdated.wellFormed hstill
        · exact staysInside_applyMode _ hnew.wellFormed hbelow

theorem staysInside_unpackContent : StaysInside top fs (unpackContent top m q fs).2 := by
  have hfile : StaysInside top fs
      (if !m.header.isUstar && m.name.getLast? = some '/'.toUInt8 then unpackDirectory m.header q fs
      else unpackFile m q fs).2 := by
    split
    · exact staysInside_unpackDirectory hheld hwell _
    · exact staysInside_unpackFile hheld hwell
  unfold unpackContent
  cases hkind : m.header.kind with
  | directory => exact staysInside_unpackDirectory hheld hwell _
  | hardLink =>
    simp only [if_true]
    split
    · exact .refl hwell top
    · exact .refl hwell top
    · exact staysInside_unpackHardLink hheld hwell _
  | symbolicLink =>
    simp only [reduceCtorEq, if_false]
    split
    · exact .refl hwell top
    · exact .refl hwell top
    · exact staysInside_unpackSymbolicLink hheld hwell _
  | globalSettings => exact .refl hwell top
  | localSettings => exact .refl hwell top
  | longName => exact .refl hwell top
  | longLink => exact .refl hwell top
  | regular => exact hfile
  | sparse => exact hfile

end Held

theorem names?_eq_some (h : m.names? = some names) :
    names ≠ [] ∧ ∀ name ∈ names, Name.IsProper name := by
  unfold Member.names? at h
  simp only at h
  split at h
  · cases h
  · rename_i hnames
    cases h
    obtain ⟨hne, hup⟩ : _ ≠ [] ∧ Name.up ∉ _ := by simpa using hnames
    refine ⟨hne, fun name hname => ?_⟩
    obtain ⟨hpiece, hstep⟩ := List.mem_filter.mp hname
    exact ⟨⟨Text.separator_not_mem_of_mem_splitOn hpiece, hstep⟩, fun heq => hup (heq ▸ hname)⟩

theorem staysInside_unpackMember (hwell : fs.WellFormed)
    (htop : ∀ name ∈ top, Name.IsProper name) (m : Member) :
    StaysInside top fs (unpackMember top m fs).2 := by
  unfold unpackMember
  cases hplace : m.names? with
  | none => exact .refl hwell top
  | some names =>
    obtain ⟨hne, hproper⟩ := names?_eq_some hplace
    have hnames : ∀ name ∈ top ++ names, Name.IsProper name :=
      List.forall_mem_append.mpr ⟨htop, hproper⟩
    have hlast := List.dropLast_append_getLast (List.append_ne_nil_of_right_ne_nil top hne)
    refine staysInside_andThen (staysInside_makeHolder hwell fun name hname => ?_) fun _ => ?_
    · exact hnames name (List.dropLast_subset _ hname)
    have hholder : StaysInside top fs (makeHolder fs top (top ++ names).dropLast).2 :=
      staysInside_makeHolder hwell fun name hname =>
        hnames name (List.dropLast_subset (top ++ names) hname)
    split
    · exact .refl hholder.wellFormed top
    · rename_i hinside
      obtain ⟨place, hheld⟩ := exists_heldInside (hlast.symm ▸ hnames) hinside
      rw [hlast] at hheld
      exact staysInside_unpackContent hheld hholder.wellFormed

theorem staysInside_unpackAll (hwell : fs.WellFormed) (htop : ∀ name ∈ top, Name.IsProper name)
    (members : List Member) : StaysInside top fs (unpackAll top members fs).2 :=
  staysInside_inTurn hwell fun m _ _ hwell => staysInside_unpackMember hwell htop m

theorem Archive.staysInside_unpackAt (hwell : fs.WellFormed)
    (htop : ∀ name ∈ top, Name.IsProper name) (archive : Archive) :
    StaysInside top fs (archive.unpackAt top fs).2 := by
  have hfirst := staysInside_unpackAll hwell htop (archive.members.filter (!·.isDeferred))
  refine staysInside_andThen hfirst fun _ => ?_
  split
  · exact .refl hfirst.wellFormed top
  · exact staysInside_unpackAll hfirst.wellFormed htop _

/-- Whatever an archive holds, and however its unpacking ends, no more is changed than what is in
the directory that it is unpacked into. -/
theorem Archive.staysInside_unpack {destination : Path} (hwell : fs.WellFormed)
    (hleads : fs.IsDirectoryAt destination top) (archive : Archive) :
    StaysInside top fs (archive.unpack destination fs).2 := by
  obtain ⟨e, hstatus, -⟩ := id hleads
  have htop : ∀ name ∈ top, Name.IsProper name :=
    hwell.isNamed (entry?_of_find hstatus)
  have hunpack : archive.unpack destination fs = archive.unpackAt top fs := by
    rw [unpack, prepare_of_isDirectoryAt hleads, Outcome.andThen, hstatus]
  rw [hunpack]
  exact staysInside_unpackAt hwell htop archive

end Tar

namespace Unpacker

open FileSystem

variable {content : ByteArray} {destination : Path} {top : Location} {before after : FileSystem}
  {outcome : Except IoError Unit}

theorem staysInside_tar (hwell : before.WellFormed) (hstraight : before.LeadsStraight destination top)
    (h : Unpacker.tar content destination before = (outcome, after)) :
    StaysInside top before after := by
  have hstays := Tar.Archive.staysInside_unpack hwell hstraight.isDirectoryAt (Tar.read content)
  rwa [show (Tar.read content).unpack destination before = (outcome, after) from h] at hstays

/-- Whatever a tar archive holds, it is unpacked below the directory. -/
theorem staysBelow_tar (destination : Path) : Unpacker.tar.StaysBelow destination := by
  intro content top before outcome after hwell hstraight h
  have hstays := staysInside_tar hwell hstraight h
  exact ⟨hstays.wellFormed, hstays.toChangesInside⟩

/-- A directory is stamped with the time of what happens in it. -/
theorem inTime_tar (destination : Path) : Unpacker.tar.InTime destination where
  below := staysBelow_tar destination
  clock hwell hstraight h := (staysInside_tar hwell hstraight h).clock
  dated hwell hstraight h hmoment hbefore e hentry := by
    rcases (staysInside_tar hwell hstraight h).dated hentry with ⟨own, hown, hsame⟩ | ⟨hlater, -⟩
    · exact hsame ▸ hbefore hown
    · exact Timestamp.le_trans hmoment hlater

end Unpacker

end Launchpad
