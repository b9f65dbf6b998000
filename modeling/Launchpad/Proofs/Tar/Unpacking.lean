import Launchpad.Proofs.Copy.Extraction
import Launchpad.Proofs.FileSystem.Along
import Launchpad.Proofs.Tar.Boundary
import Launchpad.Proofs.Tar.Reading
import Mathlib

/-!
Unpacking archives of files. A member makes the directories on the way to its place and writes its
content there, in place of the file that was there before; from member to member the directory
holds nothing but files and directories, so nothing is written through a link.
-/

namespace Launchpad

namespace Tar

open FileSystem Results

variable {fs before after : FileSystem} {top : Location} {names : List Name} {m : Member}

/-! ### Work that goes well -/

theorem Outcome.andThen_eq_ok {first : Outcome} {next : FileSystem → Outcome} :
    first.andThen next = (.ok (), after) ↔
      ∃ between, first = (.ok (), between) ∧ next between = (.ok (), after) := by
  obtain ⟨result, fs⟩ := first
  cases result with
  | error cause => simp [Outcome.andThen]
  | ok u => simp [Outcome.andThen]

theorem attempt_eq_ok {change : Except IoError FileSystem} :
    attempt fs change = (.ok (), after) ↔ change = .ok after := by
  cases change <;> simp [attempt]

section Run

variable {α : Type} {work : α → FileSystem → Outcome} {item : α} {items : List α}

/-- Work on several things goes well if it goes well on the first, and on the others from there. -/
theorem inTurn_cons_eq_ok :
    inTurn work (item :: items) (.ok (), fs) = (.ok (), after) ↔
      ∃ between, work item fs = (.ok (), between) ∧
        inTurn work items (.ok (), between) = (.ok (), after) := by
  have hfirst : inTurn work (item :: items) (.ok (), fs) = inTurn work items (work item fs) := rfl
  rw [hfirst]
  rcases work item fs with ⟨result, between⟩
  cases result with
  | error cause => simp [inTurn_error]
  | ok u => simp

theorem changesAlong_of_inTurn
    (hwork : ∀ item ∈ items, ∀ {fs after}, fs.IsPlain top → work item fs = (.ok (), after) →
      ChangesAlong top names fs after)
    (h : fs.IsPlain top) (hok : inTurn work items (.ok (), fs) = (.ok (), after)) :
    ChangesAlong top names fs after := by
  induction items generalizing fs with
  | nil =>
    cases hok
    exact .refl h names
  | cons item items ih =>
    obtain ⟨between, hfirst, hrest⟩ := inTurn_cons_eq_ok.mp hok
    obtain ⟨hitem, hitems⟩ := List.forall_mem_cons.mp hwork
    have halong := hitem h hfirst
    exact halong.trans (ih hitems halong.isPlain hrest)

end Run

/-! ### One member -/

/-- A file was written at a place in a directory, and otherwise directories were made on the way. -/
structure Writes (top : Location) (names : List Name) (content : ByteArray)
    (before after : FileSystem) : Prop extends ChangesAlong top names before after where
  written : ∃ e, after.IsWritten (top ++ names) content e

theorem Writes.treeAt_eq {content : ByteArray} (h : Writes top names content before after) :
    after.treeAt top = Tree.put (before.treeAt top) (names, content) := by
  funext below
  obtain ⟨e, hwritten⟩ := h.written
  unfold Tree.put
  by_cases hplace : below = names
  · rw [if_pos hplace, hplace, treeAt, hwritten.entry, Option.map_some, hwritten.node]
  · by_cases habove : below <+: names
    · -- What holds the file is a directory.
      obtain ⟨d, hd, hdir⟩ := h.isPlain.sound.isTree.exists_directory hwritten.entry
        ((List.prefix_append_right_inj top).mpr habove) (by simpa using hplace)
      have hnode : d.node = .directory := of_decide_eq_true hdir
      rw [if_neg hplace, if_pos habove, treeAt, hd, Option.map_some, hnode]
    · rw [if_neg hplace, if_neg habove, h.others habove]

section Member

variable (hnames : ∀ name ∈ names, Name.IsProper name)
include hnames

theorem makeHolder_ok (h : fs.IsPlain top)
    (hok : makeHolder fs top (top ++ names).dropLast = (.ok (), after)) :
    ChangesAlong top names fs after := by
  refine changesAlong_of_inTurn (fun l hl fs after h hmade => ?_) h hok
  have hfront : l <+: top ++ names := by
    rw [missing, List.mem_reverse] at hl
    obtain ⟨n, -, rfl⟩ := List.mem_map.mp ((List.takeWhile_sublist _).subset hl)
    exact (List.take_prefix _ _).trans (List.dropLast_prefix _)
  split at hmade
  · cases hmade
  · exact h.makeDirectories hnames hfront hmade

/-- A file that was written may get another time and other permissions. -/
theorem Writes.alter {content : ByteArray} (h : Writes top names content before fs)
    (hne : names ≠ []) {l : Location} {own : Entry}
    (hstatus : fs.status (Location.toPath (top ++ names)) = .ok (l, own)) {change : Entry → Entry}
    (hchange : ∀ e, (change e).node = e.node ∧ (change e).serial = e.serial) :
    Writes top names content before (fs.alter own.serial change) := by
  obtain ⟨e, hwritten⟩ := h.written
  cases h.isPlain.status_written hnames hwritten hstatus
  obtain ⟨halong, hstill⟩ := h.isPlain.alter hwritten hne hchange
  exact ⟨h.toChangesAlong.trans halong, _, hstill⟩

theorem unpackFile_ok (h : fs.IsPlain top) (hne : names ≠ [])
    (hok : unpackFile m (Location.toPath (top ++ names)) fs = (.ok (), after)) :
    Writes top names m.content fs after := by
  obtain ⟨cleared, hcleared, hrest⟩ := Outcome.andThen_eq_ok.mp hok
  have hclear : ChangesAlong top names fs cleared := by
    split at hcleared
    · exact h.unlink hnames hne (attempt_eq_ok.mp hcleared)
    · cases hcleared
      exact .refl h names
  split at hrest
  · cases hrest
  · rename_i serial made hmade
    obtain ⟨halong, hwritten⟩ := hclear.isPlain.createNew hnames hne hmade
    have hwrites : Writes top names m.content fs made := ⟨hclear.trans halong, hwritten⟩
    split at hrest
    · cases hrest
    · obtain ⟨dated, hdated, hmode⟩ := Outcome.andThen_eq_ok.mp hrest
      have hdate : Writes top names m.content fs dated := by
        split at hdated
        · obtain ⟨⟨l, own⟩, hstatus, hset⟩ := bind_eq_ok.mp (attempt_eq_ok.mp hdated)
          cases hset
          exact hwrites.alter hnames hne hstatus fun e => ⟨rfl, rfl⟩
        · cases hdated
          exact hwrites
      unfold applyMode at hmode
      split at hmode
      · obtain ⟨⟨l, own⟩, hstatus, hset⟩ := bind_eq_ok.mp (attempt_eq_ok.mp hmode)
        cases hset
        exact hdate.alter hnames hne hstatus fun e => ⟨rfl, rfl⟩
      · cases hmode
        exact hdate

end Member

/-! ### One after the other -/

/-- Files were put into a directory, one after the other, and nothing outside was changed. -/
structure Puts (top : Location) (files : List (List Name × ByteArray))
    (before after : FileSystem) : Prop extends ChangesInside top before after where
  isPlain : after.IsPlain top
  treeAt_eq : after.treeAt top = files.foldl Tree.put (before.treeAt top)

theorem Puts.refl (h : fs.IsPlain top) : Puts top [] fs fs := ⟨.refl top fs, h, rfl⟩

theorem Puts.trans {files others : List (List Name × ByteArray)} {between : FileSystem}
    (h : Puts top files before between) (h' : Puts top others between after) :
    Puts top (files ++ others) before after := by
  refine ⟨h.toChangesInside.trans h'.toChangesInside, h'.isPlain, ?_⟩
  rw [List.foldl_append, ← h.treeAt_eq, h'.treeAt_eq]

theorem unpackContent_of_isFile (hfile : m.IsFile) (p : Path) (fs : FileSystem) :
    unpackContent top m p fs = unpackFile m p fs := by
  have hslash : ¬(!m.header.isUstar && m.name.getLast? = some '/'.toUInt8) = true := by
    rcases hfile.named with hnamed | hnamed <;> simp [hnamed]
  unfold unpackContent
  rcases hfile.kind with hkind | hkind <;> simp only [hkind, if_neg hslash]

/-- A member for a file puts this file at its place, if it has one, and else nothing. -/
theorem unpackMember_ok (h : fs.IsPlain top) (hfile : m.IsFile)
    (hok : unpackMember top m fs = (.ok (), after)) : Puts top m.file?.toList fs after := by
  unfold unpackMember at hok
  unfold Member.file?
  cases hplace : m.names? with
  | none =>
    rw [hplace] at hok
    cases hok
    exact .refl h
  | some names =>
    obtain ⟨hne, hnames⟩ := names?_eq_some hplace
    rw [hplace] at hok
    obtain ⟨held, hheld, hrest⟩ := Outcome.andThen_eq_ok.mp hok
    have hheldAlong := makeHolder_ok hnames h hheld
    split at hrest
    · cases hrest
    · rw [unpackContent_of_isFile hfile] at hrest
      have hwritten := unpackFile_ok hnames hheldAlong.isPlain hne hrest
      have hwrites : Writes top names m.content fs after :=
        ⟨hheldAlong.trans hwritten.toChangesAlong, hwritten.written⟩
      exact ⟨hwrites.toChangesInside, hwrites.isPlain, hwrites.treeAt_eq⟩

/-- Members for files put their files one after the other. -/
theorem unpackAll_ok {members : List Member} (h : fs.IsPlain top) (hfiles : ∀ m ∈ members, m.IsFile)
    (hok : unpackAll top members fs = (.ok (), after)) :
    Puts top (members.filterMap (·.file?)) fs after := by
  induction members generalizing fs with
  | nil =>
    cases hok
    exact .refl h
  | cons m members ih =>
    obtain ⟨between, hfirst, hrest⟩ := inTurn_cons_eq_ok.mp hok
    obtain ⟨hfile, hfiles⟩ := List.forall_mem_cons.mp hfiles
    have hput := unpackMember_ok h hfile hfirst
    have hputs := hput.trans (ih hput.isPlain hfiles hrest)
    have hlist : (m :: members).filterMap (·.file?) =
        m.file?.toList ++ members.filterMap (·.file?) := by
      rw [List.filterMap_cons]
      cases m.file? <;> rfl
    rwa [hlist]

/-- An archive in which no member has to wait is unpacked member by member. -/
theorem Archive.unpack_eq {archive : Archive} {destination : Path}
    (hnow : ∀ m ∈ archive.members, m.isDeferred = false)
    (hleads : fs.IsDirectoryAt destination top) :
    archive.unpack destination fs =
      (unpackAll top archive.members fs).andThen fun fs =>
        match archive.fault? with
        | some fault => (.error (.malformed fault.message), fs)
        | none => (.ok (), fs) := by
  have hfilter : archive.members.filter (!·.isDeferred) = archive.members :=
    List.filter_eq_self.mpr fun m hm => by rw [hnow m hm]; rfl
  have hlater : deferredOrder archive.members = [] := by
    have hnone : archive.members.filter (·.isDeferred) = [] :=
      List.filter_eq_nil_iff.mpr fun m hm => by simp [hnow m hm]
    rw [deferredOrder, hnone, List.mergeSort_nil]
  obtain ⟨e, hstatus, -⟩ := id hleads
  rw [unpack, prepare_of_isDirectoryAt hleads, Outcome.andThen, hstatus]
  simp only [unpackAt, hfilter, hlater]
  rfl

theorem Archive.IsOfFiles.isDeferred_eq_false {archive : Archive} (hfiles : archive.IsOfFiles) :
    ∀ m ∈ archive.members, m.isDeferred = false := by
  intro m hm
  unfold Member.isDeferred
  rcases (hfiles m hm).kind with hkind | hkind <;> rw [hkind] <;> rfl

/-- An archive of files puts its files into the directory that it is unpacked into. -/
theorem Archive.unpack_ok {archive : Archive} {destination : Path} (hfiles : archive.IsOfFiles)
    (h : fs.IsPlain top) (hleads : fs.IsDirectoryAt destination top)
    (hok : archive.unpack destination fs = (.ok (), after)) : Puts top archive.files fs after := by
  rw [unpack_eq hfiles.isDeferred_eq_false hleads] at hok
  obtain ⟨between, hfirst, hrest⟩ := Outcome.andThen_eq_ok.mp hok
  split at hrest
  · cases hrest
  · cases hrest
    exact unpackAll_ok h hfiles hfirst

/-! ### An archive of one file -/

theorem isFile_threeBytes (content : ByteArray) : (threeBytes.member content).IsFile := by
  obtain ⟨-, -, -, hkind, -, -, -, hname⟩ := fields_threeBytes
  have hlast : (threeBytes.member content).name.getLast? ≠ some '/'.toUInt8 := by
    rw [Header.member, hname]
    exact of_decide_eq_true rfl
  exact ⟨.inl hkind, .inr hlast⟩

theorem names?_threeBytes (content : ByteArray) :
    (threeBytes.member content).names? = some [Name.ofText "f"] := by
  obtain ⟨-, -, -, -, -, -, -, hname⟩ := fields_threeBytes
  have hmember : (threeBytes.member content).name = ['f'.toUInt8] := hname
  rw [Member.names?, hmember]
  cbv

theorem isOfFiles_archiveOf {content : ByteArray} (hsize : content.size = 3) :
    (Tar.read (archiveOf content)).IsOfFiles := by
  rw [read_archiveOf hsize]
  exact List.forall_mem_singleton.mpr (isFile_threeBytes content)

theorem files_archiveOf {content : ByteArray} (hsize : content.size = 3) :
    (Tar.read (archiveOf content)).files = [([Name.ofText "f"], content)] := by
  rw [read_archiveOf hsize, Archive.files]
  simp only [List.filterMap_cons, List.filterMap_nil, Member.file?, names?_threeBytes,
    Option.map_some]
  rfl

/-- What unpacking the file comes to, once its header is read. -/
theorem unpackMember_threeBytes (top : Location) (content : ByteArray) (fs : FileSystem) :
    let place := top ++ [Name.ofText "f"]
    unpackMember top (threeBytes.member content) fs =
      (makeHolder fs top place.dropLast).andThen fun fs =>
        match checkInside fs top (Location.toPath place.dropLast) with
        | .error cause => (.error cause, fs)
        | .ok () =>
          Outcome.andThen (match fs.find (Location.toPath place) false with
            | .ok _ => attempt fs (fs.unlink (Location.toPath place))
            | .error _ => (.ok (), fs)) fun fs =>
              match fs.createNew (Location.toPath place) content with
              | .error cause => (.error cause, fs)
              | .ok (_, fs) =>
                (attempt fs (fs.setModified (Location.toPath place) (.ofParts 1 0))).andThen
                  fun fs => attempt fs (fs.setMode (Location.toPath place) 0o644) := by
  obtain ⟨-, -, -, -, -, hmode, hmodified, -⟩ := fields_threeBytes
  have hheader : (threeBytes.member content).header = threeBytes := rfl
  have hcontent : (threeBytes.member content).content = content := rfl
  have hsize : (threeBytes.member content).size = content.size := rfl
  have happly : applyMode threeBytes =
      fun p fs => attempt fs (fs.setMode p (0o644 % 0o1000)) := by
    funext p fs
    rw [applyMode, hmode]
  simp only [unpackMember, names?_threeBytes, unpackContent_of_isFile (isFile_threeBytes content),
    unpackFile, hheader, hcontent, hsize, lt_irrefl, if_false, hmodified, happly]
  rfl

theorem names?_climbingLink :
    (climbingLink.member ByteArray.empty).names? = some [Name.ofText "s"] := by
  obtain ⟨-, -, -, -, -, hname, -⟩ := fields_climbingLink
  have hmember : (climbingLink.member ByteArray.empty).name = ['s'.toUInt8] := hname
  rw [Member.names?, hmember]
  cbv

theorem unpackContent_climbingLink (top : Location) (p : Path) (fs : FileSystem) :
    unpackContent top (climbingLink.member ByteArray.empty) p fs =
      unpackSymbolicLink (.ofText "../z/q") p fs := by
  obtain ⟨-, -, -, hkind, -, -, htarget⟩ := fields_climbingLink
  have hlink : (climbingLink.member ByteArray.empty).linkName? =
      some (['.', '.', '/', 'z', '/', 'q'].map (·.toUInt8)) := htarget
  have hheader : (climbingLink.member ByteArray.empty).header = climbingLink := rfl
  have hbytes : Path.ofBytes (['.', '.', '/', 'z', '/', 'q'].map (·.toUInt8)) =
      .ofText "../z/q" := by
    cbv
  rw [unpackContent, hheader, hkind, hlink, ← hbytes]
  rfl

/-- Unpacking an archive of one member is unpacking this member. -/
theorem tar_single {h : Header} {content : ByteArray} {destination : Path}
    (hstates : h.StatesMember content.size) (hsmall : content.size ≤ blockSize)
    (hleads : before.IsDirectoryAt destination top)
    (hmember : unpackMember top (h.member content) before = (.ok (), after)) :
    Unpacker.tar (memberBlocks [(h, content)]) destination before = (.ok (), after) := by
  have hread := read_single hstates hsmall
  have hnow : ∀ m ∈ (Tar.read (memberBlocks [(h, content)])).members, m.isDeferred = false := by
    rw [hread]
    refine List.forall_mem_singleton.mpr ?_
    rw [Header.member, Member.isDeferred]
    rcases hstates.kind with hkind | hkind <;> rw [hkind] <;> rfl
  rw [Unpacker.tar, Archive.unpack_eq hnow hleads, hread]
  exact Outcome.andThen_eq_ok.mpr ⟨after, hmember, rfl⟩

theorem tar_archiveOf {content : ByteArray} {destination : Path} (hsize : content.size = 3)
    (hleads : before.IsDirectoryAt destination top)
    (hmember : unpackMember top (threeBytes.member content) before = (.ok (), after)) :
    Unpacker.tar (archiveOf content) destination before = (.ok (), after) :=
  tar_single (hsize ▸ statesMember_threeBytes) (by rw [hsize]; decide) hleads hmember

end Tar

/-! ### Archives in order -/

namespace Unpacker

variable {destination : Path} {tree : Tree}

open FileSystem

theorem turns_tar {content : ByteArray} (hfiles : (Tar.read content).IsOfFiles)
    (htree : tree.NoLink) :
    Unpacker.tar.Turns destination content tree
      ((Tar.read content).files.foldl Tree.put tree) := by
  intro top before after hsound hstraight hbefore hok
  have hleads := hstraight.isDirectoryAt
  have hplain : before.IsPlain top := by
    refine ⟨hsound, ?_, fun {below e target} hentry hnode => ?_⟩
    · obtain ⟨e, hstatus, hdir⟩ := hleads
      exact ⟨e, entry?_of_find hstatus, hdir⟩
    · refine @htree below target ?_
      rw [← hbefore, treeAt, hentry, Option.map_some, hnode]
  have hputs := Tar.Archive.unpack_ok hfiles hplain hleads hok
  exact ⟨hputs.isPlain.sound, hputs.toChangesInside, hbefore ▸ hputs.treeAt_eq⟩

/-- Archives of files put their files into a directory, one after the other. -/
theorem leads_tar {contents : List ByteArray}
    (hfiles : ∀ content ∈ contents, (Tar.read content).IsOfFiles) (htree : tree.NoLink) :
    Unpacker.tar.Leads destination contents tree
      (((contents.map Tar.read).flatMap (·.files)).foldl Tree.put tree) := by
  induction contents generalizing tree with
  | nil => exact .nil tree
  | cons content contents ih =>
    obtain ⟨hfirst, hrest⟩ := List.forall_mem_cons.mp hfiles
    rw [List.map_cons, List.flatMap_cons, List.foldl_append]
    exact .cons (turns_tar hfirst htree) (ih hrest htree.foldl_put)

theorem noLink_unpacked (contents : List ByteArray) :
    (Tree.unpacked Tree.putFiles contents).NoLink := by
  induction contents using List.reverseRecOn with
  | nil => exact Tree.noLink_empty
  | append_singleton contents last ih =>
    rw [Tree.unpacked, List.foldl_append]
    exact ih.foldl_put

/-- Archives of files make of a tree what their files make of it. -/
theorem lawful_tar (destination : Path) :
    Unpacker.tar.Lawful destination (fun content => (Tar.read content).IsOfFiles)
      Tree.putFiles where
  below := staysBelow_tar destination
  dated hwell hstraight h hbefore e hentry := by
    have hstays := staysInside_tar hwell hstraight h
    rcases hstays.dated hentry with ⟨own, hown, hsame⟩ | ⟨-, hearlier⟩
    · exact hsame ▸ Timestamp.le_trans (hbefore hown) hstays.clock
    · exact hearlier
  turns {contents _} _ hfiles := turns_tar hfiles (noLink_unpacked contents)

end Unpacker

end Launchpad
