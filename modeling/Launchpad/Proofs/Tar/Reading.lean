import Launchpad.Proofs.Tar.Files
import Launchpad.Tar.Written

/-!
Reading what was written. The blocks of files and links, each behind a header that states its size,
are read as these members and nothing else.
-/

namespace Launchpad.Tar

/-! ### Fields -/

theorem toList_loop (bytes : ByteArray) (i : Nat) (front : List UInt8) :
    ByteArray.toList.loop bytes i front = front.reverse ++ bytes.data.toList.drop i := by
  fun_induction ByteArray.toList.loop bytes i front with
  | case1 i front hlt ih =>
    have hnext : i < bytes.data.toList.length := hlt
    have hbyte : bytes.get! i = bytes.data.toList[i] := getElem!_pos bytes.data i hlt
    rw [ih, List.drop_eq_getElem_cons hnext, hbyte]
    simp
  | case2 i front hge =>
    have hnone : bytes.data.toList.drop i = [] := List.drop_eq_nil_of_le (Nat.le_of_not_lt hge)
    rw [hnone, List.append_nil]

theorem toList_eq (bytes : ByteArray) : bytes.toList = bytes.data.toList := by
  rw [ByteArray.toList, toList_loop, List.reverse_nil, List.nil_append, List.drop_zero]

theorem Header.field_eq (h : Header) (start length : Nat) :
    h.field start length = (h.bytes.data.toList.drop start).take length := by
  rw [field, toList_eq, ByteArray.data_extract, Array.toList_extract, List.extract_eq_take_drop,
    Nat.add_sub_cancel_left]

/-! ### Members -/

/-- A header that can be read, and states a file or a symbolic link of some size. -/
structure Header.StatesMember (h : Header) (size : Nat) : Prop where
  isBlock : h.bytes.size = blockSize
  notZero : h.isZero = false
  sumHolds : h.sumHolds = true
  kind : h.kind = .regular ∨ h.kind = .symbolicLink
  states : h.size? = some size

def Header.member (h : Header) (content : ByteArray) : Member :=
  ⟨h, h.name, h.linkName?, content.size, content⟩

/-- The blocks of members, each content behind its header. -/
def memberBlocks : List (Header × ByteArray) → ByteArray
  | [] => ByteArray.empty
  | (h, content) :: members => h.bytes ++ (padded content ++ memberBlocks members)

theorem size_padded (content : ByteArray) :
    (padded content).size = (content.size + (blockSize - 1)) / blockSize * blockSize := by
  have hzeros : ∀ n, (ByteArray.mk (Array.replicate n 0)).size = n := fun n => by
    simp [ByteArray.size]
  rw [padded, ByteArray.size_append, hzeros, blockSize]
  omega

theorem extract_padded (content rest : ByteArray) :
    (padded content ++ rest).extract 0 content.size = content := by
  rw [padded, ByteArray.append_assoc]
  exact ByteArray.extract_append_eq_left rfl

variable {members : List (Header × ByteArray)}

/-- A member is read where its header begins, and what stands behind its blocks from there on. -/
theorem readFuel_member (fuel : Nat) {h : Header} {content front : ByteArray} (rest : ByteArray)
    (hstates : h.StatesMember content.size)
    (hsmall : (front ++ h.bytes ++ padded content).size < wordLimit) :
    let bytes := front ++ h.bytes ++ padded content ++ rest
    let after := readFuel bytes fuel (front ++ h.bytes ++ padded content).size {}
    readFuel bytes (fuel + 1) front.size {} =
      { after with members := h.member content :: after.members } := by
  intro bytes after
  have hblock := hstates.isBlock
  have hbytes : bytes = front ++ (h.bytes ++ (padded content ++ rest)) := by
    simp only [bytes, ByteArray.append_assoc]
  have hheader : bytes.extract front.size (front.size + blockSize) = h.bytes := by
    have hbehind : bytes.extract (front.size + 0) (front.size + blockSize) =
        (h.bytes ++ (padded content ++ rest)).extract 0 blockSize := by
      rw [hbytes]
      exact ByteArray.extract_append_size_add
    exact hbehind.trans (ByteArray.extract_append_eq_left hblock.symm)
  have hcontent : bytes.extract (front.size + blockSize) (front.size + blockSize + content.size) =
      content := by
    have hfront : front.size + blockSize = (front ++ h.bytes).size + 0 := by
      rw [ByteArray.size_append, hblock, Nat.add_zero]
    rw [hbytes, ← ByteArray.append_assoc, hfront, Nat.add_assoc,
      ByteArray.extract_append_size_add, Nat.zero_add]
    exact extract_padded content rest
  have hnext : front.size + blockSize + (content.size + (blockSize - 1)) / blockSize * blockSize =
      (front ++ h.bytes ++ padded content).size := by
    rw [ByteArray.size_append, ByteArray.size_append, hblock, size_padded]
  have hfits : front.size + blockSize ≤ bytes.size := by
    rw [hbytes, ByteArray.size_append, ByteArray.size_append, hblock]
    omega
  have hinside : ¬front.size > bytes.size ∧ ¬front.size = bytes.size ∧
      ¬front.size + blockSize > bytes.size := by
    have hpos : 0 < blockSize := by decide
    omega
  have hown : describes h = false := by
    rcases hstates.kind with hkind | hkind <;> simp [describes, hkind]
  have hwhole : h.kind ≠ .sparse := by
    rcases hstates.kind with hkind | hkind <;> simp [hkind]
  rw [readFuel, if_neg hinside.1, if_neg hinside.2.1, if_neg hinside.2.2]
  simp only [hheader, hstates.notZero, hstates.sumHolds, hstates.states, hown, hwhole,
    Description.size, Option.bind_none, Option.getD_none, Bool.not_true, Bool.false_eq_true,
    if_false, hnext, hcontent, if_neg (Nat.not_le.mpr hsmall), Nat.add_zero]
  rfl

/-- The blocks of members are read as these members. The induction is on the members; what was read
before them stands in front. -/
theorem readFuel_memberBlocks {fuel : Nat} (front : ByteArray)
    (hstates : ∀ m ∈ members, m.1.StatesMember m.2.size) (hfuel : members.length < fuel)
    (hsmall : (front ++ memberBlocks members).size < wordLimit) :
    readFuel (front ++ memberBlocks members) fuel front.size {} =
      ⟨members.map fun m => m.1.member m.2, none, (front ++ memberBlocks members).size⟩ := by
  induction members generalizing fuel front with
  | nil =>
    obtain ⟨n, rfl⟩ := Nat.exists_eq_succ_of_ne_zero (Nat.ne_zero_of_lt hfuel)
    rw [memberBlocks, ByteArray.append_empty, readFuel]
    simp [Description.isEmpty]
  | cons m members ih =>
    obtain ⟨h, content⟩ := m
    obtain ⟨n, rfl⟩ := Nat.exists_eq_succ_of_ne_zero (Nat.ne_zero_of_lt hfuel)
    obtain ⟨hmember, hmembers⟩ := List.forall_mem_cons.mp hstates
    have hbytes : front ++ memberBlocks ((h, content) :: members) =
        front ++ h.bytes ++ padded content ++ memberBlocks members := by
      simp only [memberBlocks, ByteArray.append_assoc]
    rw [hbytes] at hsmall ⊢
    have hrest := ih _ hmembers (Nat.lt_of_succ_lt_succ hfuel) hsmall
    have hfront : (front ++ h.bytes ++ padded content).size < wordLimit := by
      rw [ByteArray.size_append] at hsmall
      omega
    have hfirst := readFuel_member n (memberBlocks members) hmember hfront
    simp only [hrest] at hfirst
    exact hfirst

theorem length_mul_blockSize_le (hstates : ∀ m ∈ members, m.1.StatesMember m.2.size) :
    members.length * blockSize ≤ (memberBlocks members).size := by
  induction members with
  | nil => simp
  | cons m members ih =>
    obtain ⟨hmember, hmembers⟩ := List.forall_mem_cons.mp hstates
    have hrest := ih hmembers
    rw [memberBlocks, ByteArray.size_append, ByteArray.size_append, hmember.isBlock,
      List.length_cons, Nat.add_mul]
    omega

/-- An archive of members is read as these members. -/
theorem read_memberBlocks (hstates : ∀ m ∈ members, m.1.StatesMember m.2.size)
    (hsmall : (memberBlocks members).size < wordLimit) :
    Tar.read (memberBlocks members) =
      ⟨members.map fun m => m.1.member m.2, none, (memberBlocks members).size⟩ := by
  have hlength : members.length ≤ (memberBlocks members).size / blockSize :=
    (Nat.le_div_iff_mul_le (by decide)).mpr (length_mul_blockSize_le hstates)
  have hfuel : members.length < (memberBlocks members).size / blockSize + 2 := by omega
  have hread := readFuel_memberBlocks ByteArray.empty hstates hfuel
    (by rwa [ByteArray.empty_append])
  rwa [ByteArray.empty_append] at hread

/-- An archive of one member, whose content takes up no more than a block. -/
theorem read_single {h : Header} {content : ByteArray} (hstates : h.StatesMember content.size)
    (hsmall : content.size ≤ blockSize) :
    Tar.read (memberBlocks [(h, content)]) =
      ⟨[h.member content], none, (memberBlocks [(h, content)]).size⟩ := by
  refine read_memberBlocks (List.forall_mem_singleton.mpr hstates) ?_
  rw [memberBlocks, memberBlocks, ByteArray.append_empty, ByteArray.size_append, size_padded,
    hstates.isBlock]
  have hlimit : 3 * blockSize < wordLimit := by decide
  have hpos : 0 < blockSize := by decide
  have hblocks : (content.size + (blockSize - 1)) / blockSize ≤ 1 := by
    rw [← Nat.lt_succ_iff, Nat.div_lt_iff_lt_mul hpos]
    omega
  have hpadded := Nat.mul_le_mul_right blockSize hblocks
  omega

/-! ### An archive of one file -/

/-- The header of a file `f` of three bytes. -/
def threeBytes : Header := Statement.header { name := "f".toUTF8.toList, size := 3 }

/-- What can be read in the header. -/
theorem fields_threeBytes :
    threeBytes.bytes.size = blockSize ∧ threeBytes.isZero = false ∧
      threeBytes.sumHolds = true ∧ threeBytes.kind = .regular ∧ threeBytes.size? = some 3 ∧
      threeBytes.mode? = some 0o644 ∧ threeBytes.modified? = some 0 ∧
      threeBytes.name = ['f'.toUInt8] := by
  rw [Header.isZero, toList_eq, Header.sumHolds, Header.sum, Header.kind,
    Header.size?, Header.mode?, Header.modified?, Header.name, Header.isUstar]
  simp only [Header.field_eq]
  decide +kernel

theorem statesMember_threeBytes : threeBytes.StatesMember 3 := by
  obtain ⟨hblock, hzero, hsum, hkind, hsize, -⟩ := fields_threeBytes
  exact ⟨hblock, hzero, hsum, .inl hkind, hsize⟩

def archiveOf (content : ByteArray) : ByteArray := memberBlocks [(threeBytes, content)]

theorem read_archiveOf {content : ByteArray} (hsize : content.size = 3) :
    Tar.read (archiveOf content) =
      ⟨[threeBytes.member content], none, (archiveOf content).size⟩ :=
  read_single (hsize ▸ statesMember_threeBytes) (by rw [hsize]; decide)

/-! ### An archive of one link -/

/-- The header of a link `s` that leads to `../z/q`. -/
def climbingLink : Header :=
  Statement.header
    { name := "s".toUTF8.toList, kind := .symbolicLink, target := "../z/q".toUTF8.toList }

theorem fields_climbingLink :
    climbingLink.bytes.size = blockSize ∧ climbingLink.isZero = false ∧
      climbingLink.sumHolds = true ∧ climbingLink.kind = .symbolicLink ∧
      climbingLink.size? = some 0 ∧ climbingLink.name = ['s'.toUInt8] ∧
      climbingLink.linkName? = some (['.', '.', '/', 'z', '/', 'q'].map (·.toUInt8)) := by
  rw [Header.isZero, toList_eq, Header.sumHolds, Header.sum, Header.kind,
    Header.size?, Header.name, Header.linkName?, Header.isUstar]
  simp only [Header.field_eq]
  decide +kernel

theorem statesMember_climbingLink : climbingLink.StatesMember ByteArray.empty.size := by
  obtain ⟨hblock, hzero, hsum, hkind, hsize, -⟩ := fields_climbingLink
  exact ⟨hblock, hzero, hsum, .inr hkind, hsize⟩

/-- An archive with this link in it. -/
def linkArchive : ByteArray := memberBlocks [(climbingLink, ByteArray.empty)]

end Launchpad.Tar
