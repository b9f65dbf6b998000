import Launchpad.FileSystem.Listing
import Launchpad.Proofs.FileSystem.Sound
import Launchpad.Proofs.Path.Along
import Mathlib.Data.List.Nodup
import Mathlib.Data.List.Perm.Subperm

/-!
What a listing of a tree holds, and in which order. A listing names every entry below its top, and a
walk of the tree lists the same under the paths that lead there. Both are in the order of the names
on the way: what one name leads to stands together, behind what a smaller name leads to.
-/

namespace Launchpad.FileSystem

variable {fs : FileSystem} {p : Path} {l : Location} {name : Name} {way : List Name} {e : Entry}

/-- What stands below a location is a tree: directories hold it, each under a name of its own. -/
structure IsTreeBelow (fs : FileSystem) (l : Location) : Prop where
  held : ∀ {way name e}, fs.entry? (l ++ way ++ [name]) = some e →
    ∃ d, fs.entry? (l ++ way) = some d ∧ d.isDirectory = true
  named : ∀ {way e}, fs.entry? (l ++ way) = some e → ∀ name ∈ way, Name.IsProper name
  distinct : ∀ way, ((fs.children (l ++ way)).map Name.bytes).Nodup

/-- A tree that can be walked from a path that leads to its top. Each directory can be opened by the
path that leads there: it is readable, the path is not too long, and what holds it can be searched. -/
structure IsReadableTree (fs : FileSystem) (p : Path) (l : Location) : Prop
    extends IsTreeBelow fs l where
  readable : ∀ {way d}, fs.entry? (l ++ way) = some d → d.isDirectory = true → d.readable = true
  fits : ∀ {way d}, fs.entry? (l ++ way) = some d → d.isDirectory = true →
    ¬(p.along way).bytes.length > pathLimit
  searched : ∀ {way name d inner}, fs.entry? (l ++ way) = some d →
    fs.entry? (l ++ way ++ [name]) = some inner → inner.isDirectory = true → d.executable = true

/-! ### What a directory holds -/

/-- The rows that name something in a directory are those right below it. -/
theorem heldName_eq_some_iff (m l : Location) (name : Name) :
    (if m.dropLast = l then m.getLast? else none) = some name ↔ m = l ++ [name] := by
  constructor
  · intro h
    split at h
    · rename_i hfront
      obtain ⟨front, rfl⟩ := List.getLast?_eq_some_iff.mp h
      rw [List.dropLast_concat] at hfront
      rw [hfront]
    · cases h
  · rintro rfl
    simp

theorem mem_children : name ∈ fs.children l ↔ ∃ e, fs.entry? (l ++ [name]) = some e := by
  unfold children entry?
  rw [List.mem_mergeSort, List.mem_filterMap, ← Option.isSome_iff_exists, List.lookup_isSome_iff]
  constructor
  · rintro ⟨row, hmem, h⟩
    exact ⟨row, hmem, beq_iff_eq.mpr ((heldName_eq_some_iff row.1 l name).mp h).symm⟩
  · rintro ⟨row, hmem, h⟩
    exact ⟨row, hmem, (heldName_eq_some_iff row.1 l name).mpr (beq_iff_eq.mp h).symm⟩

/-- The rows of a table tell apart what a directory holds. -/
theorem nodup_children (h : (fs.entries.map fun row => row.1.map Name.bytes).Nodup)
    (l : Location) : ((fs.children l).map Name.bytes).Nodup := by
  have hperm := List.mergeSort_perm
    (fs.entries.filterMap fun row => if row.1.dropLast = l then row.1.getLast? else none) Name.le
  refine ((hperm.map Name.bytes).nodup_iff).mpr ?_
  rw [List.Nodup, List.pairwise_map, List.pairwise_filterMap]
  refine (List.pairwise_map.mp h).imp fun {row other} hne a ha b hb hbytes => hne ?_
  rw [(heldName_eq_some_iff row.1 l a).mp ha, (heldName_eq_some_iff other.1 l b).mp hb]
  rw [List.map_append, List.map_append, List.map_singleton, List.map_singleton, hbytes]

theorem Sound.isTreeBelow (h : fs.Sound)
    (hdistinct : (fs.entries.map fun row => row.1.map Name.bytes).Nodup) (l : Location) :
    fs.IsTreeBelow l := by
  refine ⟨fun {way name e} hentry => ?_, fun {way e} hentry name hname => ?_, fun way => ?_⟩
  · have hheld := h.isTree.held hentry (by simp)
    rwa [List.dropLast_concat] at hheld
  · exact h.isNamed hentry name (List.mem_append_right l hname)
  · exact nodup_children hdistinct (l ++ way)

/-- That a tree can be walked can be seen from the rows of its table. -/
theorem Sound.isReadableTree (h : fs.Sound)
    (hdistinct : (fs.entries.map fun row => row.1.map Name.bytes).Nodup)
    (hrows : ∀ x ∈ fs.entries, l <+: x.1 → x.2.isDirectory = true →
      x.2.readable = true ∧ x.2.executable = true ∧
        ¬(p.along (x.1.drop l.length)).bytes.length > pathLimit) :
    fs.IsReadableTree p l := by
  have htree := h.isTreeBelow hdistinct l
  have hopens : ∀ {way d}, fs.entry? (l ++ way) = some d → d.isDirectory = true →
      d.readable = true ∧ d.executable = true ∧
        ¬(p.along way).bytes.length > pathLimit := by
    intro way d hd hdir
    have hrow := of_entry?_eq_some
      (P := fun m d => l <+: m → d.isDirectory = true → d.readable = true ∧ d.executable = true ∧
        ¬(p.along (m.drop l.length)).bytes.length > pathLimit)
      hrows hd (List.prefix_append l way) hdir
    rwa [List.drop_left] at hrow
  refine ⟨htree, fun hd hdir => (hopens hd hdir).1, fun hd hdir => (hopens hd hdir).2.2, ?_⟩
  intro way name d inner hd hinner _
  obtain ⟨holder, hholder, hdir⟩ := htree.held hinner
  rw [hd] at hholder
  cases hholder
  exact (hopens hd hdir).2.1

namespace IsTreeBelow

theorem isSingle (h : fs.IsTreeBelow l) (hentry : fs.entry? (l ++ way) = some e) :
    ∀ name ∈ way, Path.IsSingle name :=
  fun name hname => (h.named hentry name hname).toIsSingle

theorem pairwise_children (h : fs.IsTreeBelow l) (way : List Name) :
    (fs.children (l ++ way)).Pairwise fun a b => a.bytes < b.bytes := by
  have hsorted : (fs.children (l ++ way)).Pairwise fun a b => Name.le a b = true :=
    List.pairwise_mergeSort Name.le_trans Name.le_total _
  have hdistinct := List.pairwise_map.mp (h.distinct way)
  exact (hsorted.and hdistinct).imp fun hboth => Name.lt_of_le_of_ne hboth.1 hboth.2

/-- What stands above an entry of a tree is a directory. -/
theorem exists_directory (h : fs.IsTreeBelow l) {rest : List Name} (hrest : rest ≠ [])
    (hentry : fs.entry? (l ++ (way ++ rest)) = some e) :
    ∃ d, fs.entry? (l ++ way) = some d ∧ d.isDirectory = true := by
  induction rest using List.reverseRecOn generalizing e with
  | nil => exact absurd rfl hrest
  | append_singleton rest name ih =>
    have hlast : fs.entry? (l ++ (way ++ rest) ++ [name]) = some e := by simpa using hentry
    obtain ⟨d, hd, hdir⟩ := h.held hlast
    by_cases hmore : rest = []
    · rw [hmore, List.append_nil] at hd
      exact ⟨d, hd, hdir⟩
    · exact ih hmore hd

/-- A way through a tree is shorter than the table: each step on it has a row. -/
theorem length_lt (h : fs.IsTreeBelow l) (hentry : fs.entry? (l ++ way) = some e) :
    way.length < fs.entries.length := by
  have hnodup : ((List.range (way.length + 1)).map fun n => l ++ way.take n).Nodup := by
    refine List.Nodup.map_on (fun n hn k hk heq => ?_) List.nodup_range
    have hlength := congrArg List.length (List.append_cancel_left heq)
    rw [List.length_take, List.length_take] at hlength
    rw [List.mem_range] at hn hk
    omega
  have hsubset : ((List.range (way.length + 1)).map fun n => l ++ way.take n) ⊆
      fs.entries.map Prod.fst := by
    intro m hm
    obtain ⟨n, -, rfl⟩ := List.mem_map.mp hm
    have hthere : ∃ d, fs.entry? (l ++ way.take n) = some d := by
      by_cases hrest : way.drop n = []
      · rw [List.take_of_length_le (List.drop_eq_nil_iff.mp hrest)]
        exact ⟨e, hentry⟩
      · rw [← List.take_append_drop n way] at hentry
        obtain ⟨d, hd, -⟩ := h.exists_directory hrest hentry
        exact ⟨d, hd⟩
    obtain ⟨row, hrow, heq⟩ := List.lookup_isSome_iff.mp (Option.isSome_iff_exists.mpr hthere)
    exact List.mem_map.mpr ⟨row, hrow, (beq_iff_eq.mp heq).symm⟩
  have hle := (List.subperm_of_subset hnodup hsubset).length_le
  rw [List.length_map, List.length_map, List.length_range] at hle
  omega

end IsTreeBelow

/-! ### Listings -/

/-- What one way adds to a listing: the entry that it leads to, and what is listed below. -/
def listedUnder (fs : FileSystem) (fuel : Nat) (top : Location) (below : List Name) :
    List (List Name × Entry) :=
  match fs.entry? (top ++ below) with
  | none => []
  | some e => if e.isDirectory then (below, e) :: fs.listingFuel fuel top below else [(below, e)]

theorem listingFuel_succ (fs : FileSystem) (fuel : Nat) (top : Location) (way : List Name) :
    fs.listingFuel (fuel + 1) top way =
      (fs.children (top ++ way)).flatMap fun name => fs.listedUnder fuel top (way ++ [name]) :=
  rfl

theorem listedUnder_eq (fuel : Nat) (h : fs.entry? (l ++ way) = some e) :
    fs.listedUnder fuel l way =
      (way, e) :: if e.isDirectory then fs.listingFuel fuel l way else [] := by
  unfold listedUnder
  rw [h]
  cases hdir : e.isDirectory with
  | true => simp [hdir]
  | false => simp [hdir]

theorem mem_listedUnder {fuel : Nat} {x : List Name × Entry} :
    x ∈ fs.listedUnder fuel l way ↔
      ∃ e, fs.entry? (l ++ way) = some e ∧
        (x = (way, e) ∨ e.isDirectory = true ∧ x ∈ fs.listingFuel fuel l way) := by
  cases hentry : fs.entry? (l ++ way) with
  | none => simp [listedUnder, hentry]
  | some e =>
    rw [listedUnder_eq fuel hentry]
    cases hdir : e.isDirectory with
    | true => simp [hdir]
    | false => simp [hdir]

namespace IsTreeBelow

/-- A listing holds what some more names lead to, as far down as it reaches. -/
theorem mem_listingFuel (h : fs.IsTreeBelow l) {fuel : Nat} {w : List Name} :
    (w, e) ∈ fs.listingFuel fuel l way ↔
      ∃ rest, rest ≠ [] ∧ rest.length ≤ fuel ∧ w = way ++ rest ∧ fs.entry? (l ++ w) = some e := by
  induction fuel generalizing way with
  | zero =>
    constructor
    · intro hmem
      cases hmem
    · rintro ⟨rest, hrest, hlength, -, -⟩
      exact absurd (List.length_eq_zero_iff.mp (Nat.le_zero.mp hlength)) hrest
  | succ fuel ih =>
    rw [listingFuel_succ, List.mem_flatMap]
    constructor
    · rintro ⟨name, -, hmem⟩
      obtain ⟨inner, hinner, heq | ⟨-, hbelow⟩⟩ := mem_listedUnder.mp hmem
      · cases heq
        exact ⟨[name], by simp, by simp, rfl, hinner⟩
      · obtain ⟨rest, -, hlength, rfl, hentry⟩ := ih.mp hbelow
        exact ⟨name :: rest, by simp, by simpa using hlength, by simp, hentry⟩
    · rintro ⟨rest, hrest, hlength, hw, hentry⟩
      obtain ⟨name, more, rfl⟩ := List.exists_cons_of_ne_nil hrest
      rw [List.append_cons] at hw
      by_cases hmore : more = []
      · rw [hmore, List.append_nil] at hw
        rw [hw] at hentry ⊢
        refine ⟨name, mem_children.mpr ⟨e, ?_⟩, mem_listedUnder.mpr ⟨e, hentry, .inl rfl⟩⟩
        rwa [List.append_assoc]
      · obtain ⟨d, hd, hdir⟩ := h.exists_directory hmore (hw ▸ hentry)
        have hbelow := ih.mpr ⟨more, hmore, Nat.le_of_succ_le_succ hlength, hw, hentry⟩
        refine ⟨name, mem_children.mpr ⟨d, ?_⟩, mem_listedUnder.mpr ⟨d, hd, .inr ⟨hdir, hbelow⟩⟩⟩
        rwa [List.append_assoc]

/-- With a row of the table for each step, a listing reaches everything. -/
theorem mem_listing (h : fs.IsTreeBelow l) {w : List Name} :
    (w, e) ∈ fs.listingFuel fs.entries.length l [] ↔ w ≠ [] ∧ fs.entry? (l ++ w) = some e := by
  rw [h.mem_listingFuel]
  constructor
  · rintro ⟨rest, hrest, -, rfl, hentry⟩
    exact ⟨hrest, hentry⟩
  · rintro ⟨hw, hentry⟩
    exact ⟨w, hw, (h.length_lt hentry).le, rfl, hentry⟩

theorem exists_of_mem_listedUnder (h : fs.IsTreeBelow l) {fuel : Nat} {x : List Name × Entry}
    (hx : x ∈ fs.listedUnder fuel l way) : ∃ rest, x.1 = way ++ rest := by
  obtain ⟨inner, -, rfl | ⟨-, hbelow⟩⟩ := mem_listedUnder.mp hx
  · exact ⟨[], (List.append_nil way).symm⟩
  · obtain ⟨rest, -, -, heq, -⟩ := h.mem_listingFuel.mp hbelow
    exact ⟨rest, heq⟩

/-- What stands in a directory comes behind it: its way goes on. -/
theorem pairwise_listedUnder (h : fs.IsTreeBelow l) {fuel : Nat}
    (hlisting : (fs.listingFuel fuel l way).Pairwise fun x y =>
      x.1.map Name.bytes < y.1.map Name.bytes) :
    (fs.listedUnder fuel l way).Pairwise fun x y =>
      x.1.map Name.bytes < y.1.map Name.bytes := by
  unfold listedUnder
  split
  · exact List.Pairwise.nil
  · split
    · refine List.pairwise_cons.mpr ⟨fun y hy => ?_, hlisting⟩
      obtain ⟨rest, hrest, -, heq, -⟩ := h.mem_listingFuel.mp hy
      obtain ⟨next, more, rfl⟩ := List.exists_cons_of_ne_nil hrest
      have hlonger := @List.append_left_lt _ _ (way.map Name.bytes) _ _
        (List.nil_lt_cons next.bytes (more.map Name.bytes))
      rw [heq]
      simpa using hlonger
    · exact List.pairwise_singleton _ _

/-- A listing is in the order of the names on the way, each compared by its bytes. -/
theorem pairwise_listingFuel (h : fs.IsTreeBelow l) (fuel : Nat) (way : List Name) :
    (fs.listingFuel fuel l way).Pairwise fun x y =>
      x.1.map Name.bytes < y.1.map Name.bytes := by
  induction fuel generalizing way with
  | zero => exact List.Pairwise.nil
  | succ fuel ih =>
    rw [listingFuel_succ, List.pairwise_flatMap]
    constructor
    · intro name _
      exact h.pairwise_listedUnder (ih (way ++ [name]))
    · refine (h.pairwise_children way).imp fun {a b} hlt x hx y hy => ?_
      -- The ways part at the two names, and these settle the order.
      obtain ⟨left, hleft⟩ := h.exists_of_mem_listedUnder hx
      obtain ⟨right, hright⟩ := h.exists_of_mem_listedUnder hy
      have hpart : a.bytes :: left.map Name.bytes < b.bytes :: right.map Name.bytes :=
        List.cons_lt_cons_iff.mpr (.inl hlt)
      rw [hleft, hright]
      simpa using List.append_left_lt hpart

end IsTreeBelow

/-! ### Walks -/

def fromPath (p : Path) (x : List Name × Entry) : Path × Entry := (p.along x.1, x.2)

/-- A directory that can be opened is walked by walking what it holds, name by name. -/
theorem walkTreeFuel_directory {fuel : Nat} {reached : Bool} (hdir : e.isDirectory = true)
    (hopen : openListing p reached e = .ok ()) (below : Name → List (Path × Entry))
    (hbelow : ∀ name inner, fs.entry? (l ++ [name]) = some inner →
      fs.walkTreeFuel fuel e.executable (p.join ⟨name⟩) (l ++ [name]) inner = .ok (below name)) :
    fs.walkTreeFuel (fuel + 1) reached p l e =
      .ok ((p, e) :: (fs.children l).flatMap below) := by
  have hchildren : ((fs.children l).mapM fun name =>
      match fs.entry? (l ++ [name]) with
      | none => (.ok [] : Except IoError (List (Path × Entry)))
      | some inner =>
        fs.walkTreeFuel fuel e.executable (p.join ⟨name⟩) (l ++ [name]) inner) =
      .ok ((fs.children l).map below) := by
    refine Results.mapM_eq_ok fun name hname => ?_
    obtain ⟨inner, hinner⟩ := mem_children.mp hname
    simp only [hinner]
    exact hbelow name inner hinner
  rw [walkTreeFuel, hdir, hopen, List.flatMap_def]
  simp only [Bool.not_true, Bool.false_eq_true, if_false]
  exact Results.bind_eq_ok.mpr ⟨(), rfl, Results.bind_eq_ok.mpr ⟨_, hchildren, rfl⟩⟩

namespace IsReadableTree

theorem openListing_eq_ok (h : fs.IsReadableTree p l) (hentry : fs.entry? (l ++ way) = some e)
    (hdir : e.isDirectory = true) : openListing (p.along way) true e = .ok () := by
  unfold openListing
  rw [if_neg (h.fits hentry hdir), h.readable hentry hdir]
  rfl

/-- A walk finds what a listing does, each entry under the path that leads there. -/
theorem walkTreeFuel_eq (h : fs.IsReadableTree p l) (fuel : Nat) {reached : Bool}
    (hentry : fs.entry? (l ++ way) = some e) (hreached : e.isDirectory = true → reached = true) :
    fs.walkTreeFuel (fuel + 1) reached (p.along way) (l ++ way) e =
      .ok ((fs.listedUnder fuel l way).map (fromPath p)) := by
  induction fuel generalizing way e reached with
  | zero =>
    rw [listedUnder_eq 0 hentry]
    cases hdir : e.isDirectory with
    | false => simp [walkTreeFuel, hdir, fromPath]
    | true =>
      have hopen := h.openListing_eq_ok hentry hdir
      rw [hreached hdir, walkTreeFuel_directory hdir hopen (fun _ => []) fun _ _ _ => rfl]
      simp [listingFuel, fromPath]
  | succ fuel ih =>
    rw [listedUnder_eq (fuel + 1) hentry]
    cases hdir : e.isDirectory with
    | false => simp [walkTreeFuel, hdir, fromPath]
    | true =>
      have hopen := h.openListing_eq_ok hentry hdir
      rw [hreached hdir, walkTreeFuel_directory hdir hopen
        (fun name => (fs.listedUnder fuel l (way ++ [name])).map (fromPath p))]
      · rw [if_pos rfl, listingFuel_succ, List.map_cons, List.map_flatMap]
        rfl
      · intro name inner hinner
        have hsearched := h.searched hentry hinner
        rw [List.append_assoc] at hinner ⊢
        rw [← Path.along_concat]
        exact ih hinner hsearched

/-- The walk of a tree starts with its top and goes on with its listing. -/
theorem walkTree_eq (h : fs.IsReadableTree p l) (hstatus : fs.status p = .ok (l, e))
    (hdir : e.isDirectory = true) :
    fs.walkTree p =
      .ok ((p, e) :: (fs.listingFuel fs.entries.length l []).map (fromPath p)) := by
  obtain ⟨⟨l', own, hfind⟩, -⟩ := locate_unfollowed hstatus
  have hentry : fs.entry? (l ++ []) = some e := by
    rw [List.append_nil]
    exact entry?_of_find hstatus
  have hwalk := h.walkTreeFuel_eq fs.entries.length hentry fun _ => rfl
  rw [listedUnder_eq _ hentry, if_pos hdir, List.append_nil] at hwalk
  unfold walkTree
  rw [hfind, hstatus]
  simp only [hdir, if_true]
  exact hwalk

end IsReadableTree

end Launchpad.FileSystem
