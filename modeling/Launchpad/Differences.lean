/-!
Where two rows of items differ. What the rows share at their ends is put aside; the rest is cut in
two where the shortest way from one row to the other has its middle, and each part is treated in the
same way. In the end every run of differences is moved as far back in its row as it goes, unless a
run of the other row stands earlier.
-/

namespace Launchpad

/-- A place where two rows differ: so many items of the first, in place of which so many of the
second stand. Positions count from zero. -/
structure Difference where
  first : Nat
  removed : Nat
  second : Nat
  added : Nat
  deriving DecidableEq, Repr, Inhabited

namespace Difference

def marked (marks : Array Bool) (i : Nat) : Bool := (marks[i]?).getD false

/-- The first position from one on that is not marked. `fuel` bounds the number of marks. -/
def nextFree (marks : Array Bool) : Nat → Nat → Nat
  | 0, i => i
  | fuel + 1, i => if marked marks i then nextFree marks fuel (i + 1) else i

/-- The last position before one that is not marked. -/
def freeBefore (marks : Array Bool) : Nat → Nat
  | 0 => 0
  | i + 1 => if marked marks i then freeBefore marks i else i

/-- A part of the search: from and up to positions of both rows. -/
structure Window where
  x : Nat
  xEnd : Nat
  y : Nat
  yEnd : Nat

/-- Go on behind equal items. `fuel` bounds their number. -/
def slide (a b : Array Nat) (xEnd yEnd : Nat) : Nat → Nat → Nat → Nat × Nat
  | 0, x, y => (x, y)
  | fuel + 1, x, y =>
    if x < xEnd && y < yEnd && a[x]? = b[y]? then slide a b xEnd yEnd fuel (x + 1) (y + 1)
    else (x, y)

/-- Go back in front of equal items. `fuel` bounds their number. -/
def slideBack (a b : Array Nat) (x₀ y₀ : Nat) : Nat → Nat → Nat → Nat × Nat
  | 0, x, y => (x, y)
  | fuel + 1, x, y =>
    if x₀ < x && y₀ < y && a[x - 1]? = b[y - 1]? then slideBack a b x₀ y₀ fuel (x - 1) (y - 1)
    else (x, y)

/-- How far the ways from both ends have come: the furthest position of the first row on each
diagonal, and the diagonals that are looked at. -/
structure Front where
  reach : Array Int
  least : Int
  greatest : Int

namespace Front

/-- The position on a diagonal; `shift` makes diagonals count from zero. -/
def reachOn (f : Front) (shift : Int) (d : Int) : Int := (f.reach[(d + shift).toNat]?).getD 0

def put (f : Front) (shift : Int) (d : Int) (x : Int) : Front :=
  { f with reach := f.reach.setIfInBounds (d + shift).toNat x }

/-- Look at one more diagonal on both sides, as long as there are some; `outside` is the position
beyond the last of them. -/
def widen (f : Front) (shift least greatest : Int) (outside : Int) : Front :=
  let f := if f.least > least then
      { f.put shift (f.least - 2) outside with least := f.least - 1 }
    else { f with least := f.least + 1 }
  if f.greatest < greatest then
    { f.put shift (f.greatest + 2) outside with greatest := f.greatest + 1 }
  else { f with greatest := f.greatest - 1 }

/-- Every second diagonal that is looked at, greater ones first. -/
def diagonals (f : Front) : List Int :=
  (List.range ((f.greatest - f.least) / 2 + 1).toNat).map fun (k : Nat) =>
    f.greatest - 2 * (k : Int)

end Front

/-- Go a step on from the front on some diagonals. The answer holds a place where the ways meet. -/
def stepForward (a b : Array Nat) (w : Window) (shift : Int) (meets : Bool) (back : Front) :
    List Int → Front → Option (Nat × Nat) × Front
  | [], f => (none, f)
  | d :: rest, f =>
    let low := f.reachOn shift (d - 1)
    let high := f.reachOn shift (d + 1)
    let x := if low < high then high else low + 1
    let (x, y) := slide a b w.xEnd w.yEnd (a.size + 1) x.toNat (x - d).toNat
    let f := f.put shift d x
    if meets && back.least ≤ d && d ≤ back.greatest && back.reachOn shift d ≤ x then
      (some (x, y), f)
    else stepForward a b w shift meets back rest f

/-- Go a step back from the end on some diagonals. The answer holds a place where the ways meet. -/
def stepBack (a b : Array Nat) (w : Window) (shift : Int) (meets : Bool) (front : Front) :
    List Int → Front → Option (Nat × Nat) × Front
  | [], f => (none, f)
  | d :: rest, f =>
    let low := f.reachOn shift (d - 1)
    let high := f.reachOn shift (d + 1)
    let x := if low < high then low else high - 1
    let (x, y) := slideBack a b w.x w.y (a.size + 1) x.toNat (x - d).toNat
    let f := f.put shift d x
    if meets && front.least ≤ d && d ≤ front.greatest && (x : Int) ≤ front.reachOn shift d then
      (some (x, y), f)
    else stepBack a b w shift meets front rest f

/-- The middle of a shortest way through a window. `fuel` bounds the length of the way. -/
def middle (a b : Array Nat) (w : Window) (shift : Int) : Nat → Front → Front → Nat × Nat
  | 0, _, _ => (w.xEnd, w.y)
  | fuel + 1, front, back =>
    let least : Int := w.x - w.yEnd
    let greatest : Int := w.xEnd - w.y
    let isOdd := ((w.x : Int) - w.y - (w.xEnd - w.yEnd)) % 2 ≠ 0
    let front := front.widen shift least greatest (-1)
    match stepForward a b w shift isOdd back front.diagonals front with
    | (some place, _) => place
    | (none, front) =>
      let back := back.widen shift least greatest (a.size + b.size + 2)
      match stepBack a b w shift (!isOdd) front back.diagonals back with
      | (some place, _) => place
      | (none, back) => middle a b w shift fuel front back

abbrev Marks := Array Bool × Array Bool

def markFrom (marks : Array Bool) (start stop : Nat) : Array Bool :=
  (List.range (stop - start)).foldl (fun m k => m.setIfInBounds (start + k) true) marks

/-- Mark what differs in a window. `fuel` bounds its size. -/
def markWindow (a b : Array Nat) : Nat → Window → Marks → Marks
  | 0, _, marks => marks
  | fuel + 1, w, marks =>
    let (x, y) := slide a b w.xEnd w.yEnd (a.size + 1) w.x w.y
    let (xEnd, yEnd) := slideBack a b x y (a.size + 1) w.xEnd w.yEnd
    if x = xEnd then (marks.1, markFrom marks.2 y yEnd)
    else if y = yEnd then (markFrom marks.1 x xEnd, marks.2)
    else
      let shift : Int := yEnd + 2
      let room : Array Int := Array.replicate (a.size + b.size + 6) 0
      let start (d x : Int) : Front := Front.put ⟨room, d, d⟩ shift d x
      let w : Window := ⟨x, xEnd, y, yEnd⟩
      let (xMid, yMid) := middle a b w shift (a.size + b.size + 2) (start ((x : Int) - y) x)
        (start ((xEnd : Int) - yEnd) xEnd)
      markWindow a b fuel ⟨xMid, xEnd, yMid, yEnd⟩
        (markWindow a b fuel ⟨x, xMid, y, yMid⟩ marks)

/-- A run of marks that is being moved: its own marks, from where up to where it goes, the place in
the other row, and the last end at which a run of the other row corresponded. -/
structure Run where
  marks : Array Bool
  start : Nat
  stop : Nat
  other : Nat
  corresponding : Nat

namespace Run

/-- Move a run back as long as the item in front of it equals its last one. `fuel` bounds the
number of moves. -/
def moveBack (items : Array Nat) (others : Array Bool) : Nat → Run → Run
  | 0, r => r
  | fuel + 1, r =>
    if r.start > 0 && items[r.start - 1]? = items[r.stop - 1]? then
      let marks := (r.marks.setIfInBounds (r.start - 1) true).setIfInBounds (r.stop - 1) false
      let start := match r.start - 1 with
        | 0 => 0
        | k + 1 => if marked marks k then
            let free := freeBefore marks (k + 1)
            if marked marks free then free else free + 1
          else k + 1
      moveBack items others fuel
        { r with marks := marks, start := start, stop := r.stop - 1
                 other := freeBefore others r.other }
    else r

/-- Move a run on as long as its first item equals the one behind it. `fuel` bounds the number of
moves. -/
def moveOn (items : Array Nat) (others : Array Bool) : Nat → Run → Run
  | 0, r => r
  | fuel + 1, r =>
    if r.stop < items.size && items[r.start]? = items[r.stop]? then
      let marks := (r.marks.setIfInBounds r.start false).setIfInBounds r.stop true
      let stop := nextFree marks (items.size + 1) (r.stop + 1)
      let other := nextFree others (others.size + 1) (r.other + 1)
      moveOn items others fuel
        { r with marks := marks, start := r.start + 1, stop := stop, other := other
                 corresponding := if other > r.other + 1 then stop else r.corresponding }
    else r

/-- Move a run back and on until it does not grow any more. `fuel` bounds how often it grows. -/
def settle (items : Array Nat) (others : Array Bool) : Nat → Run → Run
  | 0, r => r
  | fuel + 1, r =>
    let length := r.stop - r.start
    let r := moveBack items others (items.size + 1) r
    let r := { r with
      corresponding := if r.other > 0 && marked others (r.other - 1) then r.stop else items.size }
    let r := moveOn items others (items.size + 1) r
    if length = r.stop - r.start then r else settle items others fuel r

/-- Move a run back to where a run of the other row corresponds. `fuel` bounds the number of
moves. -/
def align (others : Array Bool) : Nat → Run → Run
  | 0, r => r
  | fuel + 1, r =>
    if r.corresponding < r.stop then
      align others fuel
        { r with
          marks := (r.marks.setIfInBounds (r.start - 1) true).setIfInBounds (r.stop - 1) false
          start := r.start - 1, stop := r.stop - 1, other := freeBefore others r.other }
    else r

end Run

/-- The next run of marks from a position on, and the place in the other row. `fuel` bounds the
length of the row. -/
def nextRun (marks others : Array Bool) : Nat → Nat → Nat → Nat × Nat
  | 0, i, j => (i, j)
  | fuel + 1, i, j =>
    if i < marks.size && !marked marks i then
      nextRun marks others fuel (i + 1) (nextFree others (others.size + 1) j + 1)
    else (i, j)

/-- Move all runs of marks of a row. `fuel` bounds their number. -/
def moveRuns (items : Array Nat) (others : Array Bool) : Nat → Nat → Nat → Array Bool → Array Bool
  | 0, _, _, marks => marks
  | fuel + 1, i, j, marks =>
    let (start, j) := nextRun marks others (marks.size + 1) i j
    if start ≥ marks.size then marks
    else
      let stop := nextFree marks (marks.size + 1) start
      let other := nextFree others (others.size + 1) j
      let r := Run.settle items others (items.size + 1) ⟨marks, start, stop, other, items.size⟩
      let r := Run.align others (items.size + 1) r
      moveRuns items others fuel r.stop r.other r.marks

/-- The differences that marks stand for. `fuel` bounds the length of both rows. -/
def ofMarks (marks : Marks) : Nat → Nat → Nat → List Difference
  | 0, _, _ => []
  | fuel + 1, i, j =>
    if i ≥ marks.1.size && j ≥ marks.2.size then []
    else if marked marks.1 i || marked marks.2 j then
      let iEnd := nextFree marks.1 (marks.1.size + 1) i
      let jEnd := nextFree marks.2 (marks.2.size + 1) j
      ⟨i, iEnd - i, j, jEnd - j⟩ :: ofMarks marks fuel iEnd jEnd
    else ofMarks marks fuel (i + 1) (j + 1)

/-- Mark what differs. Items that the other row does not have are marked at once and left out of the
search. -/
def markRows (a b : Array Nat) : Marks :=
  let places (own other : Array Nat) : Array Nat :=
    (Array.range own.size).filter fun i => other.contains ((own[i]?).getD 0)
  let inA := places a b
  let inB := places b a
  let a' := inA.map fun i => (a[i]?).getD 0
  let b' := inB.map fun i => (b[i]?).getD 0
  let blank : Marks := (Array.replicate a'.size false, Array.replicate b'.size false)
  let found := markWindow a' b' (a'.size + b'.size + 1) ⟨0, a'.size, 0, b'.size⟩ blank
  let spread (size : Nat) (kept : Array Nat) (marks : Array Bool) : Array Bool :=
    (kept.zip marks).foldl (fun all (i, m) => all.setIfInBounds i m) (Array.replicate size true)
  (spread a.size inA found.1, spread b.size inB found.2)

def sharedFront : List Nat → List Nat → Nat
  | a :: as, b :: bs => if a = b then sharedFront as bs + 1 else 0
  | _, _ => 0

/-- Where two rows of numbers differ. Of what the rows share at their ends, `kept` items take part
in the search. -/
def ofRows (kept : Nat) (a b : List Nat) : List Difference :=
  let front := sharedFront a b
  let behind := sharedFront (a.drop front).reverse (b.drop front).reverse
  let front := front - kept
  let behind := behind - kept
  let own (xs : List Nat) : Array Nat := ((xs.drop front).take (xs.length - front - behind)).toArray
  let x := own a
  let y := own b
  let (m, n) := markRows x y
  let m := moveRuns x n (x.size + 1) 0 0 m
  let n := moveRuns y m (y.size + 1) 0 0 n
  (ofMarks (m, n) (x.size + y.size + 2) 0 0).map fun d =>
    { d with first := d.first + front, second := d.second + front }

/-- Numbers for items, equal ones for equal items, given those of others. -/
def numbered (known : List (String × Nat)) : List String → List Nat × List (String × Nat)
  | [] => ([], known)
  | item :: rest =>
    let (n, known) := match known.lookup item with
      | some n => (n, known)
      | none => (known.length, (item, known.length) :: known)
    let (numbers, known) := numbered known rest
    (n :: numbers, known)

def between (kept : Nat) (a b : List String) : List Difference :=
  let (x, known) := numbered [] a
  let (y, _) := numbered known b
  ofRows kept x y

end Difference

end Launchpad
