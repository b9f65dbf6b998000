import Launchpad.Regex.Pattern

/-!
Where a regular expression fits a text. All ends that a pattern can reach from a place are found
together, better ones first; of the ends of the whole pattern the last in the text counts.
-/

namespace Launchpad.Regex

open Text (Glyph)

/-- How far a match has come: the place in the text, and what groups have fitted, last ones
first. -/
structure Progress where
  place : Nat
  groups : List (Nat × Nat × Nat) := []
  deriving DecidableEq, Repr, Inhabited

structure Subject where
  signs : Array Glyph
  ignoreCase : Bool := false
  /-- The ends of lines inside the text count as such. -/
  manyLines : Bool := false
  /-- The text does not start or end a line. -/
  cutOff : Bool := false

namespace Subject

/-- The lower case of a sign. -/
def folded : Glyph → Glyph
  | .char c => .char c.toLower
  | g => g

def same (s : Subject) (a b : Glyph) : Bool :=
  a = b || (s.ignoreCase && folded a = folded b)

def memberFits (g : Glyph) : Member → Bool
  | .sign own => own = g
  | .range low high =>
    match g with
    | .char c => low ≤ c && c ≤ high
    | .broken _ => false
  | .named c =>
    match g with
    | .char own => c.fits own
    | .broken _ => false

def setFits (s : Subject) (members : List Member) (negated : Bool) (g : Glyph) : Bool :=
  let direct := members.any (memberFits g)
  let folded : Bool := s.ignoreCase && match g with
    | .char c => members.any fun m =>
        memberFits (.char c.toLower) m || memberFits (.char c.toUpper) m
    | .broken _ => false
  (direct || folded) ≠ negated

/-- Whether a letter, a digit or an underscore stands at a place. -/
def wordAt (s : Subject) (place : Nat) : Bool :=
  match s.signs[place]? with
  | some (.char c) => Class.fits c .word
  | _ => false

/-- Whether such a sign stands in front of a place. -/
def wordBefore (s : Subject) (place : Nat) : Bool :=
  place > 0 && s.wordAt (place - 1)

def holds (s : Subject) (place : Nat) : Place → Bool
  | .textStart => place = 0
  | .textEnd => place = s.signs.size
  | .lineStart =>
    place = 0 || (s.manyLines && s.signs[place - 1]? = some (.char '\n'))
  | .lineEnd =>
    place = s.signs.size || (s.manyLines && s.signs[place]? = some (.char '\n'))
  | .wordStart => s.wordAt place && !s.wordBefore place
  | .wordEnd => s.wordBefore place && !s.wordAt place
  | .wordEdge => s.wordAt place ≠ s.wordBefore place
  | .noWordEdge => s.wordAt place = s.wordBefore place
  | .noWordBefore => !s.wordBefore place
  | .noWordBehind => !s.wordAt place

end Subject

/-- Keep the first of several ways to a place. With `whole`, ways count as different when their
groups do. -/
def distinct (whole : Bool) (size : Nat) (ways : List Progress) : List Progress :=
  if whole then ways.eraseDups
  else
    let (kept, _) := ways.foldl (fun (kept, seen) (p : Progress) =>
      if (seen[p.place]?).getD true then (kept, seen)
      else (p :: kept, seen.set! p.place true))
      (([] : List Progress), Array.replicate (size + 1) false)
    kept.reverse

/-- Ways that lead further come first. -/
def furthestFirst (ways : List Progress) : List Progress :=
  ways.mergeSort fun a b => b.place ≤ a.place

/-- Repeat a step as long as it leads to new places, so many times at most. All ways are given, with
those after the first `least` rounds counted. -/
def iterate (whole : Bool) (size : Nat) (step : Progress → List Progress) (least : Nat) :
    Nat → Nat → List Progress → List Progress → List Progress
  | 0, _, _, found => found
  | fuel + 1, round, front, found =>
    let found := if round ≥ least then distinct whole size (found ++ front) else found
    let next := distinct whole size (front.flatMap step)
    let fresh := if round ≥ least then
        next.filter fun p => !found.any fun q => q.place = p.place && (!whole || q = p)
      else next
    if fresh = [] then found else iterate whole size step least fuel (round + 1) fresh found

namespace Pattern

def recalls : Pattern → Bool
  | .recalled _ => true
  | .sequence a b => a.recalls || b.recalls
  | .either a b => a.recalls || b.recalls
  | .repeated _ _ a => a.recalls
  | .group _ a => a.recalls
  | _ => false

/-- The ways on from a place through a pattern, better ones first. -/
def ways (s : Subject) (whole : Bool) : Pattern → Progress → List Progress
  | .empty, p => [p]
  | .sign g, p =>
    match s.signs[p.place]? with
    | some own => if s.same g own then [{ p with place := p.place + 1 }] else []
    | none => []
  | .any, p =>
    match s.signs[p.place]? with
    | some (.char _) => [{ p with place := p.place + 1 }]
    | _ => []
  | .oneOf members negated, p =>
    match s.signs[p.place]? with
    | some g => if s.setFits members negated g then [{ p with place := p.place + 1 }] else []
    | none => []
  | .place q, p => if s.holds p.place q then [p] else []
  | .sequence a b, p =>
    distinct whole s.signs.size ((a.ways s whole p).flatMap (b.ways s whole))
  | .either a b, p =>
    distinct whole s.signs.size (furthestFirst (a.ways s whole p ++ b.ways s whole p))
  | .repeated least greatest? a, p =>
    let rounds := greatest?.getD (least + s.signs.size + 1)
    furthestFirst
      (iterate whole s.signs.size (a.ways s whole) least (rounds + 1) 0 [p] [])
  | .group number a, p =>
    (a.ways s whole p).map fun q =>
      { q with groups := (number, p.place, q.place) :: q.groups.filter (·.1 ≠ number) }
  | .recalled number, p =>
    match p.groups.lookup number with
    | some (start, stop) =>
      let text := (s.signs.extract start stop).toList
      let own := (s.signs.extract p.place (p.place + text.length)).toList
      if own.length = text.length && (text.zip own).all fun (a, b) => s.same a b then
        [{ p with place := p.place + text.length }]
      else []
    | none => []

end Pattern

structure Match where
  start : Nat
  stop : Nat
  groups : List (Nat × Nat × Nat)
  deriving Repr, Inhabited

/-- What a group of a match has fitted; group zero is the whole. -/
def Match.group? (m : Match) (number : Nat) : Option (Nat × Nat) :=
  if number = 0 then some (m.start, m.stop) else m.groups.lookup number

def matchAt? (s : Subject) (p : Pattern) (start : Nat) : Option Match :=
  (furthestFirst (p.ways s p.recalls { place := start })).head?.map fun q =>
    ⟨start, q.place, q.groups⟩

/-- The first match from a place on, the longest one there. -/
def search? (s : Subject) (p : Pattern) (start : Nat) : Option Match :=
  (List.range (s.signs.size + 1 - start)).findSome? fun k => matchAt? s p (start + k)

/-- All matches that do not overlap, first ones first. An empty match right behind another does not
count. `fuel` bounds their number. -/
def allMatchesFuel (s : Subject) (p : Pattern) : Nat → Nat → Option Nat → List Match
  | 0, _, _ => []
  | fuel + 1, start, last? =>
    if start > s.signs.size then []
    else match search? s p start with
      | none => []
      | some m =>
        if m.stop = m.start then
          if last? = some m.start then allMatchesFuel s p fuel (m.start + 1) none
          else m :: allMatchesFuel s p fuel (m.start + 1) none
        else m :: allMatchesFuel s p fuel m.stop (some m.stop)

/-- All matches that do not overlap, first ones first. -/
def allMatches (s : Subject) (p : Pattern) : List Match :=
  allMatchesFuel s p (2 * s.signs.size + 2) 0 none

end Launchpad.Regex
