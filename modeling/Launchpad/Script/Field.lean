import Launchpad.FileSystem.Listing
import Launchpad.Machine.Octets

/-!
From what a word stands for to the fields that a command gets. What an expansion yields outside of
quotes is cut at separators; after that, a field with a sign of a pattern outside of quotes is
replaced by the names of the files that it fits, if there are any. All characters stand for bytes.
-/

namespace Launchpad.Script

open Machine

/-- Where a character of an expanded word comes from. -/
inductive Origin where
  /-- It was written in the script. -/
  | written
  /-- It was written or expanded inside quotes. -/
  | quoted
  /-- It was expanded outside of quotes. -/
  | expanded
  deriving DecidableEq, Repr, Inhabited

inductive Item where
  | glyph (c : Char) (origin : Origin)
  /-- A field ends here, and another begins. -/
  | boundary
  /-- There is a field here even if nothing stands in it. -/
  | anchor
  deriving DecidableEq, Repr, Inhabited

def glyphs (text : Octets) (origin : Origin) : List Item :=
  text.toList.map (.glyph · origin)

/-- A field before file names are put in: each character, and whether quotes protect it. -/
abbrev Field := List (Char × Bool)

namespace Field

def text (f : Field) : Octets := String.ofList (f.map (·.1))

end Field

/-- The fields that are complete, the one that is being read, and whether a blank ended the one
before it. -/
structure Splitting where
  complete : List Field := []
  current? : Option Field := none
  afterBlank : Bool := false

namespace Splitting

def push (s : Splitting) (c : Char) (isQuoted : Bool) : Splitting :=
  { s with current? := some ((c, isQuoted) :: s.current?.getD []), afterBlank := false }

def close (s : Splitting) : Splitting :=
  match s.current? with
  | some f => { s with complete := f.reverse :: s.complete, current? := none }
  | none => s

/-- A blank that separates fields even when there are several of them. -/
def isBlank (c : Char) : Bool := c = ' ' || c = '\t' || c = '\n'

/-- Go on by one item. `separators` are the characters at which expansions are cut. -/
def step (separators : List Char) (s : Splitting) : Item → Splitting
  | .glyph c .written => s.push c false
  | .glyph c .quoted => s.push c true
  | .glyph c .expanded =>
    if !separators.contains c then s.push c false
    else if isBlank c then
      { s.close with afterBlank := s.afterBlank || s.current?.isSome }
    else if s.current?.isNone && s.afterBlank then { s with afterBlank := false }
    else { ({ s with current? := some (s.current?.getD []) }).close with afterBlank := false }
  | .boundary => s.close
  | .anchor => { s with current? := some (s.current?.getD []) }

end Splitting

def fieldsOf (separators : List Char) (items : List Item) : List Field :=
  (items.foldl (Splitting.step separators) {}).close.complete.reverse

/-- The single field of an expanded word that is not cut. `joint` stands between what would be
several fields. -/
def wholeField (joint : List Char) (items : List Item) : Field :=
  items.flatMap fun
    | .glyph c origin => [(c, origin = .quoted)]
    | .boundary => joint.map fun c => (c, true)
    | .anchor => []

inductive SetMember where
  | range (low high : Char)
  /-- The characters of a class that has a name. -/
  | named (name : String)
  deriving DecidableEq, Repr, Inhabited

/-- Whether a byte belongs to a class of characters with a name. -/
def inClass (name : String) (c : Char) : Bool :=
  match name with
  | "alpha" => c.isAlpha
  | "digit" => c.isDigit
  | "alnum" => c.isAlphanum
  | "upper" => c.isUpper
  | "lower" => c.isLower
  | "space" => c = ' ' || ('\t' ≤ c && c ≤ '\x0d')
  | "blank" => c = ' ' || c = '\t'
  | "punct" => '!' ≤ c && c ≤ '~' && !c.isAlphanum
  | "print" => ' ' ≤ c && c ≤ '~'
  | "graph" => '!' ≤ c && c ≤ '~'
  | "cntrl" => c < ' ' || c = '\x7f'
  | "xdigit" => c.isDigit || ('a' ≤ c && c ≤ 'f') || ('A' ≤ c && c ≤ 'F')
  | _ => false

def classNames : List String :=
  ["alpha", "digit", "alnum", "upper", "lower", "space", "blank", "punct", "print", "graph",
    "cntrl", "xdigit"]

def SetMember.fits (c : Char) : SetMember → Bool
  | .range low high => low ≤ c && c ≤ high
  | .named name => inClass name c

inductive GlobItem where
  | char (c : Char)
  | any
  | many
  | oneOf (members : List SetMember) (negated : Bool)
  deriving DecidableEq, Repr, Inhabited

namespace GlobItem

/-- Read the name of a class in a set, behind the opening of the name. -/
def readClass? (f : Field) : Option (String × Field) :=
  let name := String.ofList ((f.takeWhile fun (c, _) => c.isAlpha).map (·.1))
  match f.dropWhile fun (c, _) => c.isAlpha with
  | (':', _) :: (']', _) :: rest => if classNames.contains name then some (name, rest) else none
  | _ => none

/-- Read the members of a set up to its closing bracket. `fuel` bounds their number. -/
def readMembers : Nat → Field → Option (List SetMember × Field)
  | 0, _ => none
  | fuel + 1, f =>
    match f with
    | [] => none
    | (']', false) :: rest => some ([], rest)
    | ('[', false) :: (':', false) :: rest =>
      match readClass? rest with
      | some (name, rest) =>
        (readMembers fuel rest).map fun (members, rest) => (.named name :: members, rest)
      | none =>
        (readMembers fuel ((':', false) :: rest)).map fun (members, rest) =>
          (.range '[' '[' :: members, rest)
    | ('\\', false) :: (c, _) :: rest => readMembers fuel ((c, true) :: rest)
    | (low, _) :: ('-', false) :: (high, isQuoted) :: rest =>
      if high = ']' && !isQuoted then some ([.range low low, .range '-' '-'], rest)
      else (readMembers fuel rest).map fun (members, rest) => (.range low high :: members, rest)
    | (c, _) :: rest =>
      (readMembers fuel rest).map fun (members, rest) => (.range c c :: members, rest)

/-- Read a set behind its opening bracket; a closing bracket right at its front is a member. -/
def readSet (f : Field) : Option (GlobItem × Field) :=
  let (negated, f) : Bool × Field := match f with
    | ('!', false) :: rest => (true, rest)
    | f => (false, f)
  match f with
  | (']', false) :: rest =>
    (readMembers (rest.length + 1) rest).map fun (members, rest) =>
      (.oneOf (.range ']' ']' :: members) negated, rest)
  | f => (readMembers (f.length + 1) f).map fun (members, rest) => (.oneOf members negated, rest)

/-- Read a pattern. A backslash that no quotes protect takes the meaning from the next character.
`fuel` bounds the number of its elements. -/
def readFuel : Nat → Field → List GlobItem
  | 0, _ => []
  | fuel + 1, f =>
    match f with
    | [] => []
    | ('*', false) :: rest => .many :: readFuel fuel rest
    | ('?', false) :: rest => .any :: readFuel fuel rest
    | ('\\', false) :: (c, _) :: rest => .char c :: readFuel fuel rest
    | ('[', false) :: rest =>
      match readSet rest with
      | some (item, rest) => item :: readFuel fuel rest
      | none => .char '[' :: readFuel fuel rest
    | (c, _) :: rest => .char c :: readFuel fuel rest

def read (f : Field) : List GlobItem :=
  readFuel (f.length + 1) f

/-- Read a pattern in which nothing is protected by quotes. -/
def ofText (text : Octets) : List GlobItem :=
  read (text.toList.map fun c => (c, false))

def fits : List GlobItem → List Char → Bool
  | [], cs => cs = []
  | .many :: items, cs => (List.range (cs.length + 1)).any fun k => fits items (cs.drop k)
  | .char c :: items, d :: cs => c = d && fits items cs
  | .any :: items, _ :: cs => fits items cs
  | .oneOf members negated :: items, d :: cs =>
    (negated ≠ members.any (·.fits d)) && fits items cs
  | _ :: _, [] => false

end GlobItem

/-- A field holds a sign of a pattern outside of quotes. -/
def Field.isPattern (f : Field) : Bool :=
  f.any fun (c, isQuoted) => !isQuoted && (c = '*' || c = '?' || c = '[')

def Field.parts : Field → List Field
  | [] => [[]]
  | (c, isQuoted) :: rest =>
    match Field.parts rest with
    | part :: parts => if c = '/' then [] :: part :: parts else ((c, isQuoted) :: part) :: parts
    | [] => [[(c, isQuoted)]]

/-- The names in a directory that a pattern can fit. Names that start with a dot are left out unless
the pattern starts with one. -/
def visibleNames (fs : FileSystem) (base : Octets) (part : Field) : List Octets :=
  let withDots := part.head?.any (·.1 = '.')
  match fs.status (Octets.path (if base = "" then "." else base)) with
  | .ok (l, e) =>
    if e.isDirectory && e.readable then
      (if withDots then [".", ".."] else []) ++
        ((fs.children l).map Octets.ofGlyphs).filter fun name => withDots || !name.startsWith "."
    else []
  | .error _ => []

/-- The paths that go on from `base` by parts of a pattern. -/
def pathsFrom (fs : FileSystem) (base : Octets) : List Field → List Octets
  | [] => []
  | part :: rest =>
    let names : List Octets :=
      if part.isPattern then
        let pattern := GlobItem.read part
        (visibleNames fs base part).filter fun name => GlobItem.fits pattern name.toList
      else [part.text]
    names.flatMap fun name =>
      let p := base ++ name
      if rest = [] then
        (if name = "" then (if fs.isDirectory (Octets.path p) then [p] else [])
        else if (fs.find (Octets.path p) false).isOk then [p] else [])
      else if name = "" || fs.isDirectory (Octets.path p) then pathsFrom fs (p ++ "/") rest
      else []

/-- The texts that a field stands for: the names of the files that fit, or the field itself. -/
def Field.resolve (fs : FileSystem) (f : Field) : List Octets :=
  if f.isPattern then
    match pathsFrom fs "" f.parts with
    | [] => [f.text]
    | paths => paths.mergeSort (· ≤ ·)
  else [f.text]

/-- The shortest or longest front of a text that a pattern fits is cut off. -/
def cutFront (longest : Bool) (pattern : List GlobItem) (cs : List Char) : List Char :=
  let lengths := List.range (cs.length + 1)
  let candidates := if longest then lengths.reverse else lengths
  match candidates.find? fun k => GlobItem.fits pattern (cs.take k) with
  | some k => cs.drop k
  | none => cs

/-- The shortest or longest end of a text that a pattern fits is cut off. -/
def cutBack (longest : Bool) (pattern : List GlobItem) (cs : List Char) : List Char :=
  let lengths := List.range (cs.length + 1)
  let candidates := if longest then lengths.reverse else lengths
  match candidates.find? fun k => GlobItem.fits pattern (cs.drop (cs.length - k)) with
  | some k => cs.take (cs.length - k)
  | none => cs

end Launchpad.Script
