import Launchpad.Text.Printable
import Launchpad.Text.Utf8

/-!
Regular expressions: what they are made of, and how they are read from their two written forms. In
the basic form some signs get their meaning from a backslash; in the extended form they lose it by
one.
-/

namespace Launchpad.Regex

open Text (Glyph)

inductive Class where
  | alpha | digit | alnum | upper | lower | space | blank | punct | printable | graph | control
  | hexDigit
  /-- Letters, digits and the underscore. -/
  | word
  deriving DecidableEq, Repr, Inhabited

namespace Class

def named? : String → Option Class
  | "alpha" => some .alpha
  | "digit" => some .digit
  | "alnum" => some .alnum
  | "upper" => some .upper
  | "lower" => some .lower
  | "space" => some .space
  | "blank" => some .blank
  | "punct" => some .punct
  | "print" => some .printable
  | "graph" => some .graph
  | "cntrl" => some .control
  | "xdigit" => some .hexDigit
  | _ => none

/-- Characters behind the first half of the table of bytes; those that can be seen count as
letters. -/
def isFarLetter (c : Char) : Bool := c.toNat ≥ 0xAA && Text.isPlain c

def fits (c : Char) : Class → Bool
  | .alpha => c.isAlpha || isFarLetter c
  | .digit => c.isDigit
  | .alnum => c.isAlphanum || isFarLetter c
  | .upper => c.isUpper
  | .lower => c.isLower
  | .space => c = ' ' || ('\t' ≤ c && c ≤ '\x0d')
  | .blank => c = ' ' || c = '\t'
  | .punct => '!' ≤ c && c ≤ '~' && !c.isAlphanum
  | .printable => (' ' ≤ c && c ≤ '~') || isFarLetter c
  | .graph => ('!' ≤ c && c ≤ '~') || isFarLetter c
  | .control => c < ' ' || c = '\x7f'
  | .hexDigit => c.isDigit || ('a' ≤ c && c ≤ 'f') || ('A' ≤ c && c ≤ 'F')
  | .word => c.isAlphanum || c = '_' || isFarLetter c

end Class

inductive Member where
  | sign (g : Glyph)
  | range (low high : Char)
  | named (c : Class)
  deriving DecidableEq, Repr, Inhabited

inductive Place where
  | lineStart
  | lineEnd
  | textStart
  | textEnd
  | wordStart
  | wordEnd
  | wordEdge
  | noWordEdge
  /-- No letter, digit or underscore stands in front. -/
  | noWordBefore
  /-- No letter, digit or underscore stands behind. -/
  | noWordBehind
  deriving DecidableEq, Repr, Inhabited

inductive Pattern where
  | empty
  | sign (g : Glyph)
  | any
  | oneOf (members : List Member) (negated : Bool)
  | place (p : Place)
  | sequence (first second : Pattern)
  | either (first second : Pattern)
  /-- So many times; without a greatest number, as often as it fits. -/
  | repeated (least : Nat) (greatest? : Option Nat) (body : Pattern)
  /-- What the body fits is remembered under a number. -/
  | group (number : Nat) (body : Pattern)
  /-- What was remembered under a number. -/
  | recalled (number : Nat)
  deriving Repr, Inhabited

/-- Why a text is no regular expression. -/
inductive PatternError where
  | unclosedGroup
  | unopenedGroup
  | unclosedSet
  | unclosedInterval
  | badInterval
  | tooGreat
  | trailingBackslash
  | noSuchGroup
  | badRange
  | badClass
  | nothingToRepeat
  deriving DecidableEq, Repr, Inhabited

def PatternError.message : PatternError → String
  | .unclosedGroup => "Unmatched ( or \\("
  | .unopenedGroup => "Unmatched ) or \\)"
  | .unclosedSet => "Unmatched [, [^, [:, [., or [="
  | .unclosedInterval => "Unmatched \\\x7b"
  | .badInterval => "Invalid content of \\\x7b\\\x7d"
  | .tooGreat => "Regular expression too big"
  | .trailingBackslash => "Trailing backslash"
  | .noSuchGroup => "Invalid back reference"
  | .badRange => "Invalid range end"
  | .badClass => "Invalid character class name"
  | .nothingToRepeat => "Invalid preceding regular expression"

/-- How a text is read as a regular expression. -/
structure Dialect where
  /-- Signs have their meaning without a backslash. -/
  extended : Bool := false
  /-- There are intervals, and signs that recall a group or name a place. -/
  rich : Bool := true
  /-- A backslash works in sets as well, and spells control characters. -/
  spells : Bool := false

/-- How many times a body may be repeated at most. -/
def repetitionLimit : Nat := 32767

/-- Reading a regular expression: the signs that are left and the number of groups so far. -/
structure Reading where
  rest : List Glyph
  groups : Nat := 0
  /-- How many groups are open. -/
  depth : Nat := 0
  /-- The groups that have been closed. -/
  closed : List Nat := []

abbrev Reader := StateT Reading (Except PatternError)

namespace Reader

def rest : Reader (List Glyph) := return (← get).rest

def goOn (signs : List Glyph) : Reader Unit :=
  modify fun s => { s with rest := signs }

def readClass (closing : Char) : Reader (List Char) := do
  let signs ← rest
  let name := (signs.takeWhile (· ≠ .char closing)).filterMap Glyph.char?
  match signs.dropWhile (· ≠ .char closing) with
  | _ :: .char ']' :: behind =>
    goOn behind
    return name
  | _ => throw .unclosedSet

/-- The control character that a letter behind a backslash spells, or the letter itself. -/
def spelled (c : Char) : Char :=
  match c with
  | 'a' => '\x07'
  | 'b' => '\x08'
  | 'f' => '\x0c'
  | 'n' => '\n'
  | 'r' => '\r'
  | 't' => '\t'
  | 'v' => '\x0b'
  | c => c

def readEnd (d : Dialect) : Reader (Option Glyph) := do
  match ← rest with
  | .char '[' :: .char '.' :: signs =>
    goOn signs
    match ← readClass '.' with
    | [c] => return some (.char c)
    | _ => throw .badRange
  | .char '[' :: .char '=' :: signs =>
    goOn signs
    match ← readClass '=' with
    | [c] => return some (.char c)
    | _ => throw .badRange
  | .char '\\' :: .char c :: signs =>
    if d.spells then
      goOn signs
      return some (.char (spelled c))
    else
      goOn (.char c :: signs)
      return some (.char '\\')
  | g :: signs =>
    goOn signs
    return some g
  | [] => return none

/-- Read the members of a set up to its closing bracket. `fuel` bounds their number. -/
def readMembers (d : Dialect) : Nat → Reader (List Member)
  | 0 => throw .unclosedSet
  | fuel + 1 => do
    match ← rest with
    | [] => throw .unclosedSet
    | .char ']' :: signs =>
      goOn signs
      return []
    | .char '[' :: .char ':' :: signs =>
      goOn signs
      match Class.named? (String.ofList (← readClass ':')) with
      | some c => return .named c :: (← readMembers d fuel)
      | none => throw .badClass
    | _ =>
      match ← readEnd d with
      | none => throw .unclosedSet
      | some low =>
        match ← rest with
        | .char '-' :: .char ']' :: _ => return .sign low :: (← readMembers d fuel)
        | .char '-' :: signs@(_ :: _) =>
          goOn signs
          match low, ← readEnd d with
          | .char a, some (.char b) =>
            if b < a then throw .badRange
            else return .range a b :: (← readMembers d fuel)
          | _, _ => throw .badRange
        | _ => return .sign low :: (← readMembers d fuel)

/-- Read a set behind its opening bracket; a closing bracket right at its front is a member. -/
def readSet (d : Dialect) : Reader Pattern := do
  let signs ← rest
  let negated := signs.head? = some (.char '^')
  let signs := if negated then signs.drop 1 else signs
  let fuel := signs.length + 1
  match signs with
  | .char ']' :: more =>
    match more with
    | .char '-' :: .char high :: behind =>
      if high ≠ ']' then
        if high < ']' then throw .badRange
        goOn behind
        return .oneOf (.range ']' high :: (← readMembers d fuel)) negated
      else
        goOn more
        return .oneOf (.sign (.char ']') :: (← readMembers d fuel)) negated
    | more =>
      goOn more
      return .oneOf (.sign (.char ']') :: (← readMembers d fuel)) negated
  | signs =>
    goOn signs
    return .oneOf (← readMembers d fuel) negated

/-- The number that digits at the front spell, and what is behind them. -/
def readCount (signs : List Glyph) : Option Nat × List Glyph :=
  let digits := (signs.map Glyph.shown).takeWhile Char.isDigit
  (if digits = [] then none
    else some (digits.foldl (fun n c => n * 10 + (c.toNat - '0'.toNat)) 0),
    signs.drop digits.length)

/-- Read an interval behind its opening brace. None is there when it is no interval. -/
def readInterval (extended : Bool) :
    Reader (Option (Nat × Option Nat)) := do
  let signs ← rest
  let (least?, behind) := readCount signs
  let (greatest?, behind, open?) : Option (Option Nat) × List Glyph × Bool := match behind with
    | .char ',' :: more =>
      let (greatest?, more) := readCount more
      (some greatest?, more, false)
    | behind => (none, behind, true)
  let closed? : Option (List Glyph) := match extended, behind with
    | true, .char '\x7d' :: more => some more
    | false, .char '\\' :: .char '\x7d' :: more => some more
    | _, _ => none
  match closed? with
  | none =>
    if extended then return none
    else if behind = [] then throw .unclosedInterval
    else throw .badInterval
  | some more =>
    if open? && least?.isNone then
      if extended then return none else throw .badInterval
    else
      let least := least?.getD 0
      let greatest := match greatest? with
        | none => some least
        | some g? => g?
      if greatest.any (· < least) then throw .badInterval
      else if least > repetitionLimit || greatest.any (· > repetitionLimit) then throw .tooGreat
      else
        goOn more
        return some (least, greatest)

/-- The place or class that a letter behind a backslash stands for. -/
def escapeOf? (c : Char) : Option Pattern :=
  match c with
  | 'w' => some (.oneOf [.named .word] false)
  | 'W' => some (.oneOf [.named .word] true)
  | 's' => some (.oneOf [.named .space] false)
  | 'S' => some (.oneOf [.named .space] true)
  | '<' => some (.place .wordStart)
  | '>' => some (.place .wordEnd)
  | 'b' => some (.place .wordEdge)
  | 'B' => some (.place .noWordEdge)
  | '\x60' => some (.place .textStart)
  | '\'' => some (.place .textEnd)
  | _ => none

/-- A sign of the dialect stands at the front: bare in the extended form, behind a backslash in the
basic one. The answer is what is behind it. -/
def sign? (d : Dialect) (c : Char) (signs : List Glyph) : Option (List Glyph) :=
  match d.extended, signs with
  | true, .char own :: rest => if own = c then some rest else none
  | false, .char '\\' :: .char own :: rest => if own = c then some rest else none
  | _, _ => none

/-- Read the signs for repetition behind a body. `fuel` bounds their number. -/
def readRepeats (d : Dialect) : Nat → Pattern → Reader Pattern
  | 0, body => return body
  | fuel + 1, body => do
    let signs ← rest
    match signs with
    | .char '*' :: more =>
      goOn more
      readRepeats d fuel (.repeated 0 none body)
    | _ =>
      match sign? d '+' signs, sign? d '?' signs, sign? d '\x7b' signs with
      | some more, _, _ =>
        goOn more
        readRepeats d fuel (.repeated 1 none body)
      | _, some more, _ =>
        goOn more
        readRepeats d fuel (.repeated 0 (some 1) body)
      | _, _, some more =>
        if d.rich then
          goOn more
          match ← readInterval d.extended with
          | some (least, greatest?) => readRepeats d fuel (.repeated least greatest? body)
          | none =>
            goOn signs
            return body
        else return body
      | _, _, _ => return body

/-- Whether a dollar sign in front of some signs is the end of a line. -/
def isLineEnd (d : Dialect) (behind : List Glyph) : Bool :=
  d.extended || behind = [] || (sign? d ')' behind).isSome || (sign? d '|' behind).isSome

mutual

def readChoice (d : Dialect) : Nat → Reader Pattern
  | 0 => return .empty
  | fuel + 1 => do
    let first ← readSequence d true fuel
    match sign? d '|' (← rest) with
    | some more =>
      goOn more
      return .either first (← readChoice d fuel)
    | none => return first

/-- Read what stands behind each other. `atStart` tells whether nothing stands in front. -/
def readSequence (d : Dialect) (atStart : Bool) : Nat → Reader Pattern
  | 0 => return .empty
  | fuel + 1 => do
    let s ← get
    let signs := s.rest
    if signs = [] || (sign? d '|' signs).isSome then return .empty
    else if (sign? d ')' signs).isSome && (s.depth > 0 || !d.extended) then
      if s.depth = 0 then throw .unopenedGroup else return .empty
    else
      let body ← readItem d atStart fuel
      let stillAtStart : Bool := match body with
        | .place .lineStart => atStart && !d.extended
        | _ => false
      let body ← match body with
        | .place .lineStart => if d.extended then readRepeats d signs.length body else pure body
        | body => readRepeats d signs.length body
      let more ← readSequence d stillAtStart fuel
      return .sequence body more

def readItem (d : Dialect) (atStart : Bool) : Nat → Reader Pattern
  | 0 => return .empty
  | fuel + 1 => do
    let signs ← rest
    match sign? d '(' signs with
    | some more =>
      let s ← get
      let number := s.groups + 1
      set { s with rest := more, groups := number, depth := s.depth + 1 }
      let body ← readChoice d fuel
      match sign? d ')' (← rest) with
      | some more =>
        modify fun s =>
          { s with rest := more, depth := s.depth - 1, closed := number :: s.closed }
        return .group number body
      | none => throw .unclosedGroup
    | none =>
      match signs with
      | [] => return .empty
      | .char '\\' :: more =>
        match more with
        | [] => throw .trailingBackslash
        | .char c :: behind =>
          goOn behind
          if c.isDigit && c ≠ '0' && d.rich then
            let number := c.toNat - '0'.toNat
            if (← get).closed.contains number then return .recalled number
            else throw .noSuchGroup
          else if !d.extended && c = '\x7b' then
            if atStart then throw .nothingToRepeat else return .sign (.char c)
          else
            match (if d.rich then escapeOf? c else none) with
            | some p => return p
            | none => return .sign (.char (if d.spells then spelled c else c))
        | g :: behind =>
          goOn behind
          return .sign g
      | .char '[' :: more =>
        goOn more
        readSet d
      | .char '.' :: more =>
        goOn more
        return .any
      | .char '^' :: more =>
        goOn more
        if d.extended || atStart then return .place .lineStart else return .sign (.char '^')
      | .char '$' :: more =>
        goOn more
        if isLineEnd d more then return .place .lineEnd else return .sign (.char '$')
      | .char '*' :: more =>
        goOn more
        if d.extended then readItem d atStart fuel else return .sign (.char '*')
      | g :: more =>
        goOn more
        if d.extended && (g = .char '+' || g = .char '?') then readItem d atStart fuel
        else return .sign g

end

end Reader

def Pattern.read (d : Dialect) (signs : List Glyph) : Except PatternError Pattern :=
  match (Reader.readChoice d (4 * signs.length + 8)).run { rest := signs } with
  | .error e => .error e
  | .ok (p, s) => if s.rest = [] then .ok p else .error .unopenedGroup

end Launchpad.Regex
