import Launchpad.Machine.Programs.Echo
import Launchpad.Text.Decimal

/-!
The words of a program for records: numbers, texts, regular expressions, names and signs. A slash
begins a regular expression wherever no division can stand.
-/

namespace Launchpad.Machine.Programs.Records

inductive Token where
  | number (x : Float)
  | text (content : Octets)
  | pattern (source : Octets)
  /-- A name that is no word of the language; `called` when a bracket opens right behind it. -/
  | name (name : String) (called : Bool)
  | builtin (name : String)
  | keyword (word : String)
  | sign (text : String)
  | lineEnd
  | textEnd
  deriving Inhabited

structure Placed where
  token : Token
  /-- How the word is written. -/
  written : Octets
  line : Nat
  /-- How many round brackets are open in front of it. -/
  depth : Nat
  deriving Inhabited

structure ScriptError where
  text : Octets
  deriving Inhabited

def keywords : List String :=
  ["BEGIN", "END", "break", "continue", "delete", "do", "else", "exit", "for", "func", "function",
    "getline", "if", "in", "next", "nextfile", "print", "printf", "return", "while"]

/-- The functions of the language, with the least and greatest number of arguments. -/
def builtinFunctions : List (String × Nat × Nat) :=
  [("atan2", 2, 2), ("close", 1, 1), ("cos", 1, 1), ("exp", 1, 1), ("fflush", 0, 1), ("gsub", 2, 3),
    ("index", 2, 2), ("int", 1, 1), ("length", 0, 1), ("log", 1, 1), ("match", 2, 2),
    ("mktime", 1, 1), ("rand", 0, 0), ("sin", 1, 1), ("split", 2, 3), ("sprintf", 1, 255),
    ("sqrt", 1, 1), ("srand", 0, 1), ("strftime", 0, 3), ("sub", 2, 3), ("substr", 2, 3),
    ("system", 1, 1), ("systime", 0, 0), ("tolower", 1, 1), ("toupper", 1, 1)]

/-- The signs of the language, longer ones first. -/
def signs : List String :=
  [">>", "||", "&&", "==", "!=", "<=", ">=", "!~", "++", "--", "+=", "-=", "*=", "/=", "%=", "^=",
    "\x7b", "\x7d", "(", ")", "[", "]", ";", ",", "+", "-", "*", "/", "%", "^", "!", ">", "<", "|",
    "?", ":", "~", "$", "="]

/-- Whether a division can stand behind a word. -/
def Token.endsValue : Token → Bool
  | .number _ => true
  | .text _ => true
  | .pattern _ => true
  | .name _ _ => true
  | .builtin _ => true
  | .keyword word => word = "getline"
  | .sign s => [")", "]", "++", "--"].contains s
  | _ => false

/-- A text with what its escapes stand for. Backslashes that begin none stay. `fuel` bounds the
length. -/
def unescapeFuel : Nat → List Char → List Char
  | 0, cs => cs
  | fuel + 1, cs =>
    match cs with
    | '\\' :: c :: rest =>
      let digits := ((c :: rest).take 3).takeWhile fun d => '0' ≤ d && d ≤ '7'
      if digits ≠ [] then
        let n := digits.foldl (fun n d => n * 8 + (d.toNat - '0'.toNat)) 0
        Char.ofNat (n % 256) :: unescapeFuel fuel ((c :: rest).drop digits.length)
      else
        match (letterEscapes.filter (·.1 ≠ 'e')).lookup c with
        | some own => own :: unescapeFuel fuel rest
        | none =>
          if c = '"' || c = '/' then c :: unescapeFuel fuel rest
          else '\\' :: c :: unescapeFuel fuel rest
    | c :: rest => c :: unescapeFuel fuel rest
    | [] => []

def unescapeText (text : Octets) : Octets :=
  String.ofList (unescapeFuel (text.length + 1) text.toList)

/-- The characters of a text up to its closing quote, and what is behind it. -/
def takeText : List Char → Option (List Char × List Char)
  | [] => none
  | '"' :: rest => some ([], rest)
  | '\n' :: _ => none
  | '\\' :: '\n' :: rest => takeText rest
  | '\\' :: c :: rest => (takeText rest).map fun (own, rest) => ('\\' :: c :: own, rest)
  | c :: rest => (takeText rest).map fun (own, rest) => (c :: own, rest)

/-- The characters of a regular expression up to its closing slash, and what is behind it. A slash
in a set does not close it; `inSet` counts the characters of an open set. -/
def takePattern (inSet : Option Nat) : List Char → Option (List Char × List Char)
  | [] => none
  | '\n' :: _ => none
  | '\\' :: '/' :: rest => (takePattern (inSet.map (· + 1)) rest).map fun (own, rest) =>
      ('/' :: own, rest)
  | '\\' :: c :: rest => (takePattern (inSet.map (· + 1)) rest).map fun (own, rest) =>
      ('\\' :: c :: own, rest)
  | c :: rest =>
    if c = '/' && inSet.isNone then some ([], rest)
    else
      let next := match inSet with
        | none => if c = '[' then some 0 else none
        | some 0 => if c = '^' then some 0 else some 1
        | some n => if c = ']' then none else some (n + 1)
      (takePattern next rest).map fun (own, rest) => (c :: own, rest)

def takeNumber (cs : List Char) : List Char :=
  let whole := cs.takeWhile Char.isDigit
  let rest := cs.drop whole.length
  let part := if rest.head? = some '.' then '.' :: (rest.drop 1).takeWhile Char.isDigit else []
  let rest := rest.drop part.length
  let exponent := match rest with
    | e :: more =>
      if e.toLower = 'e' then
        let sign := more.takeWhile fun c => c = '+' || c = '-'
        let digits := (more.drop sign.length).takeWhile Char.isDigit
        if sign.length ≤ 1 && digits ≠ [] then e :: sign ++ digits else []
      else []
    | [] => []
  whole ++ part ++ exponent

/-- The first characters of a text that has no end, as they are shown. -/
def runaway (cs : List Char) : Octets :=
  String.ofList ((cs.takeWhile (· ≠ '\n')).take 11) ++ " ..."

/-- Read the words of a program. `fuel` bounds their number. -/
def tokensFuel (line depth : Nat) (last : Token) : Nat → List Char →
    Except ScriptError (List Placed)
  | 0, _ => .ok []
  | fuel + 1, cs =>
    let go (token : Token) (written : List Char) (depth' : Nat) (rest : List Char) :
        Except ScriptError (List Placed) :=
      (tokensFuel line depth' token fuel rest).map
        (⟨token, String.ofList written, line, depth⟩ :: ·)
    let problem (text : Octets) : ScriptError := ⟨"line " ++ toString line ++ ": " ++ text⟩
    match cs with
    | [] => .ok []
    | '\n' :: rest =>
      (tokensFuel (line + 1) depth .lineEnd fuel rest).map
        (⟨.lineEnd, "end of line", line, depth⟩ :: ·)
    | '\\' :: '\n' :: rest => tokensFuel (line + 1) depth last fuel rest
    | '\\' :: '\r' :: '\n' :: rest => tokensFuel (line + 1) depth last fuel rest
    | '#' :: rest => tokensFuel line depth last fuel (rest.dropWhile (· ≠ '\n'))
    | '"' :: rest =>
      match takeText rest with
      | some (own, rest) =>
        go (.text (unescapeText (String.ofList own))) ('"' :: own ++ ['"']) depth rest
      | none => .error (problem ("runaway string constant " ++ runaway cs))
    | c :: rest =>
      if c = ' ' || c = '\t' || c = '\r' || c = '\x0b' || c = '\x0c' then
        tokensFuel line depth last fuel rest
      else if c.isDigit || (c = '.' && rest.head?.any Char.isDigit) then
        let own := takeNumber cs
        let x := match Text.Decimal.read? own with
          | some (x, _) => x.toFloat
          | none => 0
        go (.number x) own depth (cs.drop own.length)
      else if c.isAlpha || c = '_' then
        let own := cs.takeWhile fun c => c.isAlphanum || c = '_'
        let rest := cs.drop own.length
        let word := String.ofList own
        if keywords.contains word then go (.keyword word) own depth rest
        else if (builtinFunctions.lookup word).isSome then go (.builtin word) own depth rest
        else go (.name word (rest.head? = some '(')) own depth rest
      else if c = '/' && !last.endsValue then
        match takePattern none rest with
        | some (own, rest) =>
          go (.pattern (String.ofList own)) ('/' :: own ++ ['/']) depth rest
        | none => .error (problem ("runaway regular expression " ++ runaway cs))
      else
        match signs.find? fun s => s.toList.isPrefixOf cs with
        | some s =>
          let depth' := if s = "(" then depth + 1 else if s = ")" then depth - 1 else depth
          go (.sign s) s.toList depth' (cs.drop s.length)
        | none => .error ⟨toString line ++ ": unexpected character '" ++ String.ofList [c] ++ "'"⟩

/-- Read the words of a program. The text ends with the end of a line. -/
def tokens (text : Octets) : Except ScriptError (List Placed) :=
  tokensFuel 1 0 .lineEnd (text.length + 2) (text.toList ++ ['\n'])

end Launchpad.Machine.Programs.Records
