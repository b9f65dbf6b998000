import Launchpad.Script.Source

/-!
Reading scripts. Words and statements are read together, since a word may hold a script and a script
consists of words. A script is read one line at a time: a statement that ends on one line is there
before the next line is looked at.
-/

namespace Launchpad.Script

open Reader

/-- Put a character in front of pieces, into the first of them where that is a text of its kind. -/
def consChar (c : Char) (quoted : Bool) : Word → Word
  | .text content q :: rest =>
    if q = quoted then .text (String.ofList (c :: content.toList)) q :: rest
    else .text (String.ofList [c]) quoted :: .text content q :: rest
  | rest => .text (String.ofList [c]) quoted :: rest

def endsWord (c : Char) : Bool :=
  [' ', '\t', '\n', ';', '&', '|', '<', '>', '(', ')'].contains c

def holdsQuotes (w : Word) : Bool :=
  w.any fun
    | .text _ quoted => quoted
    | _ => false

def readSign : Reader String := do
  let first ← next
  let sign (cs : List Char) : Reader String := return String.ofList cs
  match first with
  | some '>' =>
    if ← accept '>' then sign ['>', '>']
    else if ← accept '|' then sign ['>', '|']
    else if ← accept '&' then sign ['>', '&']
    else sign ['>']
  | _ =>
    if ← accept '<' then
      if ← accept '-' then sign ['<', '<', '-'] else sign ['<', '<']
    else if ← accept '&' then sign ['<', '&']
    else if ← accept '>' then sign ['<', '>']
    else sign ['<']

/-- Read the text of a script between old quotes for scripts, in which some backslashes count for
the text and not for the script. `fuel` bounds its length. -/
def readOldScript (quoted : Bool) : Nat → Reader (List Char)
  | 0 => refuse "EOF in backquote substitution"
  | fuel + 1 => do
    match ← next with
    | none => refuse "EOF in backquote substitution"
    | some '\\' =>
      match (← get).rest with
      | c :: _ =>
        skip
        let behind ← readOldScript quoted fuel
        if c = '\\' || c = '\x60' || c = '$' || (quoted && c = '"') then return c :: behind
        else return '\\' :: c :: behind
      | [] => refuse "EOF in backquote substitution"
    | some c =>
      if c = '\x60' then return []
      else return c :: (← readOldScript quoted fuel)

/-- The use that stands for a sign behind the name of a parameter. -/
def useOf? (sign : Char) (emptyCounts : Bool) : Option Use :=
  match sign with
  | '-' => some (.fallback emptyCounts)
  | '+' => some (.substitute emptyCounts)
  | '=' => some (.assign emptyCounts)
  | '?' => some (.demand emptyCounts)
  | _ => none

/-- Read what is asked of a parameter behind its name. Nothing is left to be read behind a plain
value. -/
def readUse : Reader Use := do
  match ← peek with
  | some ':' =>
    skip
    match ← next with
    | some '\x7d' => return .invalid
    | some c => return (useOf? c true).getD .invalid
    | none => return .invalid
  | some '%' =>
    skip
    return .cutBack (← accept '%')
  | some '#' =>
    skip
    return .cutFront (← accept '#')
  | some c =>
    skip
    if c = '\x7d' then return .value else return (useOf? c false).getD .invalid
  | none => return .invalid

def readParameterHead : Reader (String × Use) := do
  let left ← remaining
  match ← peek with
  | none => return ("", .invalid)
  | some '\x7d' => return ("", .invalid)
  | some c =>
    if c.isAlpha || c = '_' then
      let name ← Reader.takeWhile isNameChar left
      return (String.ofList name, ← readUse)
    else if c.isDigit then
      let name ← Reader.takeWhile Char.isDigit left
      return (String.ofList name, ← readUse)
    else
      skip
      if c ≠ '#' then
        if isSpecialParameter c then return (String.ofList [c], ← readUse)
        else return ("", .invalid)
      else
        match ← peek with
        | some d =>
          if d.isAlphanum || d = '_' then
            let name ← if d.isDigit then Reader.takeWhile Char.isDigit left
              else Reader.takeWhile isNameChar left
            return (String.ofList name, .length)
          else
            let before ← get
            skip
            if d ≠ '\x7d' && (← peek) = some '\x7d' then
              if isSpecialParameter d then return (String.ofList [d], .length)
              else return ("", .invalid)
            else
              set before
              return ("#", ← readUse)
        | none => return ("#", .invalid)

/-- Take the lines of an announced text up to its delimiter, each with its end. A line that a
backslash joins to the one before it is no delimiter. `fuel` bounds their number. -/
def takeLines (a : Announced) : Nat → Bool → Reader (List Char)
  | 0, _ => return []
  | fuel + 1, joined => do
    let s ← get
    if s.rest = [] then return []
    else
      let own := s.rest.takeWhile (· ≠ '\n')
      let line := if a.stripTabs then own.dropWhile (· = '\t') else own
      let behind := s.rest.drop own.length
      set { s with rest := behind.drop 1, line := s.line + if behind = [] then 0 else 1 }
      if line = a.delimiter && !joined then return []
      else
        let slashes := (line.reverse.takeWhile (· = '\\')).length
        let more ← takeLines a fuel (!a.literal && slashes % 2 = 1)
        return line ++ behind.take 1 ++ more

mutual

/-- Read a word up to a character that ends it. A word that is `plain` holds nothing to be expanded.
`fuel` bounds the depth of the reading. -/
def readWord (plain : Bool) : Nat → Reader Word
  | 0 => refuse "word too long"
  | fuel + 1 => do
    match ← peek with
    | none => return []
    | some '\'' =>
      skip
      match ← takeLiteral '\'' with
      | some inside => return .text (String.ofList inside) true :: (← readWord plain fuel)
      | none => refuse "Unterminated quoted string"
    | some '"' =>
      skip
      let inside ← readQuoted plain fuel
      let inside := if inside.isEmpty then [Piece.text "" true] else inside
      return inside ++ (← readWord plain fuel)
    | some '\\' =>
      skip
      let c := ((← get).rest.head?).getD '\\'
      skip
      return consChar c true (← readWord plain fuel)
    | some '$' =>
      skip
      if plain then return consChar '$' false (← readWord plain fuel)
      else
        let piece ← readDollar false fuel
        return piece :: (← readWord plain fuel)
    | some c =>
      if c = '\x60' && !plain then
        skip
        let piece ← readOld false fuel
        return piece :: (← readWord plain fuel)
      else if endsWord c then return []
      else
        skip
        return consChar c false (← readWord plain fuel)

/-- Read what stands between double quotes, and the closing quote. -/
def readQuoted (plain : Bool) : Nat → Reader Word
  | 0 => refuse "Unterminated quoted string"
  | fuel + 1 => do
    match ← next with
    | none => refuse "Unterminated quoted string"
    | some '"' => return []
    | some '\\' =>
      match (← get).rest with
      | [] => refuse "Unterminated quoted string"
      | c :: _ =>
        skip
        let rest ← readQuoted plain fuel
        if c = '\\' || c = '"' || c = '$' || c = '\x60' then return consChar c true rest
        else return consChar '\\' true (consChar c true rest)
    | some '$' =>
      if plain then return consChar '$' true (← readQuoted plain fuel)
      else
        let piece ← readDollar true fuel
        return piece :: (← readQuoted plain fuel)
    | some c =>
      if c = '\x60' && !plain then
        let piece ← readOld true fuel
        return piece :: (← readQuoted plain fuel)
      else return consChar c true (← readQuoted plain fuel)

/-- Read the lines of an announced text, in which double quotes have no meaning. -/
def readLines : Nat → Reader Word
  | 0 => return []
  | fuel + 1 => do
    match ← next with
    | none => return []
    | some '\\' =>
      match (← get).rest with
      | [] => return [.text "\\" true]
      | c :: _ =>
        skip
        let rest ← readLines fuel
        if c = '\\' || c = '$' || c = '\x60' then return consChar c true rest
        else return consChar '\\' true (consChar c true rest)
    | some '$' =>
      let piece ← readDollar true fuel
      return piece :: (← readLines fuel)
    | some c =>
      if c = '\x60' then
        let piece ← readOld true fuel
        return piece :: (← readLines fuel)
      else return consChar c true (← readLines fuel)

/-- Read what follows a dollar sign. A dollar sign with nothing to name stands for itself. -/
def readDollar (quoted : Bool) : Nat → Reader Piece
  | 0 => refuse "word too long"
  | fuel + 1 => do
    match ← peek with
    | some '(' =>
      skip
      if ← accept '(' then return .arithmetic (← readSum 0 fuel) quoted
      else
        let announced := (← get).announced
        modify fun s => { s with announced := [] }
        let body ← readList fuel true true
        let t ← readToken fuel false false
        if !t.isOperator ")" then unexpected t (some ")")
        else
          readAnnounced fuel
          modify fun s => { s with announced := announced }
          return .output body quoted
    | some c =>
      if c = '\x7b' then
        skip
        let (name, use) ← readParameterHead
        if use = .value then return .parameter name use [] quoted
        else
          let based := match use with
            | .cutBack _ => true
            | .cutFront _ => true
            | _ => false
          let word ← readOperand (quoted && !based) false fuel
          return .parameter name use word quoted
      else if c.isAlpha || c = '_' then
        let name ← Reader.takeWhile isNameChar fuel
        return .parameter (String.ofList name) .value [] quoted
      else if isSpecialParameter c then
        skip
        return .parameter (String.ofList [c]) .value [] quoted
      else return .text "$" quoted
    | none => return .text "$" quoted

/-- Read the word behind the sign for the use of a parameter, and the closing brace. In a word that
is `quoted` as a whole, `inner` tells whether double quotes are open inside it. -/
def readOperand (quoted inner : Bool) : Nat → Reader Word
  | 0 => refuse "word too long"
  | fuel + 1 => do
    match ← next with
    | none => refuse "Missing '\x7d'"
    | some '"' =>
      if quoted then return .text "" true :: (← readOperand quoted (!inner) fuel)
      else
        let inside ← readQuoted false fuel
        let inside := if inside.isEmpty then [Piece.text "" true] else inside
        return inside ++ (← readOperand quoted inner fuel)
    | some '\'' =>
      if quoted then return consChar '\'' true (← readOperand quoted inner fuel)
      else
        match ← takeLiteral '\'' with
        | some inside =>
          return .text (String.ofList inside) true :: (← readOperand quoted inner fuel)
        | none => refuse "Unterminated quoted string"
    | some '\\' =>
      let c := ((← get).rest.head?).getD '\\'
      skip
      let rest ← readOperand quoted inner fuel
      if !quoted || ['\\', '"', '$', '\x60', '\x7d'].contains c then return consChar c true rest
      else return consChar '\\' true (consChar c true rest)
    | some '$' =>
      let piece ← readDollar quoted fuel
      return piece :: (← readOperand quoted inner fuel)
    | some c =>
      if c = '\x7d' && !inner then return []
      else if c = '\x60' then
        let piece ← readOld quoted fuel
        return piece :: (← readOperand quoted inner fuel)
      else return consChar c quoted (← readOperand quoted inner fuel)

/-- Read a sum up to the two brackets that close it. `depth` brackets are open inside it. -/
def readSum (depth : Nat) : Nat → Reader Word
  | 0 => refuse "Missing '))'"
  | fuel + 1 => do
    match ← next with
    | none => refuse "Missing '))'"
    | some '(' => return consChar '(' true (← readSum (depth + 1) fuel)
    | some ')' =>
      match depth with
      | 0 =>
        if ← accept ')' then return []
        else return consChar ')' true (← readSum 0 fuel)
      | depth + 1 => return consChar ')' true (← readSum depth fuel)
    | some '\\' =>
      let c := ((← get).rest.head?).getD '\\'
      skip
      return consChar '\\' true (consChar c true (← readSum depth fuel))
    | some '$' =>
      let piece ← readDollar true fuel
      return piece :: (← readSum depth fuel)
    | some c =>
      if c = '\x60' then
        let piece ← readOld true fuel
        return piece :: (← readSum depth fuel)
      else return consChar c true (← readSum depth fuel)

def readOld (quoted : Bool) : Nat → Reader Piece
  | 0 => refuse "word too long"
  | fuel + 1 => do
    let text ← readOldScript quoted fuel
    let outer ← get
    set { outer with rest := text, line := 1, announced := [], returned? := none }
    let body ← readList fuel true true
    readAnnounced fuel
    modify fun inner => { outer with documents := inner.documents }
    return .output body quoted

def readAnnounced : Nat → Reader Unit
  | 0 => return ()
  | fuel + 1 => do
    match (← get).announced with
    | [] => return ()
    | a :: others =>
      modify fun s => { s with announced := others }
      let lines ← takeLines a ((← remaining) + 1) false
      let word ← if a.literal then pure [Piece.text (String.ofList lines) true]
        else do
          let outer ← get
          set { outer with rest := lines, announced := [] }
          let word ← readLines fuel
          modify fun inner => { outer with documents := inner.documents }
          pure word
      modify fun s => { s with documents := s.documents.setIfInBounds a.number word }
      readAnnounced fuel

/-- Read a token. Where a command can start, some words are keywords, and some stand for others. -/
def readToken : Nat → Bool → Bool → Reader Token
  | 0, _, _ => refuse "word too long"
  | fuel + 1, withKeywords, withAliases => do
    let returned? := (← get).returned?
    modify fun s => { s with returned? := none }
    let found ← match returned? with
      | some t => pure t
      | none => readFresh fuel
    match found with
    | .word w false =>
      match bareText? w with
      | none => return found
      | some text =>
        if withKeywords && keywords.contains text then return .keyword text
        else
          let s ← get
          let left := s.rest.length
          let replaced := s.replaced.filter fun (_, after) => left > after
          match (if withAliases && returned?.isNone then s.aliases.lookup text else none) with
          | some value =>
            if replaced.any (·.1 = text) then return found
            else
              set { s with
                rest := value.toList ++ s.rest
                replaced := (text, left) :: replaced }
              readToken fuel withKeywords withAliases
          | none => return found
    | _ => return found

/-- Read a token like `readToken`, ends of lines in front of it left out. -/
def readTokenBehindLines : Nat → Bool → Bool → Reader Token
  | 0, _, _ => refuse "word too long"
  | fuel + 1, withKeywords, withAliases => do
    match ← readToken fuel withKeywords withAliases with
    | .lineEnd =>
      readAnnounced fuel
      readTokenBehindLines fuel withKeywords withAliases
    | t => return t

def readFresh : Nat → Reader Token
  | 0 => refuse "word too long"
  | fuel + 1 => do
    skipGaps fuel
    match ← peek with
    | none => return .finish
    | some '\n' =>
      skip
      return .lineEnd
    | some '&' =>
      skip
      return .operator (if ← accept '&' then "&&" else "&")
    | some '|' =>
      skip
      return .operator (if ← accept '|' then "||" else "|")
    | some ';' =>
      skip
      return .operator (if ← accept ';' then ";;" else ";")
    | some '(' =>
      skip
      return .operator "("
    | some ')' =>
      skip
      return .operator ")"
    | _ =>
      let w ← readWord false fuel
      let behind ← peek
      if behind = some '<' || behind = some '>' then
        match w with
        | [] => return .redirect none (← readSign)
        | [.text content false] =>
          match content.toList with
          | [c] =>
            if c.isDigit then return .redirect (some (c.toNat - '0'.toNat)) (← readSign)
            else return .word w false
          | _ => return .word w false
        | _ => return .word w (holdsQuotes w)
      else return .word w (holdsQuotes w)

def readRedirect (descriptor? : Option Nat) (sign : String) : Nat → Reader Redirect
  | 0 => refuse "word too long"
  | fuel + 1 => do
    let usual := if sign.startsWith "<" then 0 else 1
    let descriptor := descriptor?.getD usual
    if sign = "<<" || sign = "<<-" then
      skipGaps fuel
      let w ← readWord true fuel
      if w.isEmpty then unexpected (← readToken fuel false false)
      else
        let s ← get
        let number := s.documents.size
        let announced : Announced :=
          ⟨number, ((plainText? w).getD "").toList, holdsQuotes w, sign = "<<-"⟩
        set { s with
          announced := s.announced ++ [announced]
          documents := s.documents.push [] }
        return .mk descriptor (.document number) []
    else
      match ← readToken fuel false false with
      | .word w _ =>
        match sign with
        | "<" => return .mk descriptor .read w
        | ">" => return .mk descriptor (.write false) w
        | ">|" => return .mk descriptor (.write true) w
        | ">>" => return .mk descriptor .append w
        | "<>" => return .mk descriptor .both w
        | _ => return .mk descriptor .duplicate w
      | t => unexpected t

def readRedirects : Nat → Reader (List Redirect)
  | 0 => refuse "word too long"
  | fuel + 1 => do
    match ← readToken fuel true true with
    | .redirect descriptor? sign =>
      let r ← readRedirect descriptor? sign fuel
      return r :: (← readRedirects fuel)
    | t =>
      giveBack t
      return []

/-- Read statements. Inside a statement they go on over the ends of lines; otherwise they end with
their line. With `stops`, they may end at once before a token that ends a list. -/
def readList : Nat → Bool → Bool → Reader (List Statement)
  | 0, _, _ => refuse "word too long"
  | fuel + 1, inside, stops => do
    let t ← if inside then readTokenBehindLines fuel true true else readToken fuel true true
    match t with
    | .lineEnd =>
      readAnnounced fuel
      return []
    | .finish =>
      readAnnounced fuel
      giveBack .finish
      return []
    | t =>
      giveBack t
      if stops && t.endsList then return []
      else
        let s ← readAndOr fuel
        match ← readToken fuel false false with
        | .operator "&" => return .background s :: (← readList fuel inside inside)
        | .operator ";" => return s :: (← readList fuel inside inside)
        | .lineEnd =>
          giveBack .lineEnd
          return s :: (← readList fuel inside inside)
        | .finish =>
          giveBack .finish
          return s :: (← readList fuel inside inside)
        | t =>
          if inside then
            giveBack t
            return [s]
          else unexpected t

/-- Read the statements of a part of a statement. At least one is needed. -/
def readBlock : Nat → Reader Statement
  | 0 => refuse "word too long"
  | fuel + 1 => do
    match ← readList fuel true false with
    | [s] => return s
    | items => return .sequence items

/-- Read pipelines with the signs for success and failure between them. -/
def readAndOr : Nat → Reader Statement
  | 0 => refuse "word too long"
  | fuel + 1 => do
    let first ← readPipeline fuel
    readAndOrRest fuel first

/-- Go on behind a first pipeline. -/
def readAndOrRest : Nat → Statement → Reader Statement
  | 0, _ => refuse "word too long"
  | fuel + 1, first => do
    let t ← readToken fuel false false
    let isAnd := t.isOperator "&&"
    if isAnd || t.isOperator "||" then
      giveBack (← readTokenBehindLines fuel true true)
      let second ← readPipeline fuel
      readAndOrRest fuel (if isAnd then .both first second else .either first second)
    else
      giveBack t
      return first

def readPipeline : Nat → Reader Statement
  | 0 => refuse "word too long"
  | fuel + 1 => do
    let t ← readToken fuel false false
    let negated := t.isKeyword "!"
    giveBack (← if negated then readToken fuel true true else pure t)
    let first ← readCommand fuel
    let parts ← readParts fuel
    let s := if parts.isEmpty then first else .pipeline (first :: parts)
    return if negated then .negate s else s

def readParts : Nat → Reader (List Statement)
  | 0 => refuse "word too long"
  | fuel + 1 => do
    let t ← readToken fuel false false
    if t.isOperator "|" then
      giveBack (← readTokenBehindLines fuel true true)
      let part ← readCommand fuel
      return part :: (← readParts fuel)
    else
      giveBack t
      return []

def expectKeyword (text : String) : Nat → Reader Unit
  | 0 => refuse "word too long"
  | fuel + 1 => do
    let t ← readToken fuel true false
    if t.isKeyword text then return () else unexpected t (some text)

/-- Read the conditions and bodies of a branch behind its first word. -/
def readBranch : Nat → Reader Statement
  | 0 => refuse "word too long"
  | fuel + 1 => do
    let condition ← readBlock fuel
    expectKeyword "then" fuel
    let body ← readBlock fuel
    let t ← readToken fuel true false
    if t.isKeyword "elif" then return .branch condition body (← readBranch fuel)
    else if t.isKeyword "else" then
      let otherwise ← readBlock fuel
      expectKeyword "fi" fuel
      return .branch condition body otherwise
    else if t.isKeyword "fi" then return .branch condition body .nothing
    else unexpected t (some "fi")

def readLoopBody : Nat → Reader Statement
  | 0 => refuse "word too long"
  | fuel + 1 => do
    let body ← readBlock fuel
    expectKeyword "done" fuel
    return body

def readLoopWords : Nat → Reader (List Word)
  | 0 => refuse "word too long"
  | fuel + 1 => do
    match ← readToken fuel false false with
    | .word w _ => return w :: (← readLoopWords fuel)
    | .lineEnd =>
      readAnnounced fuel
      return []
    | t => if t.isOperator ";" then return [] else unexpected t

def readPatterns : Nat → Token → Reader (List Word)
  | 0, _ => refuse "word too long"
  | fuel + 1, t => do
    let w := match t with
      | .word w _ => w
      | .keyword text => [Piece.text text false]
      | _ => []
    let behind ← readToken fuel false false
    if behind.isOperator "|" then
      return w :: (← readPatterns fuel (← readToken fuel false false))
    else if behind.isOperator ")" then return [w]
    else unexpected behind (some ")")

def readArms : Nat → Reader (List (List Word × Statement))
  | 0 => refuse "word too long"
  | fuel + 1 => do
    let t ← readTokenBehindLines fuel true false
    if t.isKeyword "esac" then return []
    else
      let patterns ← if t.isOperator "(" then readPatterns fuel (← readToken fuel false false)
        else readPatterns fuel t
      let body ← readList fuel true true
      let behind ← readTokenBehindLines fuel true false
      if behind.isKeyword "esac" then return [(patterns, .sequence body)]
      else if behind.isOperator ";;" then
        return (patterns, .sequence body) :: (← readArms fuel)
      else unexpected behind (some ";;")

def readBehind (line : Nat) (s : Statement) : Nat → Reader Statement
  | 0 => refuse "word too long"
  | fuel + 1 => do
    let redirects ← readRedirects fuel
    match s, redirects with
    | s, [] => return s
    | .subshell line body _, redirects => return .subshell line body redirects
    | s, redirects => return .group line s redirects

def readCommand : Nat → Reader Statement
  | 0 => refuse "word too long"
  | fuel + 1 => do
    let line := (← get).line
    let t ← readToken fuel false false
    match t with
    | .word _ _ =>
      giveBack t
      readSimple line [] [] [] fuel
    | .redirect _ _ =>
      giveBack t
      readSimple line [] [] [] fuel
    | .operator "(" => do
      let body ← readBlock fuel
      let closing ← readToken fuel true false
      if closing.isOperator ")" then readBehind line (.subshell line body []) fuel
      else unexpected closing (some ")")
    | .keyword "if" => readBehind line (← readBranch fuel) fuel
    | .keyword "while" => do
      let condition ← readBlock fuel
      expectKeyword "do" fuel
      let body ← readLoopBody fuel
      readBehind line (.loop false condition body) fuel
    | .keyword "until" => do
      let condition ← readBlock fuel
      expectKeyword "do" fuel
      let body ← readLoopBody fuel
      readBehind line (.loop true condition body) fuel
    | .keyword "for" => do
      let named ← readToken fuel false false
      let name? := match named with
        | .word w false => (bareText? w).filter fun name => isName name.toList
        | _ => none
      match name? with
      | none => refuse "Bad for loop variable"
      | some name =>
        let behind ← readTokenBehindLines fuel true true
        let words? ← if behind.isKeyword "in" then do pure (some (← readLoopWords fuel))
          else do
            if !behind.isOperator ";" then giveBack behind
            pure none
        let opening ← readTokenBehindLines fuel true true
        if !opening.isKeyword "do" then unexpected opening (some "do")
        else
          let body ← readLoopBody fuel
          readBehind line (.each line name words? body) fuel
    | .keyword "case" => do
      match ← readToken fuel false false with
      | .word subject _ =>
        let behind ← readTokenBehindLines fuel true true
        if !behind.isKeyword "in" then unexpected behind (some "in")
        else
          let arms ← readArms fuel
          readBehind line (.choose line subject arms) fuel
      | t => unexpected t (some "word")
    | t =>
      if t.isKeyword "\x7b" then
        let body ← readBlock fuel
        expectKeyword "\x7d" fuel
        readBehind line (.group line body []) fuel
      else unexpected t

/-- Read a simple command behind what has been read of it, last things first. -/
def readSimple (line : Nat) (assignments : List (String × Word)) (words : List Word)
    (redirects : List Redirect) : Nat → Reader Statement
  | 0 => refuse "word too long"
  | fuel + 1 => do
    let finished : Statement :=
      .simple line assignments.reverse words.reverse redirects.reverse
    match ← readToken fuel false words.isEmpty with
    | .word w _ =>
      match (if words.isEmpty then assignment? w else none) with
      | some a => readSimple line (a :: assignments) words redirects fuel
      | none => readSimple line assignments (w :: words) redirects fuel
    | .redirect descriptor? sign =>
      let r ← readRedirect descriptor? sign fuel
      readSimple line assignments words (r :: redirects) fuel
    | t =>
      match words with
      | [w] =>
        if t.isOperator "(" && assignments.isEmpty && redirects.isEmpty then
          let closing ← readToken fuel false false
          if !closing.isOperator ")" then unexpected closing (some ")")
          else
            match bareText? w with
            | some name =>
              if !isName name.toList || reservedNames.contains name then refuse "Bad function name"
              else
                giveBack (← readTokenBehindLines fuel true true)
                return .define name (← readCommand fuel)
            | none => refuse "Bad function name"
        else
          giveBack t
          return finished
      | _ =>
        giveBack t
        return finished

end

/-- How deep the reading of some text may go. -/
def readingDepth (s : Source) : Nat :=
  let replacements := (s.aliases.map (·.2.length)).foldl (· + ·) 0
  24 * (s.rest.length + 16 * replacements) + 256

/-- Read the statements that end on the next line; there are none behind the end of the script. -/
def Source.nextLine (s : Source) : Except Malformed (Option Statement × Source) :=
  if s.rest = [] then .ok (none, s)
  else match (readList (readingDepth s) false false).run { s with returned? := none } with
    | .ok (items, s) => .ok (some (.sequence items), s)
    | .error e => .error e

end Launchpad.Script
