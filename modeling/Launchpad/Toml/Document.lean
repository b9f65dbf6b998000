import Launchpad.Toml.Scalar
import Launchpad.Toml.Draft

/-!
Reading a TOML document: headers and assignments, line by line, into one table. A document that
breaks a rule of the format has no table at all.
-/

namespace Launchpad.Toml

def readSimpleKey (cs : List Char) : Option (String × List Char) :=
  match cs with
  | '"' :: _ => readQuoted cs
  | '\'' :: _ => readQuoted cs
  | _ =>
    let key := cs.takeWhile isBareKeyChar
    if key = [] then none else some (String.ofList key, cs.dropWhile isBareKeyChar)

/-- Read keys with dots between them, and the blanks around them. `fuel` bounds their number. -/
def readKeyFuel : Nat → List Char → Option (List String × List Char)
  | 0, _ => none
  | fuel + 1, cs => do
    let (key, rest) ← readSimpleKey (skipBlanks cs)
    match skipBlanks rest with
    | '.' :: more => do
      let (keys, rest) ← readKeyFuel fuel more
      some (key :: keys, rest)
    | rest => some ([key], rest)

/-- How deep arrays and tables on one line may be nested, and how many keys may stand in a row. -/
def depthLimit : Nat := 80

def readKey (cs : List Char) : Option (List String × List Char) :=
  readKeyFuel depthLimit cs

/-- One task of the reader of values. The readers call each other, so that one function does the
work of all three. -/
inductive Task where
  /-- Read a value. -/
  | value
  /-- Read the items of an array up to its closing bracket. -/
  | items
  /-- Read the assignments of a table on one line up to its closing brace; the fields so far. -/
  | fields (soFar : DraftFields)

/-- Read a value, the items of an array, or the fields of a table on one line. Items come back as
an array, fields as a table. `depth` tells how many more brackets may be opened, `fuel` bounds the
number of steps. -/
def readTask : Nat → Nat → Task → List Char → Option (Value × List Char)
  | 0, _, _, _ => none
  | fuel + 1, depth, .value, cs =>
    match cs with
    | '"' :: _ => (readString cs).map fun (t, rest) => (.string t, rest)
    | '\'' :: _ => (readString cs).map fun (t, rest) => (.string t, rest)
    | '[' :: rest =>
      match depth with
      | 0 => none
      | depth + 1 => readTask fuel depth .items rest
    | c :: rest =>
      if c = '\x7b' then
        match depth with
        | 0 => none
        | depth + 1 => readTask fuel depth (.fields []) rest
      else readWord (c :: rest)
    | [] => none
  | fuel + 1, depth, .items, cs => do
    match ← skipLines cs with
    | ']' :: rest => some (.array [], rest)
    | cs =>
      let (item, rest) ← readTask fuel depth .value cs
      match ← skipLines rest with
      | ']' :: rest => some (.array [item], rest)
      | ',' :: rest =>
        match ← readTask fuel depth .items rest with
        | (.array items, rest) => some (.array (item :: items), rest)
        | _ => none
      | _ => none
  | fuel + 1, depth, .fields soFar, cs => do
    match ← skipLines cs with
    | [] => none
    | c :: rest =>
      if c = '\x7d' then some ((Draft.table .byHeader soFar).finish, rest)
      else
        let (path, rest) ← readKey (c :: rest)
        match ← skipLines rest with
        | '=' :: rest =>
          let (v, rest) ← readTask fuel depth .value (← skipLines rest)
          let soFar ← DraftFields.assign [] path v soFar
          match ← skipLines rest with
          | ',' :: rest => readTask fuel depth (.fields soFar) rest
          | c :: rest =>
            if c = '\x7d' then some ((Draft.table .byHeader soFar).finish, rest) else none
          | [] => none
        | _ => none

def readValue (cs : List Char) : Option (Value × List Char) :=
  readTask (2 * cs.length + 2) depthLimit .value cs

/-- A document as far as it was read: its fields, and the path of the section that is open. -/
structure Progress where
  fields : DraftFields
  openSection : List String

/-- The end of a line with nothing but a comment before it; the end of the document counts. -/
def endLine (cs : List Char) : Option (List Char) := do
  match ← skipComment (skipBlanks cs) with
  | [] => some []
  | cs => newline? cs

def readStatement (progress : Progress) (cs : List Char) : Option (Progress × List Char) :=
  match cs with
  | '[' :: '[' :: rest => do
    let (path, rest) ← readKey rest
    match rest with
    | ']' :: ']' :: rest =>
      let fields ← DraftFields.openElement path progress.fields
      some (⟨fields, path⟩, rest)
    | _ => none
  | '[' :: rest => do
    let (path, rest) ← readKey rest
    match rest with
    | ']' :: rest =>
      let fields ← DraftFields.openTable path progress.fields
      some (⟨fields, path⟩, rest)
    | _ => none
  | _ => do
    let (path, rest) ← readKey cs
    match rest with
    | '=' :: rest =>
      let (v, rest) ← readValue (skipBlanks rest)
      let fields ← DraftFields.assign progress.openSection path v progress.fields
      some (⟨fields, progress.openSection⟩, rest)
    | _ => none

/-- Read the lines of a document. `fuel` bounds their number. -/
def readLinesFuel : Nat → Progress → List Char → Option Progress
  | 0, _, _ => none
  | fuel + 1, progress, cs => do
    match ← skipLines cs with
    | [] => some progress
    | cs =>
      let (progress, rest) ← readStatement progress cs
      readLinesFuel fuel progress (← endLine rest)

/-- The table of a document; a mark of byte order in front does not count. -/
def parse? (text : String) : Option Table :=
  let cs := match text.toList with
    | '\uFEFF' :: rest => rest
    | cs => cs
  (readLinesFuel (cs.length + 1) ⟨[], []⟩ cs).map fun progress => finishFields progress.fields

end Launchpad.Toml
