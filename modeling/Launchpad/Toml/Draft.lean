import Launchpad.Toml.Value

/-!
A TOML document while it is being put together. A table can be opened in four ways, and which later
lines may add to it depends on how: by a header of its own, on the way to a header further down, on
the way through a dotted key, or as the element of an array of tables. A value that is complete
takes no additions.
-/

namespace Launchpad.Toml

inductive Opened where
  /-- By a header of its own, or as the whole document. -/
  | byHeader
  /-- On the way to a header further down. -/
  | onTheWay
  /-- On the way through a dotted key. -/
  | byDottedKey
  deriving DecidableEq, Repr

inductive Draft where
  | value (v : Value)
  | table (opened : Opened) (fields : List (String × Draft))
  /-- An array of tables; only its last element takes additions. -/
  | tables (elements : List (List (String × Draft)))
  deriving Inhabited

abbrev DraftFields := List (String × Draft)

namespace DraftFields

def replace (fields : DraftFields) (key : String) (d : Draft) : DraftFields :=
  fields.map fun (k, old) => if k = key then (k, d) else (k, old)

/-- Change the table at the end of a path, making the tables on the way that are missing. A dotted
key may not go through a table that has a header of its own. -/
def changeAt (dotted : Bool) (change : Opened → DraftFields → Option DraftFields) :
    List String → Opened → DraftFields → Option DraftFields
  | [], opened, fields => change opened fields
  | key :: rest, _, fields =>
    match fields.lookup key with
    | none =>
      let opened := if dotted then Opened.byDottedKey else .onTheWay
      (changeAt dotted change rest opened []).map fun inner =>
        fields ++ [(key, .table opened inner)]
    | some (.value _) => none
    | some (.tables elements) =>
      match elements.getLast? with
      | none => none
      | some last =>
        (changeAt dotted change rest .byHeader last).map fun inner =>
          DraftFields.replace fields key (.tables (elements.dropLast ++ [inner]))
    | some (.table opened inner) =>
      if dotted && opened = .byHeader then none
      else (changeAt dotted change rest opened inner).map fun inner =>
        DraftFields.replace fields key (.table opened inner)

/-- Open a table by its header. The way to it may lead through tables of every kind; the table
itself may so far only have been on the way to others. -/
def openTable (path : List String) (fields : DraftFields) : Option DraftFields :=
  match path.getLast? with
  | none => none
  | some key =>
    changeAt false (fun _ fields =>
      match fields.lookup key with
      | none => some (fields ++ [(key, .table .byHeader [])])
      | some (.table .onTheWay inner) =>
        some (DraftFields.replace fields key (.table .byHeader inner))
      | some _ => none) path.dropLast .byHeader fields

def openElement (path : List String) (fields : DraftFields) : Option DraftFields :=
  match path.getLast? with
  | none => none
  | some key =>
    changeAt false (fun _ fields =>
      match fields.lookup key with
      | none => some (fields ++ [(key, .tables [[]])])
      | some (.tables elements) =>
        some (DraftFields.replace fields key (.tables (elements ++ [[]])))
      | some _ => none) path.dropLast .byHeader fields

/-- Give a key a value, within the table at the end of a section's path. Under a dotted key the
table that gets the value must have been opened by a dotted key, under a plain one it must not. -/
def assign (header path : List String) (v : Value) (fields : DraftFields) : Option DraftFields :=
  match path.getLast? with
  | none => none
  | some key =>
    changeAt false (fun opened fields =>
      changeAt true (fun opened fields =>
        if decide (opened = .byDottedKey) ≠ decide (path.dropLast ≠ []) then none
        else if (fields.lookup key).isSome then none
        else some (fields ++ [(key, .value v)])) path.dropLast opened fields)
      header .byHeader fields

end DraftFields

mutual

def Draft.finish : Draft → Value
  | .value v => v
  | .table _ fields => .table (finishFields fields)
  | .tables elements => .array (finishElements elements)

def finishFields : List (String × Draft) → List (String × Value)
  | [] => []
  | (key, d) :: rest => (key, d.finish) :: finishFields rest

def finishElements : List (List (String × Draft)) → List Value
  | [] => []
  | fields :: rest => .table (finishFields fields) :: finishElements rest

end

end Launchpad.Toml
