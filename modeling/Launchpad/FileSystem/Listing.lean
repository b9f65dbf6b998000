import Launchpad.FileSystem.Lookup

/-!
Listings of trees. Both listings go depth first, a directory before what it holds, siblings in byte
order of their names, and follow no link below the top.
-/

namespace Launchpad

namespace FileSystem

/-- Everything below a location, with the names that lead there. `fuel` bounds the depth. -/
def listingFuel (fs : FileSystem) : Nat → Location → List Name → List (List Name × Entry)
  | 0, _, _ => []
  | fuel + 1, top, way =>
    (fs.children (top ++ way)).flatMap fun name =>
      let below := way ++ [name]
      match fs.entry? (top ++ below) with
      | none => []
      | some e =>
        if e.isDirectory then (below, e) :: listingFuel fs fuel top below else [(below, e)]

/-- Everything below a location, with the names that lead there. -/
def listing (fs : FileSystem) (top : Location) : List (List Name × Entry) :=
  fs.listingFuel (fs.entries.length + 1) top []

/-- Open a directory in order to list it. The path that leads there is followed anew, so it must not
be too long, and whoever holds the directory must let it be reached. -/
def openListing (p : Path) (reached : Bool) (e : Entry) : Except IoError Unit :=
  if p.bytes.length > pathLimit then .error (.listing p .nameTooLong)
  else if !(reached && e.readable) then .error (.listing p .accessDenied)
  else .ok ()

/-- Everything at and below a place that was reached by a path, each with the path that leads
there. A directory that may not be listed ends the walk. `reached` tells whether the directory above
may be searched; `fuel` bounds the depth. -/
def walkTreeFuel (fs : FileSystem) : Nat → Bool → Path → Location → Entry →
    Except IoError (List (Path × Entry))
  | 0, _, _, _, _ => .ok []
  | fuel + 1, reached, p, l, e =>
    if !e.isDirectory then .ok [(p, e)]
    else do
      openListing p reached e
      let below ← (fs.children l).mapM fun name =>
        match fs.entry? (l ++ [name]) with
        | none => .ok []
        | some inner => walkTreeFuel fs fuel e.executable (p.join ⟨name⟩) (l ++ [name]) inner
      .ok ((p, e) :: below.flatten)

/-- Everything at and below a path. A link at the top is followed when it leads to a directory. -/
def walkTree (fs : FileSystem) (p : Path) : Except IoError (List (Path × Entry)) :=
  let asListing : IoError → IoError
    | .os number => .listing p number
    | other => other
  match fs.find p false, fs.status p with
  | .error e, _ => .error (asListing e)
  | _, .error e => .error (asListing e)
  | .ok (_, own), .ok (l, e) =>
    if e.isDirectory then fs.walkTreeFuel (fs.entries.length + 1) true p l e else .ok [(p, own)]

end FileSystem

end Launchpad
