import Launchpad.Machine.Options
import Launchpad.Machine.Quoting

/-!
What programs read: whole files with the cause when one cannot be opened or read, the names that
stand for the standard input, and numbers with a unit behind them.
-/

namespace Launchpad.Machine

/-- Why a file gives nothing to read. -/
inductive Unreadable where
  | closed (number : Errno)
  /-- The file is open, but cannot be read. -/
  | unread (number : Errno)
  deriving DecidableEq, Repr, Inhabited

def Unreadable.number : Unreadable → Errno
  | .closed number => number
  | .unread number => number

namespace Tool

/-- Read a whole file, the standard input for a dash. -/
def load (path : Octets) : Tool (Except Unreadable Octets) := do
  match ← openInput path with
  | .error number => return .error (.closed number)
  | .ok channel =>
    match ← drain channel with
    | .ok bytes => return .ok (Octets.ofArray bytes)
    | .error number => return .error (.unread number)

/-- The content of a file; when there is none, a message names the file and the cause. -/
def loadOrComplain (status : Nat) (path : Octets) : Tool (Option Octets) := do
  match ← load path with
  | .ok text => return some text
  | .error cause =>
    complain status (Quoting.beforeColon path ++ ": " ++ cause.number.text)
    return none

/-- What is to be read: the standard input when no file is named. -/
def inputs (operands : List Octets) : List Octets :=
  if operands = [] then ["-"] else operands

/-- Leave to other readers what stands behind the part of a channel that was used. A file can be
left anywhere; from anything else whole blocks have been taken. -/
def leaveBehind (channel block : Nat) (all : ByteArray) (used : Nat) : Tool Unit := do
  let taken := match (← get).session.channels[channel]? with
    | some (.file _ _ _ _ _) => used
    | _ => (used + block - 1) / block * block
  alterSession (·.leave channel (all.extract taken all.size))

def inputTitle (path : Octets) : Octets :=
  if path = "-" then "standard input" else path

end Tool

/-- The letters of units, by the power of a thousand that they stand for. -/
def unitPowers : List (Char × Nat) :=
  [('k', 1), ('K', 1), ('m', 2), ('M', 2), ('g', 3), ('G', 3), ('t', 4), ('T', 4), ('P', 5),
    ('E', 6), ('Z', 7), ('Y', 8)]

/-- What a unit multiplies by: powers of 1024, powers of 1000 with a `B`, and blocks. -/
def multiplier? (cs : List Char) : Option Nat :=
  match cs with
  | [] => some 1
  | ['b'] => some 512
  | c :: rest =>
    (unitPowers.lookup c).bind fun power =>
      if rest = [] || rest = ['i', 'B'] then some (Nat.pow 1024 power)
      else if rest = ['B'] then some (Nat.pow 1000 power)
      else none

/-- A number with a unit behind it. A unit alone stands for one. -/
def measured? (text : Octets) : Option Nat :=
  let cs := text.toList
  let cs := if cs.head? = some '+' then cs.drop 1 else cs
  let digits := cs.takeWhile Char.isDigit
  match natural? digits, multiplier? (cs.dropWhile Char.isDigit) with
  | some n, some unit => some (n * unit)
  | none, some unit => if unit = 1 then none else some unit
  | _, none => none

end Launchpad.Machine
