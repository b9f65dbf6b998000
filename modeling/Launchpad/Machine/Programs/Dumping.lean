import Launchpad.Digest
import Launchpad.Machine.Inputs

/-!
Showing the bytes of files as characters and numbers, a block of them on each line.
-/

namespace Launchpad.Machine.Programs

/-- One way to show bytes: a letter for the kind, how many bytes make one value, and whether the
characters stand behind them. -/
structure DumpKind where
  letter : Char
  size : Nat
  showsText : Bool := false
  deriving Repr, Inhabited

namespace DumpKind

/-- How wide a value is, the blank in front of it left out. -/
def width (k : DumpKind) : Nat :=
  match k.letter with
  | 'a' => 3
  | 'c' => 3
  | 'x' => 2 * k.size
  | 'o' => (8 * k.size + 2) / 3
  | 'u' => (toString (Nat.pow 256 k.size - 1)).length
  | _ => (toString (Nat.pow 256 k.size / 2)).length + 1

def controlNames : List String :=
  ["nul", "soh", "stx", "etx", "eot", "enq", "ack", "bel", "bs", "ht", "nl", "vt", "ff", "cr", "so",
    "si", "dle", "dc1", "dc2", "dc3", "dc4", "nak", "syn", "etb", "can", "em", "sub", "esc", "fs",
    "gs", "rs", "us", "sp"]

def character (n : Nat) : Octets :=
  match n with
  | 0 => "\\0"
  | 7 => "\\a"
  | 8 => "\\b"
  | 9 => "\\t"
  | 10 => "\\n"
  | 11 => "\\v"
  | 12 => "\\f"
  | 13 => "\\r"
  | n =>
    if 32 ≤ n && n < 127 then String.ofList [Char.ofNat n]
    else padLeft 3 (String.ofList (Nat.toDigits 8 n)) '0'

/-- The text of a value; its first byte counts least. -/
def value (k : DumpKind) (bytes : List UInt8) : Octets :=
  let n := Digest.littleEndian bytes
  match k.letter with
  | 'a' =>
    let n := n % 128
    if n = 127 then "del" else (controlNames[n]?).getD (String.ofList [Char.ofNat n])
  | 'c' => character n
  | 'x' => padLeft k.width (String.ofList (Nat.toDigits 16 n)) '0'
  | 'o' => padLeft k.width (String.ofList (Nat.toDigits 8 n)) '0'
  | 'u' => toString n
  | _ =>
    let half := Nat.pow 256 k.size / 2
    if n < half then toString n else "-" ++ toString (2 * half - n)

/-- The values of a line. They are spread over a given width. -/
def line (k : DumpKind) (perLine total : Nat) (bytes : List UInt8) : Octets :=
  let fields := perLine / k.size
  let used := (bytes.length + k.size - 1) / k.size
  let filling := total - fields * (k.width + 1)
  String.join ((List.range used).map fun j =>
    let before := filling * (fields - j) / fields
    let behind := filling * (fields - j - 1) / fields
    let own := (bytes.drop (j * k.size)).take k.size
    padLeft (k.width + 1 + (before - behind))
      (k.value (own ++ List.replicate (k.size - own.length) 0)))

end DumpKind

def sizeLetters : List (Char × Nat) := [('C', 1), ('S', 2), ('I', 4), ('L', 8)]

/-- Read kinds. `fuel` bounds their number. -/
def readKinds? : Nat → List Char → Option (List DumpKind)
  | 0, _ => none
  | fuel + 1, cs =>
    match cs with
    | [] => some []
    | c :: rest =>
      let sizes := rest.takeWhile Char.isDigit
      let behind := rest.drop sizes.length
      let (size?, behind) : Option Nat × List Char :=
        if c = 'a' || c = 'c' then (some 1, rest)
        else match natural? sizes, behind with
          | some n, behind => (some n, behind)
          | none, l :: more =>
            match sizeLetters.lookup l with
            | some n => (some n, more)
            | none => (some 4, l :: more)
          | none, [] => (some 4, [])
      match size?, "acdoux".toList.contains c with
      | some size, true =>
        if [1, 2, 4, 8].contains size then
          let (text, behind) := match behind with
            | 'z' :: more => (true, more)
            | behind => (false, behind)
          (readKinds? fuel behind).map (⟨c, size, text⟩ :: ·)
        else none
      | _, _ => none

def kindOptions : List (Char × DumpKind) :=
  [('a', ⟨'a', 1, false⟩), ('b', ⟨'o', 1, false⟩), ('c', ⟨'c', 1, false⟩), ('d', ⟨'u', 2, false⟩),
    ('i', ⟨'d', 4, false⟩), ('l', ⟨'d', 8, false⟩), ('o', ⟨'o', 2, false⟩), ('s', ⟨'d', 2, false⟩),
    ('x', ⟨'x', 2, false⟩), ('B', ⟨'o', 2, false⟩), ('D', ⟨'u', 4, false⟩),
    ('O', ⟨'o', 4, false⟩), ('X', ⟨'x', 4, false⟩), ('H', ⟨'x', 4, false⟩)]

def od : Program := do
  let g ← Tool.options
    ([.valued 'A' "address-radix", .valued 'j' "skip-bytes", .valued 'N' "read-bytes",
      .valued 't' "format", .flag 'v' "output-duplicates",
      { key := 'w', long := "width", takes := .perhaps }, .valued 'S' "strings"] ++
      kindOptions.map fun (c, _) => .flag c)
  let kinds ← g.options.foldlM (fun (kinds : List DumpKind) (key, text) => do
    if key = 't' then
      match readKinds? (text.length + 1) text.toList with
      | some more => return kinds ++ more
      | none => Tool.fail 1 ("invalid type string " ++ Quoting.plain text)
    else return kinds ++ (kindOptions.lookup key).toList) []
  let kinds := if kinds.isEmpty then [⟨'o', 2, false⟩] else kinds
  let amount (key : Char) : Tool (Option Nat) := do
    match g.value? key with
    | none => return none
    | some text =>
      match measured? text with
      | some n => return some n
      | none => Tool.fail 1 ("invalid -" ++ String.ofList [key] ++ " argument " ++
          Quoting.plain text)
  let skip := (← amount 'j').getD 0
  let limit? ← amount 'N'
  let unit := kinds.foldl (fun n k => Nat.lcm n k.size) 1
  let perLine := match g.value? 'w' with
    | none => if unit ≤ 16 then 16 / unit * unit else unit
    | some "" => 32
    | some text => (natural? text.toList).getD 16
  let perLine := if perLine = 0 || perLine % unit ≠ 0 then unit else perLine
  let radix := match (g.value? 'A').getD "o" with
    | "d" => some (10, 7)
    | "x" => some (16, 6)
    | "n" => none
    | _ => some (8, 7)
  let mut all := ByteArray.empty
  for path in Tool.inputs g.operands do
    match ← Tool.load path with
    | .ok text => all := all ++ Octets.array text
    | .error cause => Tool.complain 1 (Quoting.beforeColon path ++ ": " ++ cause.number.text)
  if skip > all.size then Tool.fail 1 "cannot skip past end of combined input"
  let stop := match limit? with
    | some n => min all.size (skip + n)
    | none => all.size
  let address (n : Nat) : Octets := match radix with
    | some (base, width) => padLeft width (String.ofList (Nat.toDigits base n)) '0'
    | none => ""
  let total := (kinds.map fun k => perLine / k.size * (k.width + 1)).foldl max 0
  let blank := String.ofList (List.replicate (address 0).length ' ')
  let count := (stop - skip + perLine - 1) / perLine
  let lines := (List.range count).map fun j =>
    let start := skip + j * perLine
    (start, (all.extract start (min stop (start + perLine))).toList)
  let (out, _, _) := lines.foldl
    (fun ((out, last?, starred) : List Octets × Option (List UInt8) × Bool) (start, bytes) =>
      if !g.has 'v' && last? = some bytes && bytes.length = perLine then
        (if starred then out else "*\n" :: out, last?, true)
      else
        let rows := (kinds.zip (List.range kinds.length)).map fun (k, j) =>
          let values := k.line perLine total bytes
          let shown := if k.showsText then
              padRight total values ++ "  >" ++ String.ofList (bytes.map fun b =>
                if 32 ≤ b.toNat && b.toNat < 127 then Char.ofNat b.toNat else '.') ++ "<"
            else values
          (if j = 0 then address start else blank) ++ shown ++ "\n"
        (String.join rows :: out, some bytes, false)) ([], none, false)
  Tool.print (String.join out.reverse)
  if radix.isSome then Tool.print (address stop ++ "\n")

end Launchpad.Machine.Programs
