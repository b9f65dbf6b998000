import Launchpad.Text.Utf8

/-!
Settings that a member of an archive can carry for the member after it. Each is a line
`length key=value`, where the length counts the whole line with its end. Reading stops at an empty
line; a line that does not keep to the form is passed over in a search for a name, and spoils a
search for a number.
-/

namespace Launchpad.Tar

/-- Numbers in an archive stay below two to the power of 64. -/
def wordLimit : Nat := 18446744073709551616

/-- Lines without their ends; what follows the last end counts as a line too. -/
def splitLines : List UInt8 → List (List UInt8)
  | [] => [[]]
  | b :: rest =>
    if b = '\n'.toUInt8 then [] :: splitLines rest
    else match splitLines rest with
      | [] => [[b]]
      | line :: lines => (b :: line) :: lines

/-- Digits to base ten, perhaps behind a plus sign. -/
def decimal? (bytes : List UInt8) : Option Nat :=
  let digits := match bytes with
    | b :: rest => if b = '+'.toUInt8 then rest else bytes
    | [] => []
  if digits = [] then none
  else digits.foldl (fun value b =>
    value.bind fun n =>
      if '0'.toUInt8 ≤ b && b ≤ '9'.toUInt8 then
        let next := n * 10 + (b.toNat - '0'.toNat)
        if next < wordLimit then some next else none
      else none) (some 0)

structure Setting where
  key : List UInt8
  value : List UInt8

/-- Read a line; `none` when it does not keep to the form. -/
def Setting.ofLine? (line : List UInt8) : Option Setting := do
  let digits := line.takeWhile (· ≠ ' '.toUInt8)
  let rest ← match line.dropWhile (· ≠ ' '.toUInt8) with
    | _ :: rest => some rest
    | [] => none
  let length ← decimal? digits
  if line.length + 1 ≠ length then none
  else match rest.dropWhile (· ≠ '='.toUInt8) with
    | _ :: value => some ⟨rest.takeWhile (· ≠ '='.toUInt8), value⟩
    | [] => none

def settingLines (block : List UInt8) : List (Option Setting) :=
  ((splitLines block).takeWhile (· ≠ [])).map Setting.ofLine?

/-- The value of the first setting with a key; lines out of form are passed over. -/
def setting? (key : String) (block : List UInt8) : Option (List UInt8) :=
  ((settingLines block).filterMap id).find? (·.key = key.toUTF8.toList) |>.map (·.value)

/-- The number that the first setting with a key holds, unless a line before it is out of form. -/
def numericSetting? (key : String) (block : List UInt8) : Option Nat :=
  go (settingLines block)
where
  go : List (Option Setting) → Option Nat
    | [] => none
    | none :: _ => none
    | some s :: rest => if s.key = key.toUTF8.toList then decimal? s.value else go rest

end Launchpad.Tar
