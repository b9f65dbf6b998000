/-!
Lengths of time and their text. A length is shown with a unit in which it is at least one, from
seconds down to nanoseconds.
-/

namespace Launchpad

/-- A length of time in nanoseconds. -/
structure Duration where
  nanoseconds : Nat
  deriving DecidableEq, Repr, Inhabited

namespace Duration

/-- The unit that suits a length, in nanoseconds, and its sign. -/
def unit (d : Duration) : Nat × String :=
  if d.nanoseconds ≥ 1000000000 then (1000000000, "s")
  else if d.nanoseconds ≥ 1000000 then (1000000, "ms")
  else if d.nanoseconds ≥ 1000 then (1000, "µs")
  else (1, "ns")

/-- The nine decimal places of a fraction, without the zeros at their end. -/
def places (width value : Nat) : String :=
  let digits := Nat.toDigits 10 value
  let padded := List.replicate (width - digits.length) '0' ++ digits
  String.ofList (padded.reverse.dropWhile (· = '0')).reverse

/-- A length with as many decimal places as it needs. -/
def render (d : Duration) : String :=
  let (size, sign) := d.unit
  let whole := d.nanoseconds / size
  let fraction := d.nanoseconds % size
  let width := (Nat.toDigits 10 size).length - 1
  if fraction = 0 then toString whole ++ sign
  else toString whole ++ "." ++ places width fraction ++ sign

/-- A length with two decimal places, rounded to the nearest, a tie to the even neighbour. -/
def renderHundredths (d : Duration) : String :=
  let (size, sign) := d.unit
  let scaled := d.nanoseconds * 100
  let floor := scaled / size
  let twice := 2 * (scaled % size)
  let rounded := if twice > size || (twice = size && floor % 2 = 1) then floor + 1 else floor
  let hundredths := toString (rounded % 100)
  toString (rounded / 100) ++ "." ++ (if rounded % 100 < 10 then "0" else "") ++ hundredths ++ sign

end Duration

end Launchpad
