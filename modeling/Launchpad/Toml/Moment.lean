/-!
Dates and times of day, as a TOML document writes them and as they are written back. A time keeps
nine digits of its fraction of a second.
-/

namespace Launchpad.Toml

structure Date where
  year : Nat
  month : Nat
  day : Nat
  deriving DecidableEq, Repr

/-- A time of day. A minute may have a sixty-first second. -/
structure TimeOfDay where
  hour : Nat
  minute : Nat
  second : Nat := 0
  /-- The digits behind the point. -/
  fraction : List Char := []
  deriving DecidableEq, Repr

/-- The distance from universal time. -/
inductive Offset where
  | none
  /-- Universal time itself. -/
  | universal
  | minutes (count : Int)
  deriving DecidableEq, Repr

/-- A date, a time, or a date and a time. -/
inductive Moment where
  | date (date : Date)
  | time (time : TimeOfDay)
  | dateTime (date : Date) (time : TimeOfDay) (offset : Offset)
  deriving DecidableEq, Repr

/-! ## Writing -/

/-- A number with as many leading zeros as bring it to a width. -/
def padded (width n : Nat) : List Char :=
  let digits := Nat.toDigits 10 n
  List.replicate (width - digits.length) '0' ++ digits

def Date.written (d : Date) : List Char :=
  padded 4 d.year ++ '-' :: padded 2 d.month ++ '-' :: padded 2 d.day

/-- The digits of a fraction that count: nine at most, without zeros at the end. -/
def significant (fraction : List Char) : List Char :=
  ((fraction.take 9).reverse.dropWhile (· = '0')).reverse

def TimeOfDay.written (t : TimeOfDay) : List Char :=
  let whole := padded 2 t.hour ++ ':' :: padded 2 t.minute ++ ':' :: padded 2 t.second
  match significant t.fraction with
  | [] => whole
  | digits => whole ++ '.' :: digits

def Offset.written : Offset → List Char
  | .none => []
  | .universal => ['Z']
  | .minutes count =>
    let n := count.natAbs
    (if count < 0 then '-' else '+') :: padded 2 (n / 60) ++ ':' :: padded 2 (n % 60)

def Moment.written : Moment → String
  | .date d => String.ofList d.written
  | .time t => String.ofList t.written
  | .dateTime d t offset => String.ofList (d.written ++ 'T' :: t.written ++ offset.written)

/-! ## Reading -/

def twoDigits? : List Char → Option (Nat × List Char)
  | a :: b :: rest =>
    if a.isDigit && b.isDigit then
      some ((a.toNat - '0'.toNat) * 10 + (b.toNat - '0'.toNat), rest)
    else none
  | _ => none

def daysIn (year month : Nat) : Nat :=
  if month = 2 then
    if year % 4 = 0 && (year % 100 ≠ 0 || year % 400 = 0) then 29 else 28
  else if month = 4 || month = 6 || month = 9 || month = 11 then 30
  else 31

def date? (cs : List Char) : Option (Date × List Char) := do
  let (century, cs) ← twoDigits? cs
  let (yearOfCentury, cs) ← twoDigits? cs
  match cs with
  | '-' :: cs =>
    let (month, cs) ← twoDigits? cs
    match cs with
    | '-' :: cs =>
      let (day, cs) ← twoDigits? cs
      let year := century * 100 + yearOfCentury
      if 1 ≤ month && month ≤ 12 && 1 ≤ day && day ≤ daysIn year month then
        some (⟨year, month, day⟩, cs)
      else none
    | _ => none
  | _ => none

/-- Read a time of day; seconds and their fraction may be left out. -/
def time? (cs : List Char) : Option (TimeOfDay × List Char) := do
  let (hour, cs) ← twoDigits? cs
  match cs with
  | ':' :: cs =>
    let (minute, cs) ← twoDigits? cs
    if hour > 23 || minute > 59 then none
    else match cs with
      | ':' :: cs =>
        let (second, cs) ← twoDigits? cs
        if second > 60 then none
        else match cs with
          | '.' :: f =>
            let fraction := f.takeWhile Char.isDigit
            if fraction = [] then none
            else some (⟨hour, minute, second, fraction⟩, f.dropWhile Char.isDigit)
          | _ => some (⟨hour, minute, second, []⟩, cs)
      | _ => some (⟨hour, minute, 0, []⟩, cs)
  | _ => none

/-- Read the distance from universal time, which may be missing. -/
def offset? : List Char → Option (Offset × List Char)
  | [] => some (.none, [])
  | 'Z' :: rest => some (.universal, rest)
  | 'z' :: rest => some (.universal, rest)
  | sign :: cs =>
    if sign = '+' || sign = '-' then do
      let (hour, cs) ← twoDigits? cs
      match cs with
      | ':' :: cs =>
        let (minute, cs) ← twoDigits? cs
        if hour > 23 || minute > 59 then none
        else
          let count : Int := hour * 60 + minute
          some (.minutes (if sign = '-' then -count else count), cs)
      | _ => none
    else none

def dateTime? (date : Date) (word : List Char) : Option Moment := do
  let (time, rest) ← time? word
  match ← offset? rest with
  | (offset, []) => some (.dateTime date time offset)
  | _ => none

/-- Read a word as a date, a time, or a date and a time with a letter between them. -/
def moment? (word : List Char) : Option Moment :=
  match date? word with
  | some (date, []) => some (.date date)
  | some (date, t :: rest) => if t = 'T' || t = 't' then dateTime? date rest else none
  | none =>
    match time? word with
    | some (time, []) => some (.time time)
    | _ => none

end Launchpad.Toml
