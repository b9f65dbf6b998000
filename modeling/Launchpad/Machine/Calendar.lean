import Launchpad.FileSystem.Basic
import Launchpad.Machine.Tool

/-!
Moments as people write them: by year, month and day, printed under a format and read from the forms
that are common. All times are those of the prime meridian.
-/

namespace Launchpad.Machine

structure CivilTime where
  year : Int
  month : Nat
  day : Nat
  hour : Nat := 0
  minute : Nat := 0
  second : Nat := 0
  nanosecond : Nat := 0
  deriving DecidableEq, Repr, Inhabited

namespace CivilTime

/-- How many days lie between the beginning of 1970 and a day. Years begin in March here, so that
the day that leap years have more is their last. -/
def daysOf (year : Int) (month day : Nat) : Int :=
  let y := if month ≤ 2 then year - 1 else year
  let era := Int.fdiv y 400
  let yearOfEra := y - era * 400
  let monthFromMarch : Int := ((month + 9) % 12 : Nat)
  let dayOfYear := (153 * monthFromMarch + 2) / 5 + (day : Int) - 1
  let dayOfEra := yearOfEra * 365 + yearOfEra / 4 - yearOfEra / 100 + dayOfYear
  era * 146097 + dayOfEra - 719468

/-- The day that lies so many days after the beginning of 1970. -/
def ofDays (days : Int) : Int × Nat × Nat :=
  let z := days + 719468
  let era := Int.fdiv z 146097
  let dayOfEra := z - era * 146097
  let yearOfEra := (dayOfEra - dayOfEra / 1460 + dayOfEra / 36524 - dayOfEra / 146096) / 365
  let dayOfYear := dayOfEra - (365 * yearOfEra + yearOfEra / 4 - yearOfEra / 100)
  let monthFromMarch := (5 * dayOfYear + 2) / 153
  let day := (dayOfYear - (153 * monthFromMarch + 2) / 5 + 1).toNat
  let month := if monthFromMarch < 10 then (monthFromMarch + 3).toNat
    else (monthFromMarch - 9).toNat
  (yearOfEra + era * 400 + (if month ≤ 2 then 1 else 0), month, day)

def ofTimestamp (t : Timestamp) : CivilTime :=
  let days := Int.fdiv t.seconds 86400
  let rest := (t.seconds - days * 86400).toNat
  let (year, month, day) := ofDays days
  { year := year, month := month, day := day, hour := rest / 3600, minute := rest / 60 % 60
    second := rest % 60, nanosecond := t.subsecond.toNat }

def timestamp (t : CivilTime) : Timestamp :=
  .ofParts (daysOf t.year t.month t.day * 86400 + (t.hour * 3600 + t.minute * 60 + t.second : Nat))
    t.nanosecond

/-- The day of the week, zero for Sunday. -/
def weekday (t : CivilTime) : Nat :=
  (Int.fmod (daysOf t.year t.month t.day + 4) 7).toNat

def dayOfYear (t : CivilTime) : Nat :=
  (daysOf t.year t.month t.day - daysOf t.year 1 1 + 1).toNat

def daysIn (year : Int) (month : Nat) : Nat :=
  let (nextYear, nextMonth) := if month = 12 then (year + 1, 1) else (year, month + 1)
  (daysOf nextYear nextMonth 1 - daysOf year month 1).toNat

/-- The week that has the most days of its year in common with a day, and that year. -/
def isoWeek (t : CivilTime) : Int × Nat :=
  let days := daysOf t.year t.month t.day
  let fromMonday := Int.fmod (days + 3) 7
  let thursday := days - fromMonday + 3
  let (year, _, _) := ofDays thursday
  (year, ((thursday - daysOf year 1 1) / 7 + 1).toNat)

def dayNames : List String :=
  ["Sunday", "Monday", "Tuesday", "Wednesday", "Thursday", "Friday", "Saturday"]

def monthNames : List String :=
  ["January", "February", "March", "April", "May", "June", "July", "August", "September",
    "October", "November", "December"]

inductive Filling where
  | usual
  | nothing
  | blanks
  | zeros
  deriving DecidableEq, Repr, Inhabited

def number (filling : Filling) (width? : Option Nat) (usual : Nat) (character : Char) (n : Int) :
    Octets :=
  let width := match width?, filling with
    | some w, _ => w
    | none, .nothing => 0
    | none, _ => usual
  let character := match filling with
    | .blanks => ' '
    | .zeros => '0'
    | _ => character
  if n < 0 then "-" ++ padLeft (width - 1) (toString n.natAbs) character
  else padLeft width (toString n) character

/-- The texts that conversions stand for which are made of others. -/
def compositions : List (Char × String) :=
  [('c', "%a %b %e %H:%M:%S %Y"), ('D', "%m/%d/%y"), ('F', "%Y-%m-%d"), ('R', "%H:%M"),
    ('r', "%I:%M:%S %p"), ('T', "%H:%M:%S"), ('X', "%H:%M:%S"), ('x', "%m/%d/%y")]

def convert (t : CivilTime) (filling : Filling) (width? : Option Nat) (raises : Bool)
    (letter : Char) : Option Octets :=
  let digits := number filling width?
  let word (text : Octets) : Option Octets :=
    let text := if raises then text.map Char.toUpper else text
    some (padLeft (width?.getD 0) text (if filling = .zeros then '0' else ' '))
  let hour12 := if t.hour % 12 = 0 then 12 else t.hour % 12
  match letter with
  | '%' => some "%"
  | 'n' => some "\n"
  | 't' => some "\t"
  | 'Y' => some (digits (if t.year > 9999 then 0 else 4) '0' t.year)
  | 'C' => some (digits 2 '0' (Int.fdiv t.year 100))
  | 'y' => some (digits 2 '0' (Int.fmod t.year 100))
  | 'm' => some (digits 2 '0' t.month)
  | 'd' => some (digits 2 '0' t.day)
  | 'e' => some (digits 2 ' ' t.day)
  | 'H' => some (digits 2 '0' t.hour)
  | 'k' => some (digits 2 ' ' t.hour)
  | 'I' => some (digits 2 '0' hour12)
  | 'l' => some (digits 2 ' ' hour12)
  | 'M' => some (digits 2 '0' t.minute)
  | 'S' => some (digits 2 '0' t.second)
  | 's' => some (digits 1 '0' t.timestamp.seconds)
  | 'j' => some (digits 3 '0' t.dayOfYear)
  | 'u' => some (digits 1 '0' (if t.weekday = 0 then 7 else t.weekday : Nat))
  | 'w' => some (digits 1 '0' t.weekday)
  | 'q' => some (digits 1 '0' ((t.month - 1) / 3 + 1 : Nat))
  | 'U' => some (digits 2 '0' ((t.dayOfYear + 6 - t.weekday) / 7 : Nat))
  | 'W' => some (digits 2 '0' ((t.dayOfYear + 6 - (t.weekday + 6) % 7) / 7 : Nat))
  | 'V' => some (digits 2 '0' t.isoWeek.2)
  | 'G' => some (digits 4 '0' t.isoWeek.1)
  | 'g' => some (digits 2 '0' (Int.fmod t.isoWeek.1 100))
  | 'N' =>
    let places := width?.getD 9
    let all := padLeft 9 (toString t.nanosecond) '0'
    some (if filling = .nothing && width?.isNone then
        let cs := (all.toList.reverse.dropWhile (· = '0')).reverse
        if cs = [] then "0" else String.ofList cs
      else (all ++ "".pushn '0' (places - 9)).take places |>.toString)
  | 'a' => word (((dayNames[t.weekday]?).getD "").take 3).toString
  | 'A' => word ((dayNames[t.weekday]?).getD "")
  | 'b' => word (((monthNames[t.month - 1]?).getD "").take 3).toString
  | 'h' => word (((monthNames[t.month - 1]?).getD "").take 3).toString
  | 'B' => word ((monthNames[t.month - 1]?).getD "")
  | 'p' => word (if t.hour < 12 then "AM" else "PM")
  | 'P' => word (if t.hour < 12 then "am" else "pm")
  | 'Z' => word "UTC"
  | 'z' => some "+0000"
  | _ => none

/-- Print a moment under a format. `fuel` bounds the length, conversions that are made of others
written out. -/
def formatFuel (t : CivilTime) : Nat → List Char → List Octets
  | 0, _ => []
  | fuel + 1, cs =>
    match cs with
    | [] => []
    | '%' :: rest =>
      let flags := rest.takeWhile fun c => "-_0^#+".toList.contains c
      let behind := rest.drop flags.length
      let width := behind.takeWhile Char.isDigit
      let behind := behind.drop width.length
      let filling : Filling :=
        match flags.reverse.find? fun c => c ≠ '^' && c ≠ '#' && c ≠ '+' with
        | some '-' => .nothing
        | some '_' => .blanks
        | some '0' => .zeros
        | _ => .usual
      let colons := behind.takeWhile (· = ':')
      match behind.drop colons.length with
      | [] => [String.ofList cs]
      | c :: after =>
        let raw := String.ofList (cs.take (cs.length - after.length))
        let raises := flags.contains '^'
        if c = 'z' && colons ≠ [] then
          (if colons.length = 2 then "+00:00:00" else if colons.length = 3 then "+00" else
            "+00:00") :: formatFuel t fuel after
        else match compositions.lookup c with
          | some inner => formatFuel t fuel (inner.toList ++ after)
          | none =>
            ((t.convert filling (natural? width) raises c).getD raw) :: formatFuel t fuel after
    | c :: rest => String.ofList [c] :: formatFuel t fuel rest

def format (t : CivilTime) (text : Octets) : Octets :=
  String.join (formatFuel t (32 * text.length + 1) text.toList)

end CivilTime

structure DateReading where
  date? : Option (Int × Nat × Nat) := none
  time? : Option (Nat × Nat × Nat × Nat) := none
  /-- How far the zone is from the prime meridian, in seconds. -/
  zone : Int := 0
  months : Int := 0
  days : Int := 0
  seconds : Int := 0
  fixed? : Option Timestamp := none

namespace DateReading

def digits (cs : List Char) : List Char × List Char :=
  (cs.takeWhile Char.isDigit, cs.dropWhile Char.isDigit)

def billionths (cs : List Char) : Nat :=
  (natural? ((cs ++ List.replicate 9 '0').take 9)).getD 0

def numbers? (separator : Char) (cs : List Char) : Option (List Nat) :=
  ((String.ofList cs).splitOn (String.ofList [separator])).mapM fun part => natural? part.toList

/-- A date with dashes, with slashes, or without anything between its parts. -/
def readDate? (cs : List Char) : Option (Int × Nat × Nat) :=
  let valid (y : Int) (m d : Nat) : Option (Int × Nat × Nat) :=
    if 1 ≤ m && m ≤ 12 && 1 ≤ d && d ≤ CivilTime.daysIn y m then some (y, m, d) else none
  match numbers? '-' cs with
  | some [y, m, d] => valid y m d
  | _ => match numbers? '/' cs with
    | some [a, b, c] => if (cs.takeWhile Char.isDigit).length > 2 then valid a b c else valid c a b
    | _ =>
      if cs.length = 8 && cs.all Char.isDigit then
        valid (((natural? (cs.take 4)).getD 0 : Nat)) ((natural? ((cs.drop 4).take 2)).getD 0)
          ((natural? (cs.drop 6)).getD 0)
      else none

def zone? (cs : List Char) : Option Int :=
  match cs with
  | [] => some 0
  | ['Z'] => some 0
  | sign :: rest =>
    if sign = '+' || sign = '-' then
      let plain := rest.filter (· ≠ ':')
      (natural? plain).map fun n =>
        let minutes : Nat := if plain.length ≤ 2 then n * 60 else n / 100 * 60 + n % 100
        (if sign = '-' then -(minutes : Int) else minutes) * 60
    else none

/-- A time, with or without seconds and a zone. -/
def readTime? (cs : List Char) : Option ((Nat × Nat × Nat × Nat) × Int) := do
  let isInside (c : Char) : Bool := c.isDigit || c = ':' || c = '.' || c = ','
  let clock := cs.takeWhile isInside
  let zone ← zone? (cs.dropWhile isInside)
  let whole := clock.takeWhile fun c => c ≠ '.' && c ≠ ','
  let fraction := clock.drop (whole.length + 1)
  let parts ← numbers? ':' whole
  match parts with
  | [h, m] => if h < 24 && m < 60 then some ((h, m, 0, 0), zone) else none
  | [h, m, s] =>
    if h < 24 && m < 60 && s ≤ 60 then some ((h, m, s, billionths fraction), zone) else none
  | _ => none

def add (r : DateReading) (n : Int) (unit : String) : Option DateReading :=
  let unit := unit.toLower
  let unit := if unit.length > 3 && unit.endsWith "s" then (unit.dropEnd 1).toString else unit
  match unit with
  | "year" => some { r with months := r.months + 12 * n }
  | "month" => some { r with months := r.months + n }
  | "fortnight" => some { r with days := r.days + 14 * n }
  | "week" => some { r with days := r.days + 7 * n }
  | "day" => some { r with days := r.days + n }
  | "hour" => some { r with seconds := r.seconds + 3600 * n }
  | "minute" => some { r with seconds := r.seconds + 60 * n }
  | "min" => some { r with seconds := r.seconds + 60 * n }
  | "second" => some { r with seconds := r.seconds + n }
  | "sec" => some { r with seconds := r.seconds + n }
  | _ => none

/-- The number of a month by its name, whole or cut to three letters. -/
def month? (word : String) : Option Nat :=
  let word := word.toLower
  (CivilTime.monthNames.findIdx? fun name =>
    name.toLower = word || (name.toLower.take 3).toString = word).map (· + 1)

def signed? (word : String) : Option Int :=
  match word.toList with
  | '+' :: digits => (natural? digits).map fun n => (n : Int)
  | '-' :: digits => (natural? digits).map fun n => -(n : Int)
  | digits => (natural? digits).map fun n => (n : Int)

/-- Read the words of a date. `fuel` bounds their number. -/
def readWords : Nat → DateReading → List String → Option DateReading
  | 0, _, _ => none
  | fuel + 1, r, words =>
    match words with
    | [] => some r
    | word :: rest =>
      let cs := word.toList
      match readDate? cs, readTime? cs with
      | some date, _ => readWords fuel { r with date? := some date } rest
      | none, some (time, zone) =>
        readWords fuel { r with time? := some time, zone := zone } rest
      | none, none =>
        let lower := word.toLower
        let behindMark (mark : Char) : List Char := (cs.dropWhile (· ≠ mark)).drop 1
        let joined? : Option DateReading := do
          let date ← readDate? (cs.takeWhile (· ≠ 'T'))
          let (time, zone) ← readTime? (behindMark 'T')
          some { r with date? := some date, time? := some time, zone := zone }
        match joined? with
        | some r => readWords fuel r rest
        | none =>
          if ["now", "today", "utc", "gmt", "z", "and", "+00:00", "+0000"].contains lower then
            readWords fuel r rest
          else if lower = "yesterday" then readWords fuel { r with days := r.days - 1 } rest
          else if lower = "tomorrow" then readWords fuel { r with days := r.days + 1 } rest
          else if word = "+" || word = "-" then
            match rest with
            | next :: rest => readWords fuel r ((word ++ next) :: rest)
            | [] => none
          else match lower, rest with
            | "next", unit :: rest => (r.add 1 unit).bind (readWords fuel · rest)
            | "last", unit :: rest => (r.add (-1) unit).bind (readWords fuel · rest)
            | _, _ =>
              match signed? word, rest with
              | some n, unit :: "ago" :: rest => (r.add (-n) unit).bind (readWords fuel · rest)
              | some n, unit :: rest =>
                match r.add n unit with
                | some r => readWords fuel r rest
                | none =>
                  match month? unit, rest with
                  | some m, year :: rest =>
                    (natural? year.toList).bind fun y =>
                      readWords fuel { r with date? := some (y, m, n.toNat) } rest
                  | _, _ => none
              | _, _ =>
                match month? word, rest with
                | some m, day :: year :: rest =>
                  match natural? (day.toList.filter (· ≠ ',')), natural? year.toList with
                  | some d, some y => readWords fuel { r with date? := some (y, m, d) } rest
                  | _, _ => none
                | _, _ =>
                  if (CivilTime.dayNames.any fun name =>
                      (name.toLower.take 3).toString = (lower.take 3).toString) then
                    readWords fuel r rest
                  else (r.add 1 word).bind (readWords fuel · rest)

def moment (now : Timestamp) (r : DateReading) : Timestamp :=
  let today := CivilTime.ofTimestamp now
  let (year, month, day) := r.date?.getD (today.year, today.month, today.day)
  let time := match r.time?, r.date? with
    | some time, _ => time
    | none, some _ => (0, 0, 0, 0)
    | none, none => (today.hour, today.minute, today.second, today.nanosecond)
  let months := year * 12 + ((month : Int) - 1) + r.months
  let days := CivilTime.daysOf (Int.fdiv months 12) ((Int.fmod months 12).toNat + 1) 1 +
    (day : Int) - 1 + r.days
  .ofParts (days * 86400 + (time.1 * 3600 + time.2.1 * 60 + time.2.2.1 : Nat) - r.zone + r.seconds)
    time.2.2.2

end DateReading

/-- Read a moment: so many seconds behind an `@`, or the words of a date. -/
def readMoment? (now : Timestamp) (text : Octets) : Option Timestamp :=
  match (text.toList.dropWhile (· = ' ')) with
  | '@' :: cs =>
    let negative := cs.head? = some '-'
    let cs := if negative then cs.drop 1 else cs
    let (whole, rest) := DateReading.digits cs
    let fraction? := match rest with
      | [] => some 0
      | '.' :: digits => if digits.all Char.isDigit then some (DateReading.billionths digits)
        else none
      | _ => none
    match natural? whole, fraction? with
    | some n, some fraction =>
      let t := Timestamp.ofParts n fraction
      some (if negative then ⟨-t.nanoseconds⟩ else t)
    | _, _ => none
  | cs =>
    let words := ((String.ofList cs).splitOn " ").filter (· ≠ "")
    if words = [] then
      let today : CivilTime :=
        { CivilTime.ofTimestamp now with hour := 0, minute := 0, second := 0, nanosecond := 0 }
      some today.timestamp
    else ((DateReading.readWords (3 * words.length + 2) {} words).map (DateReading.moment now))

end Launchpad.Machine
