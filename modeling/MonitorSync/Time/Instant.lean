import MonitorSync.Decimal.Power
import MonitorSync.Text.Blank
set_option autoImplicit false

/-!
# Instants

Instants are read and written in the form `2024-02-29T23:59:60.5Z`: a date, a time of day, and a
distance from universal time. They are kept and written in universal time.

## Main definitions

* `Instant` — seconds since 1970 and nanoseconds, where a leap second has more than `10^9` of them
* `Instant.toText` — the written form, with as few of 0, 3, 6 or 9 decimals as are exact
* `Instant.read?` — reading, with blanks allowed between the parts
-/

namespace MonitorSync

/-- A point in time, in seconds since the start of 1970 in universal time and nanoseconds. During
a leap second the nanoseconds run from `10^9` on. -/
structure Instant where
  seconds : Int
  nanos : Nat
deriving DecidableEq, Repr

namespace Instant

/-- The number of days from 1970-01-01 to a date. -/
def daysFromDate (year : Int) (month day : Nat) : Int :=
  let y := if month ≤ 2 then year - 1 else year
  let era := y.fdiv 400
  let yearOfEra := y - era * 400
  let monthFromMarch : Int := (month + 9) % 12
  let dayOfYear := (153 * monthFromMarch + 2) / 5 + day - 1
  let dayOfEra := yearOfEra * 365 + yearOfEra / 4 - yearOfEra / 100 + dayOfYear
  era * 146097 + dayOfEra - 719468

/-- The year, month and day that lie a number of days after 1970-01-01. -/
def dateFromDays (days : Int) : Int × Nat × Nat :=
  let z := days + 719468
  let era := z.fdiv 146097
  let dayOfEra := z - era * 146097
  let yearOfEra := (dayOfEra - dayOfEra / 1460 + dayOfEra / 36524 - dayOfEra / 146096) / 365
  let dayOfYear := dayOfEra - (365 * yearOfEra + yearOfEra / 4 - yearOfEra / 100)
  let monthFromMarch := (5 * dayOfYear + 2) / 153
  let day := dayOfYear - (153 * monthFromMarch + 2) / 5 + 1
  let month := if monthFromMarch < 10 then monthFromMarch + 3 else monthFromMarch - 9
  (yearOfEra + era * 400 + (if month ≤ 2 then 1 else 0), month.toNat, day.toNat)

/-- Whether a year has 366 days. -/
def isLeapYear (year : Int) : Bool :=
  year % 4 = 0 && (year % 100 ≠ 0 || year % 400 = 0)

/-- The number of days of a month. -/
def daysInMonth (year : Int) (month : Nat) : Nat :=
  if month = 2 then (if isLeapYear year then 29 else 28)
  else if month = 4 || month = 6 || month = 9 || month = 11 then 30
  else 31

/-- The instant of a date and a time of day in universal time, if the date exists. The sixtieth
second is a leap second. -/
def ofParts? (year : Int) (month day hour minute second nanos : Nat) : Option Instant :=
  if 1 ≤ month && month ≤ 12 && 1 ≤ day && day ≤ daysInMonth year month && hour < 24 &&
      minute < 60 && second ≤ 60 then
    let leap := second = 60
    let second := if leap then 59 else second
    some
      ⟨daysFromDate year month day * 86400 + (hour * 3600 + minute * 60 + second : Nat),
        if leap then nanos + 1000000000 else nanos⟩
  else none

/-- A number in decimal digits, with zeros in front up to `width` digits. -/
def paddedDigits (width n : Nat) : String :=
  let digits := Nat.toDigits 10 n
  String.ofList (List.replicate (width - digits.length) '0' ++ digits)

/-- The written form of a year: four digits, or a sign and more digits outside `0` to `9999`. -/
def yearText (year : Int) : String :=
  if 0 ≤ year && year ≤ 9999 then paddedDigits 4 year.toNat
  else (if year < 0 then "-" else "+") ++ paddedDigits 4 year.natAbs

/-- The decimals of a second, in as few of 0, 3, 6 or 9 digits as are exact. -/
def fractionText (nanos : Nat) : String :=
  if nanos = 0 then ""
  else if nanos % 1000000 = 0 then "." ++ paddedDigits 3 (nanos / 1000000)
  else if nanos % 1000 = 0 then "." ++ paddedDigits 6 (nanos / 1000)
  else "." ++ paddedDigits 9 nanos

/-- The date and time of day of an instant, without a mark for universal time. -/
def localText (t : Instant) : String :=
  let days := t.seconds.fdiv 86400
  let time := (t.seconds - days * 86400).toNat
  let (year, month, day) := dateFromDays days
  let leap := 1000000000 ≤ t.nanos
  let second := time % 60 + (if leap then 1 else 0)
  let nanos := if leap then t.nanos - 1000000000 else t.nanos
  yearText year ++ "-" ++ paddedDigits 2 month ++ "-" ++ paddedDigits 2 day ++ "T" ++
    paddedDigits 2 (time / 3600) ++ ":" ++ paddedDigits 2 (time / 60 % 60) ++ ":" ++
    paddedDigits 2 second ++ fractionText nanos

/-- The written form of an instant. -/
def toText (t : Instant) : String := t.localText ++ "Z"

/-- Removes blanks in front. -/
def skipBlanks (cs : List Char) : List Char := cs.dropWhile isBlank

/-- Reads up to `width` digits after blanks, and gives the rest. -/
def readDigits? (width : Nat) (cs : List Char) : Option (Nat × List Char) :=
  let cs := skipBlanks cs
  let digits := (cs.takeWhile Char.isDigit).take width
  if digits.isEmpty then none
  else some (digits.foldl (fun n c => 10 * n + (c.toNat - 48)) 0, cs.drop digits.length)

/-- Reads a year: four digits, or a sign and any number of digits. -/
def readYear? (cs : List Char) : Option (Int × List Char) :=
  match skipBlanks cs with
  | '-' :: rest =>
    if (rest.head?.elim false Char.isDigit) then
      (readDigits? rest.length rest).map fun (n, r) => (-(n : Int), r)
    else none
  | '+' :: rest =>
    if (rest.head?.elim false Char.isDigit) then
      (readDigits? rest.length rest).map fun (n, r) => ((n : Int), r)
    else none
  | rest => (readDigits? 4 rest).map fun (n, r) => ((n : Int), r)

/-- Reads a given character after blanks. -/
def expect? (c : Char) (cs : List Char) : Option (List Char) :=
  match skipBlanks cs with
  | d :: rest => if d = c then some rest else none
  | [] => none

/-- Reads the decimals of a second, if there are any; beyond nine they are dropped. -/
def readFraction? (cs : List Char) : Option (Nat × List Char) :=
  match cs with
  | '.' :: rest =>
    let digits := rest.takeWhile Char.isDigit
    if digits.isEmpty then none
    else
      let kept := (digits.take 9).foldl (fun n c => 10 * n + (c.toNat - 48)) 0
      some (kept * tenPow (9 - digits.length), rest.dropWhile Char.isDigit)
  | _ => some (0, cs)

/-- Reads a distance from universal time in seconds: `Z`, `UTC`, or hours and minutes after a
sign. -/
def readOffset? (cs : List Char) : Option (Int × List Char) :=
  let twoDigits (cs : List Char) : Option (Nat × List Char) :=
    match cs with
    | a :: b :: rest =>
      if a.isDigit && b.isDigit then some (10 * (a.toNat - 48) + (b.toNat - 48), rest) else none
    | _ => none
  if (cs.take 3).map Char.toUpper = ['U', 'T', 'C'] then some (0, cs.drop 3)
  else match cs with
    | [] => none
    | c :: rest =>
      if c = 'Z' || c = 'z' then some (0, rest)
      else if c = '+' || c = '-' || c = '−' then do
        let (hours, rest) ← twoDigits rest
        let (minutes, rest) ← twoDigits (rest.dropWhile fun d => d = ':' || isBlank d)
        if 60 ≤ minutes || 24 ≤ hours then none
        else
          let n : Int := (hours * 3600 + minutes * 60 : Nat)
          some (if c = '+' then n else -n, rest)
      else none

/-- Reads an instant. Between the date and the time stands `T`, `t` or a blank. -/
def read? (text : String) : Option Instant := do
  let (year, rest) ← readYear? text.toList
  let rest ← expect? '-' rest
  let (month, rest) ← readDigits? 2 rest
  let rest ← expect? '-' rest
  let (day, rest) ← readDigits? 2 rest
  let rest ← match rest with
    | c :: rest => if c = 'T' || c = 't' || c = ' ' then some rest else none
    | [] => none
  let (hour, rest) ← readDigits? 2 rest
  let rest ← expect? ':' rest
  let (minute, rest) ← readDigits? 2 rest
  let rest ← expect? ':' rest
  let (second, rest) ← readDigits? 2 rest
  let (nanos, rest) ← readFraction? rest
  let (offset, rest) ← readOffset? (skipBlanks rest)
  if !(skipBlanks rest).isEmpty then none
  let t ← ofParts? year month day hour minute second nanos
  return { t with seconds := t.seconds - offset }

end Instant

end MonitorSync
