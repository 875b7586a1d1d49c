import TenantOverlay.Text.Blank
import TenantOverlay.Text.Digits
import TenantOverlay.Text.Split

/-!
# Timestamps

A moment, to the second, in universal time. `Timestamp.parse?` reads a date, a time and an offset,
with blanks around the parts; `Timestamp.render` writes the moment with offset `Z`.
-/

namespace TenantOverlay

/-- Seconds since the beginning of 1970; a leap second is the end of the second it follows. -/
structure Timestamp where
  seconds : Int
  leap : Bool := false
  deriving DecidableEq, Repr

namespace Timestamp

/-- Days from the beginning of 1970 to a date of the Gregorian calendar, by counting years from
March so that the leap day comes last. -/
def daysOfDate (year : Int) (month day : Nat) : Int :=
  let y := if month ≤ 2 then year - 1 else year
  let era := y.fdiv 400
  let yearOfEra := y - era * 400
  let monthFromMarch := (month + 9) % 12
  let dayOfYear := (153 * monthFromMarch + 2) / 5 + day - 1
  let dayOfEra := yearOfEra * 365 + yearOfEra / 4 - yearOfEra / 100 + dayOfYear
  era * 146097 + dayOfEra - 719468

/-- The date that is a number of days from the beginning of 1970. -/
def dateOfDays (days : Int) : Int × Nat × Nat :=
  let z := days + 719468
  let era := z.fdiv 146097
  let dayOfEra := (z - era * 146097).toNat
  let yearOfEra := (dayOfEra - dayOfEra / 1460 + dayOfEra / 36524 - dayOfEra / 146096) / 365
  let dayOfYear := dayOfEra - (365 * yearOfEra + yearOfEra / 4 - yearOfEra / 100)
  let monthFromMarch := (5 * dayOfYear + 2) / 153
  let day := dayOfYear - (153 * monthFromMarch + 2) / 5 + 1
  let month := if monthFromMarch < 10 then monthFromMarch + 3 else monthFromMarch - 9
  let year := (yearOfEra : Int) + era * 400
  (if month ≤ 2 then year + 1 else year, month, day)

private def padded (width n : Nat) : String :=
  let ds := Nat.toDigits 10 n
  String.ofList (List.replicate (width - ds.length) '0' ++ ds)

/-- `2024-01-02T03:04:05Z`; a year of more than four digits, or before the first, has a sign. -/
def render (t : Timestamp) : String :=
  let (year, month, day) := dateOfDays (t.seconds.fdiv 86400)
  let second := (t.seconds.fmod 86400).toNat
  let yearText :=
    if 0 ≤ year ∧ year ≤ 9999 then padded 4 year.toNat
    else (if year < 0 then "-" else "+") ++ padded 4 year.natAbs
  let shown := second % 60 + if t.leap then 1 else 0
  yearText ++ "-" ++ padded 2 month ++ "-" ++ padded 2 day ++ "T" ++ padded 2 (second / 3600) ++ ":" ++
    padded 2 (second / 60 % 60) ++ ":" ++ padded 2 shown ++ "Z"

/-- A number of at most `width` digits after blanks. -/
private def number? (width : Nat) (cs : List Char) : Option (Nat × List Char) :=
  let cs := cs.dropWhile Text.isBlank
  let ds := (cs.take width).takeWhile Char.isDigit
  if ds.isEmpty then none else some (Text.digitsValue ds, cs.drop ds.length)

/-- A year: four digits at most, or a sign and any digits. -/
private def year? (cs : List Char) : Option (Int × List Char) :=
  match cs.dropWhile Text.isBlank with
  | '-' :: r => (number? r.length r).map fun (n, r) => (-(n : Int), r)
  | '+' :: r => (number? r.length r).map fun (n, r) => ((n : Int), r)
  | cs => (number? 4 cs).map fun (n, r) => ((n : Int), r)

private def sign? (c : Char) (cs : List Char) : Option (List Char) :=
  Text.dropPrefix? [c] (cs.dropWhile Text.isBlank)

/-- The offset in seconds: `Z`, `UTC`, or a sign, two digits, an optional colon and two digits. -/
private def offset? (cs : List Char) : Option (Int × List Char) :=
  match cs with
  | 'Z' :: r | 'z' :: r => some (0, r)
  | s :: h :: h' :: r =>
    if [s, h, h'].map Char.toUpper = ['U', 'T', 'C'] then some (0, r)
    else
      let negative? : Option Bool :=
        if s = '+' then some false else if s = '-' ∨ s = '−' then some true else none
      match negative?, r.dropWhile fun c => c == ':' || Text.isBlank c with
      | some negative, m :: m' :: r =>
        if [h, h', m, m'].all Char.isDigit ∧ m < '6' then
          let n : Int := Text.digitsValue [h, h'] * 3600 + Text.digitsValue [m, m'] * 60
          some (if negative then -n else n, r)
        else none
      | _, _ => none
  | _ => none

def isLeapYear (year : Int) : Bool := year % 4 == 0 && (year % 100 != 0 || year % 400 == 0)

def daysInMonth (year : Int) (month : Nat) : Nat :=
  if month = 2 then (if isLeapYear year then 29 else 28)
  else if month = 4 ∨ month = 6 ∨ month = 9 ∨ month = 11 then 30 else 31

/-- Reads a moment; a fraction of a second is dropped. -/
def parse? (text : String) : Option Timestamp := do
  let (year, cs) ← year? text.toList
  let cs ← sign? '-' cs
  let (month, cs) ← number? 2 cs
  let cs ← sign? '-' cs
  let (day, cs) ← number? 2 cs
  let cs ← match cs with
    | 'T' :: r | 't' :: r | ' ' :: r => some r
    | _ => none
  let (hour, cs) ← number? 2 cs
  let cs ← sign? ':' cs
  let (minute, cs) ← number? 2 cs
  let cs ← sign? ':' cs
  let (second, cs) ← number? 2 cs
  let cs ← match cs with
    | '.' :: r => if (r.takeWhile Char.isDigit).isEmpty then none else some (r.dropWhile Char.isDigit)
    | _ => some cs
  let (offset, cs) ← offset? (cs.dropWhile Text.isBlank)
  if !cs.isEmpty ∨ year.natAbs > 262000 ∨ 86400 ≤ offset.natAbs then none
  if month < 1 ∨ 12 < month ∨ day < 1 ∨ daysInMonth year month < day then none
  if 23 < hour ∨ 59 < minute ∨ 60 < second then none
  let leap := second == 60
  let ofDay := hour * 3600 + minute * 60 + if leap then 59 else second
  return ⟨daysOfDate year month day * 86400 + ofDay - offset, leap⟩

end Timestamp

end TenantOverlay
