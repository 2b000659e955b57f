/-
Days of the Gregorian calendar, extended to all years.

* `Date.of?` builds a day from year, month and day, if there is such a day;
* `Date.read?` reads one of three spellings: year-month-day, month/day/year,
  day/month/year, trying them in this order;
* `Date.render` writes a day after a pattern of `YYYY`, `MMMM`, `MMM`, `YY`,
  `MM`, `DD` and `D`.
-/
import Scaffold.Text.Blank
import Scaffold.Text.Decimal
import Scaffold.Text.Split

namespace Scaffold.Calendar

open Text

/-- Whether a year has a twenty-ninth of February. -/
def isLeapYear (year : Int) : Bool :=
  year % 4 == 0 && (year % 100 != 0 || year % 400 == 0)

/-- The number of days of a month. -/
def daysInMonth (year : Int) (month : Nat) : Nat :=
  match month with
  | 2 => if isLeapYear year then 29 else 28
  | 4 | 6 | 9 | 11 => 30
  | _ => 31

/-- The years in which days are represented. -/
def isRepresentableYear (year : Int) : Bool :=
  -262143 ≤ year && year ≤ 262142

/-- Whether year, month and day name a day. -/
def isDate (year : Int) (month day : Nat) : Bool :=
  isRepresentableYear year && 1 ≤ month && month ≤ 12
    && 1 ≤ day && day ≤ daysInMonth year month

/-- A day of the calendar. -/
structure Date where
  year : Int
  month : Nat
  day : Nat
  valid : isDate year month day = true

namespace Date

/-- The day with a given year, month and day of month. -/
def of? (year : Int) (month day : Nat) : Option Date :=
  if h : isDate year month day = true then some ⟨year, month, day, h⟩ else none

/-- The first day of the year 1970. -/
def epoch : Date :=
  ⟨1970, 1, 1, by decide⟩

instance : Inhabited Date := ⟨epoch⟩

/-! ### Reading -/

/-- Up to `width` digits after optional blanks, and what follows them. -/
def readDigits? (width : Nat) (cs : List Char) : Option (Nat × List Char) :=
  let body := trimStart cs
  let taken := (body.takeWhile Char.isDigit).take width
  if taken.isEmpty then none else some (decimalValue taken, body.drop taken.length)

/-- A year: four digits at most, or any number of digits after a sign. -/
def readYear? (cs : List Char) : Option (Int × List Char) :=
  match trimStart cs with
  | '-' :: rest =>
    if rest.head?.any Char.isDigit then
      (readDigits? rest.length rest).map fun (n, tail) => (-(n : Int), tail)
    else none
  | '+' :: rest =>
    if rest.head?.any Char.isDigit then
      (readDigits? rest.length rest).map fun (n, tail) => ((n : Int), tail)
    else none
  | body => (readDigits? 4 body).map fun (n, tail) => ((n : Int), tail)

/-- A separator, and what follows it. -/
def readMark? (mark : Char) : List Char → Option (List Char)
  | c :: rest => if c == mark then some rest else none
  | [] => none

/-- Year, month and day with hyphens. -/
def readYearFirst? (cs : List Char) : Option Date := do
  let (year, cs) ← readYear? cs
  let cs ← readMark? '-' cs
  let (month, cs) ← readDigits? 2 cs
  let cs ← readMark? '-' cs
  let (day, cs) ← readDigits? 2 cs
  if cs.isEmpty then of? year month day else none

/-- Two numbers of two digits and a year, with slashes. -/
def readYearLast? (cs : List Char) : Option (Nat × Nat × Int) := do
  let (first, cs) ← readDigits? 2 cs
  let cs ← readMark? '/' cs
  let (second, cs) ← readDigits? 2 cs
  let cs ← readMark? '/' cs
  let (year, cs) ← readYear? cs
  if cs.isEmpty then some (first, second, year) else none

/-- A day in one of the three spellings. With slashes the month comes first, and
where that names no day, the day of the month does. -/
def read? (cs : List Char) : Option Date :=
  match readYearFirst? cs with
  | some date => some date
  | none => do
    let (first, second, year) ← readYearLast? cs
    (of? year first second).or (of? year second first)

/-! ### Writing -/

/-- A year in four places, a sign taking one of them. -/
def yearInFour (year : Int) : List Char :=
  if year < 0 then '-' :: padded 3 year.natAbs else padded 4 year.natAbs

/-- The day as year, month and day with hyphens; a year outside 0 to 9999
carries its sign. -/
def iso (date : Date) : List Char :=
  let year :=
    if 0 ≤ date.year ∧ date.year ≤ 9999 then padded 4 date.year.natAbs
    else (if date.year < 0 then '-' else '+') :: padded 4 date.year.natAbs
  year ++ '-' :: padded 2 date.month ++ '-' :: padded 2 date.day

/-- The English name of a month. -/
def monthName : Nat → String
  | 1 => "January"
  | 2 => "February"
  | 3 => "March"
  | 4 => "April"
  | 5 => "May"
  | 6 => "June"
  | 7 => "July"
  | 8 => "August"
  | 9 => "September"
  | 10 => "October"
  | 11 => "November"
  | _ => "December"

/-- What each part of a pattern stands for; a longer part comes before the
parts that it starts with. -/
def fields (date : Date) : List (List Char × List Char) :=
  [("YYYY".toList, yearInFour date.year),
   ("MMMM".toList, (monthName date.month).toList),
   ("MMM".toList, (monthName date.month).toList.take 3),
   ("YY".toList, padded 2 (date.year % 100).toNat),
   ("MM".toList, padded 2 date.month),
   ("DD".toList, padded 2 date.day),
   ("D".toList, digits date.day)]

/-- The first field that the text starts with: its value, and what follows. -/
def fieldAt? (fields : List (List Char × List Char)) (cs : List Char) :
    Option (List Char × List Char) :=
  fields.findSome? fun (part, value) =>
    if part.isEmpty then none else (after? part cs).map fun rest => (value, rest)

/-- A field that was found leaves less text. -/
theorem fieldAt?_length {fields : List (List Char × List Char)} {cs value rest : List Char}
    (h : fieldAt? fields cs = some (value, rest)) : rest.length < cs.length := by
  obtain ⟨⟨part, v⟩, _, hf⟩ := List.exists_of_findSome?_eq_some h
  simp only at hf
  split at hf
  · simp at hf
  · rename_i hne
    cases hs : after? part cs with
    | none => simp [hs] at hf
    | some tail =>
      rw [hs] at hf
      simp only [Option.map_some, Option.some.injEq, Prod.mk.injEq] at hf
      have hlen := after?_length hs
      rw [← hf.2]
      cases part with
      | nil => simp at hne
      | cons p ps => simp at hlen; omega

/-- The pattern with its fields filled in; all else stands for itself. -/
def fill (fields : List (List Char × List Char)) (pattern : List Char) : List Char :=
  match pattern with
  | [] => []
  | c :: rest =>
    match _h : fieldAt? fields (c :: rest) with
    | some (value, tail) => value ++ fill fields tail
    | none => c :: fill fields rest
termination_by pattern.length
decreasing_by
  · have := fieldAt?_length _h; simpa using this
  · simp

/-- The day written after a pattern. -/
def render (date : Date) (pattern : List Char) : List Char :=
  fill date.fields pattern

end Date

end Scaffold.Calendar
