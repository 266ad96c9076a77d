import InvoiceFields.Decimal.Basic
import InvoiceFields.Pattern.Basic
import InvoiceFields.Pattern.Catalogue
import InvoiceFields.Text.Case

/-!
# Dates

A `Date` is a day of the calendar. `Date.locate` finds the dates of a text, written in numbers or
with the month in words; a text that looks like a date but names no day of the calendar is
passed over. A year of two digits lies after 2000. The readers of numbers know ASCII digits only
and read anything else as zero.
-/

namespace InvoiceFields

/-- Whether a year has a 29th of February. -/
def isLeapYear (year : Nat) : Bool :=
  year % 4 == 0 && (year % 100 != 0 || year % 400 == 0)

/-- The number of days of a month; a number that is no month has none. -/
def daysInMonth (year month : Nat) : Nat :=
  if month = 2 then (if isLeapYear year then 29 else 28)
  else if month = 4 ∨ month = 6 ∨ month = 9 ∨ month = 11 then 30
  else if 1 ≤ month ∧ month ≤ 12 then 31
  else 0

/-- A day of the calendar. -/
structure Date where
  year : Nat
  month : Nat
  day : Nat
  one_le_day : 1 ≤ day
  day_le : day ≤ daysInMonth year month
deriving Repr, DecidableEq

namespace Date

/-- The day of a year, month and day number, if there is one. -/
def ofParts? (year month day : Nat) : Option Date :=
  if h : 1 ≤ day ∧ day ≤ daysInMonth year month then some ⟨year, month, day, h.1, h.2⟩ else none

/-- A number with at least `width` digits. -/
def padded (width n : Nat) : String := String.ofList (Decimal.padLeft width (Decimal.digits n))

/-- The date as year, month and day. -/
def text (d : Date) : String := padded 4 d.year ++ "-" ++ padded 2 d.month ++ "-" ++ padded 2 d.day

/-- The number that a piece of text stands for, zero if it is none. -/
def numberOf (s : String) : Nat := (Text.readNat? s.toList).getD 0

/-- The year that a piece of text stands for. -/
def yearOf (s : String) : Nat := if s.utf8ByteSize = 2 then 2000 + numberOf s else numberOf s

/-- The number of a month by its name, zero if it is none. -/
def monthOf (name : String) : Nat :=
  match Text.lower name with
  | "enero" => 1
  | "febrero" => 2
  | "marzo" => 3
  | "abril" => 4
  | "mayo" => 5
  | "junio" => 6
  | "julio" => 7
  | "agosto" => 8
  | "septiembre" => 9
  | "setiembre" => 9
  | "octubre" => 10
  | "noviembre" => 11
  | "diciembre" => 12
  | _ => 0

/-- The dates in numbers. -/
def locateNumeric (cs : List Char) : List (Found Date) :=
  (Pattern.dateToken.findAll cs).filterMap fun m =>
    (ofParts? (yearOf (m.groupText 3)) (numberOf (m.groupText 2)) (numberOf (m.groupText 1))).map
      (⟨·, m.span⟩)

/-- The dates with the month in words. -/
def locateLong (cs : List Char) : List (Found Date) :=
  (Pattern.dateSpanishLong.findAll cs).filterMap fun m =>
    (ofParts? (numberOf (m.groupText 3)) (monthOf (m.groupText 2)) (numberOf (m.groupText 1))).map
      (⟨·, m.span⟩)

/-- The dates of a text in the order of their first characters. -/
def locate (text : String) : List (Found Date) :=
  (locateNumeric text.toList ++ locateLong text.toList).mergeSort
    fun a b => decide (a.span.start ≤ b.span.start)

/-- The first date of a text. -/
def parse? (text : String) : Option Date := (locate text).head?.map (·.value)

/-- The first date of a text, as it is written. -/
def find? (text : String) : Option String := (locate text).head?.map (·.span.text)

/-- Whether a text holds a date. -/
def occursIn (text : String) : Bool := (parse? text).isSome

end Date

end InvoiceFields
