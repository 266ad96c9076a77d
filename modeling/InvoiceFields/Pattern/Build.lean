import InvoiceFields.Pattern.Basic
import InvoiceFields.Text.Digit

/-!
# Building patterns

Shorthands for classes, fixed texts and counted repetitions. A text that is matched whatever its
case takes each letter in every form that Unicode folds onto it: besides the capital these are
the long s (`ſ`) for `s` and the Kelvin sign for `k`.
-/

namespace InvoiceFields.Pattern

/-! ### Classes -/

/-- The small letters with a capital that patterns speak of, each with its other forms. -/
def otherForms (c : Char) : List Char :=
  if c = 's' then ['S', 'ſ']
  else if c = 'k' then ['K', '\u212a']
  else if c = 'ú' then ['Ú']
  else if 'a' ≤ c && c ≤ 'z' then [Char.ofNat (c.toNat - 32)]
  else []

/-- The character itself. -/
def char (c : Char) : Pattern := one (· == c)

/-- One of the characters of a text. -/
def anyOf (s : String) : Pattern := one s.toList.contains

/-- A small letter in any of its forms. -/
def anyCase (c : Char) : Pattern := one fun x => x == c || (otherForms c).contains x

/-- One of the small letters of a text in any of their forms. -/
def anyCaseOf (s : String) : Pattern :=
  one fun x => s.toList.any fun c => x == c || (otherForms c).contains x

/-- A decimal digit. -/
def digit : Pattern := one Text.isDecimalDigit

/-- A blank. -/
def blank : Pattern := one Text.isBlank

/-! ### Combinations -/

/-- Patterns one after the other. -/
def sequence : List Pattern → Pattern
  | [] => empty
  | [p] => p
  | p :: ps => seq p (sequence ps)

/-- The first of several patterns that leads to a match. -/
def choice : List Pattern → Pattern
  | [] => one fun _ => false
  | [p] => p
  | p :: ps => alt p (choice ps)

/-- A text in any case, written in small letters. -/
def word (s : String) : Pattern := sequence (s.toList.map anyCase)

/-- The pattern, if possible. -/
def optional (p : Pattern) : Pattern := alt p empty

/-- The pattern at least once. -/
def some (p : Pattern) : Pattern := seq p (many p)

/-- The pattern exactly `n` times. -/
def times (p : Pattern) : Nat → Pattern
  | 0 => empty
  | n + 1 => seq p (times p n)

/-- The pattern at most `n` times, as often as possible. -/
def upTo (p : Pattern) : Nat → Pattern
  | 0 => empty
  | n + 1 => optional (seq p (upTo p n))

/-- A word of its own in any case. -/
def keyword (p : Pattern) : Pattern := sequence [boundary, p, boundary]

end InvoiceFields.Pattern
