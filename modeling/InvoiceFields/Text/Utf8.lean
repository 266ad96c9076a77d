/-!
# Reading bytes as text

`decodeLossy` reads bytes as UTF-8. Bytes that belong to no character become the replacement
character, one for each longest piece that could have started a character.
-/

namespace InvoiceFields.Text.Utf8

/-- The replacement character. -/
def replacement : Char := '\ufffd'

/-- The number of bytes of the character that starts with a byte, if there is one. -/
def width? (b : Nat) : Option Nat :=
  if b < 0x80 then some 1
  else if 0xc2 ≤ b ∧ b ≤ 0xdf then some 2
  else if 0xe0 ≤ b ∧ b ≤ 0xef then some 3
  else if 0xf0 ≤ b ∧ b ≤ 0xf4 then some 4
  else none

/-- Whether a byte continues a character. -/
def isContinuation (b : Nat) : Bool := decide (0x80 ≤ b ∧ b ≤ 0xbf)

/-- Whether a byte may be the second one of a character. It has to rule out longer writings of
smaller numbers, surrogates, and numbers beyond the last character. -/
def mayFollow (first second : Nat) : Bool :=
  if first = 0xe0 then decide (0xa0 ≤ second ∧ second ≤ 0xbf)
  else if first = 0xed then decide (0x80 ≤ second ∧ second ≤ 0x9f)
  else if first = 0xf0 then decide (0x90 ≤ second ∧ second ≤ 0xbf)
  else if first = 0xf4 then decide (0x80 ≤ second ∧ second ≤ 0x8f)
  else isContinuation second

/-- The number of bytes, at most `width - 1`, that continue the character of a first byte. -/
def continuing (first width : Nat) : List Nat → Nat
  | [] => 0
  | second :: rest =>
    if 1 < width ∧ mayFollow first second then
      1 + ((rest.take (width - 2)).takeWhile isContinuation).length
    else 0

/-- The character of its bytes. -/
def charOf : List Nat → Char
  | [a] => Char.ofNat a
  | [a, b] => Char.ofNat ((a % 0x20) * 0x40 + b % 0x40)
  | [a, b, c] => Char.ofNat (((a % 0x10) * 0x40 + b % 0x40) * 0x40 + c % 0x40)
  | [a, b, c, d] =>
    Char.ofNat ((((a % 0x08) * 0x40 + b % 0x40) * 0x40 + c % 0x40) * 0x40 + d % 0x40)
  | _ => replacement

/-- Reads bytes as characters. -/
def decodeLossy (bytes : List Nat) : List Char :=
  match bytes with
  | [] => []
  | first :: rest =>
    match width? first with
    | none => replacement :: decodeLossy rest
    | some width =>
      let n := continuing first width rest
      (if n + 1 = width then charOf (first :: rest.take n) else replacement) ::
        decodeLossy (rest.drop n)
termination_by bytes.length
decreasing_by all_goals simp; try omega

/-- Reads bytes as a text. -/
def ofBytes (bytes : ByteArray) : String :=
  String.ofList (decodeLossy (bytes.data.toList.map (·.toNat)))

end InvoiceFields.Text.Utf8
