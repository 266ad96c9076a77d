import InvoiceFields.Powers
import InvoiceFields.RuleFault
import InvoiceFields.Text.Digit

/-!
# Segments of a line

A `Segment` picks one token of a line or a range of tokens, counted from one. `Segment.ofText`
reads `k` and `a-b`; any other text is kept as it is and picks nothing. Numbers are at most 64 bits
long, and where an index is reported it is the signed number of the same 64 bits.
-/

namespace InvoiceFields

/-- Which tokens of a line to take. -/
inductive Segment where
  | token (k : Nat)
  /-- The tokens from `first` to `last`, both included. -/
  | range (first last : Nat)
  /-- A text that describes no segment. -/
  | invalid (raw : String)
deriving Repr, DecidableEq

namespace Segment

/-- The signed number of the same 64 bits. -/
def signed (n : Nat) : Int := Int.bmod n (twoTo 64)

/-- The text of a segment. -/
def text : Segment → String
  | token k => Decimal.countText k
  | range first last => Decimal.countText first ++ "-" ++ Decimal.countText last
  | invalid raw => raw

/-- Reads a number of at most 64 bits. -/
def readIndex? (cs : List Char) : Option Nat :=
  let ds := match cs with
    | '+' :: rest => rest
    | _ => cs
  (Text.readNat? ds).filter fun n => decide (n < twoTo 64)

/-- Reads a segment that is one. -/
def read? (cs : List Char) : Option Segment :=
  match Text.splitOnce? (· == '-') cs with
  | some (a, b) => do
    return range (← readIndex? (Text.trimChars a)) (← readIndex? (Text.trimChars b))
  | none => ((readIndex? cs).filter fun k => decide (0 < k)).map token

/-- Reads a segment. Blanks around it do not matter. -/
def ofText (s : String) : Segment :=
  let cs := Text.trimChars s.toList
  (read? cs).getD (invalid (String.ofList cs))

/-- The tokens that a segment picks, with single spaces between them. -/
def select (tokens : List String) : Segment → Except RuleFault String
  | token k =>
    match if k = 0 then none else tokens[k - 1]? with
    | some t => .ok t
    | none => .error (.indexOutOfRange (signed k) tokens.length)
  | range first last =>
    if first = 0 ∨ last < first then .error (.unsupported (range first last).text)
    else if tokens.length < last then .error (.indexOutOfRange (signed last) tokens.length)
    else .ok (Text.join " " ((tokens.take last).drop (first - 1)))
  | invalid raw => .error (.unsupported raw)

end Segment

end InvoiceFields
