import InvoiceFields.Json.Fault
import InvoiceFields.Text.Blank

/-!
# String literals of JSON

A literal is scanned into code units: characters that stand for themselves or behind a backslash,
and numbers written `\uXXXX`. Scanning finds the closing quote. `pair` then joins surrogate pairs
to characters, so a literal with half a pair can be passed over and not be read. `quote` writes a
literal.
-/

namespace InvoiceFields.Json.StringLiteral

/-- A unit of a literal. -/
inductive CodeUnit where
  | char (c : Char)
  | code (n : Nat)
deriving Repr, DecidableEq

/-- The value of a hexadecimal digit. -/
def hexValue? (c : Char) : Option Nat :=
  if '0' ≤ c ∧ c ≤ '9' then some (c.toNat - '0'.toNat)
  else if 'a' ≤ c ∧ c ≤ 'f' then some (c.toNat - 'a'.toNat + 10)
  else if 'A' ≤ c ∧ c ≤ 'F' then some (c.toNat - 'A'.toNat + 10)
  else none

/-- The number of four hexadecimal digits. -/
def fourDigits? (a b c d : Char) : Option Nat := do
  return (((← hexValue? a) * 16 + (← hexValue? b)) * 16 + (← hexValue? c)) * 16 + (← hexValue? d)

/-- The character that a letter behind a backslash stands for. -/
def escaped? : Char → Option Char
  | '"' => some '"'
  | '\\' => some '\\'
  | '/' => some '/'
  | 'b' => some '\x08'
  | 'f' => some '\x0c'
  | 'n' => some '\n'
  | 'r' => some '\x0d'
  | 't' => some '\t'
  | _ => none

/-! ### Reading -/

/-- Scans what stands behind an opening quote: the units up to the closing quote or the first
fault, and in the first case the text behind the quote. -/
def scan : List Char → List CodeUnit × Except Fault (List Char)
  | [] => ([], .error .ended)
  | '"' :: cs => ([], .ok cs)
  | ['\\'] => ([], .error .ended)
  | '\\' :: 'u' :: a :: b :: c :: d :: cs =>
    match fourDigits? a b c d with
    | some n => let (units, ending) := scan cs; (.code n :: units, ending)
    | none => ([], .error (.malformed .hexDigits))
  | '\\' :: 'u' :: cs =>
    ([], .error (if Text.byteLength cs < 4 then .ended else .malformed .hexDigits))
  | '\\' :: c :: cs =>
    match escaped? c with
    | some e => let (units, ending) := scan cs; (.char e :: units, ending)
    | none => ([], .error (.malformed .escape))
  | c :: cs =>
    if c < ' ' then ([], .error (.malformed .controlCharacter))
    else let (units, ending) := scan cs; (.char c :: units, ending)

/-- Whether a number is the first half of a surrogate pair. -/
def isLeading (n : Nat) : Bool := decide (0xd800 ≤ n ∧ n ≤ 0xdbff)

/-- Whether a number is the second half of a surrogate pair. -/
def isTrailing (n : Nat) : Bool := decide (0xdc00 ≤ n ∧ n ≤ 0xdfff)

/-- The character of a surrogate pair. -/
def pairChar (n m : Nat) : Char := Char.ofNat ((n - 0xd800) * 0x400 + (m - 0xdc00) + 0x10000)

/-- The fault of a first half behind which the units end. -/
def brokenPair : Option Fault → Fault
  | some .ended => .ended
  | some (.malformed .hexDigits) => .malformed .hexDigits
  | _ => .malformed .halfPair

/-- The characters of a sequence of units that ends in a quote or a fault. -/
def pair (ending : Option Fault) : List CodeUnit → Except Fault (List Char)
  | [] => match ending with
    | none => .ok []
    | some f => .error f
  | .char c :: units => (pair ending units).map (c :: ·)
  | [.code n] =>
    if isTrailing n then .error (.malformed .loneSurrogate)
    else if isLeading n then .error (brokenPair ending)
    else (pair ending []).map (Char.ofNat n :: ·)
  | .code n :: .code m :: units =>
    if isTrailing n then .error (.malformed .loneSurrogate)
    else if isLeading n then
      if isTrailing m then (pair ending units).map (pairChar n m :: ·)
      else .error (.malformed .loneSurrogate)
    else (pair ending (.code m :: units)).map (Char.ofNat n :: ·)
  | .code n :: .char c :: units =>
    if isTrailing n then .error (.malformed .loneSurrogate)
    else if isLeading n then .error (.malformed .halfPair)
    else (pair ending (.char c :: units)).map (Char.ofNat n :: ·)

/-- The fault of a scan that met one. -/
def faultOf : Except Fault (List Char) → Option Fault
  | .ok _ => none
  | .error f => some f

/-- Reads what stands behind an opening quote. -/
def content (cs : List Char) : Except Fault String :=
  let (units, ending) := scan cs
  (pair (faultOf ending) units).map String.ofList

/-! ### Writing -/

/-- The hexadecimal digit of a value. -/
def hexDigit (n : Nat) : Char :=
  if n < 10 then Char.ofNat ('0'.toNat + n) else Char.ofNat ('a'.toNat + (n - 10))

/-- A character inside a literal. -/
def escape (c : Char) : List Char :=
  match c with
  | '"' => ['\\', '"']
  | '\\' => ['\\', '\\']
  | '\x08' => ['\\', 'b']
  | '\x0c' => ['\\', 'f']
  | '\n' => ['\\', 'n']
  | '\x0d' => ['\\', 'r']
  | '\t' => ['\\', 't']
  | c =>
    if c < ' ' then ['\\', 'u', '0', '0', hexDigit (c.toNat / 16), hexDigit (c.toNat % 16)]
    else [c]

/-- A text as a literal. -/
def quote (s : String) : List Char := '"' :: s.toList.flatMap escape ++ ['"']

end InvoiceFields.Json.StringLiteral
