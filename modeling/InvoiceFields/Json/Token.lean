import InvoiceFields.Json.NumberLiteral
import InvoiceFields.Json.StringLiteral

/-!
# Tokens of JSON texts

`Token.ofChars` cuts a text into tokens up to the first place where none can be read. Literals
carry two outcomes, one for reading their value and one for passing over them, because some faults
of a literal matter to its value alone.
-/

namespace InvoiceFields.Json

/-- A token of a JSON text. -/
inductive Token where
  | openArray
  | closeArray
  | openObject
  | closeObject
  | comma
  | colon
  | null
  | bool (b : Bool)
  /-- A number: its value, and whether it can be passed over. -/
  | number (value : Except Fault Number) (skipped : Except Fault Unit)
  /-- A string: its value, and whether it can be passed over. -/
  | string (value : Except Fault String) (skipped : Except Fault Unit)
  /-- Something that is no token. -/
  | broken (fault : Fault)
deriving Repr

namespace Token

/-- Whether a character stands between tokens. -/
def isSpace (c : Char) : Bool := c == ' ' || c == '\n' || c == '\t' || c == '\x0d'

/-- What stands behind a word, if a text starts with it. -/
def afterWord : List Char → List Char → Except Fault (List Char)
  | [], cs => .ok cs
  | _ :: _, [] => .error .ended
  | e :: es, c :: cs => if c = e then afterWord es cs else .error (.malformed .literal)

/-- The token of a word whose first letter has been read. -/
def word (token : Token) (rest : List Char) (cs : List Char) : Token × List Char :=
  match afterWord rest cs with
  | .ok after => (token, after)
  | .error f => (.broken f, [])

/-- The token of a number behind its sign. A number that ends too soon is malformed for a reader
that passes over it. -/
def numberToken (negative : Bool) (cs : List Char) : Token × List Char :=
  match NumberLiteral.scan negative cs with
  | .ok (parts, rest) => (.number parts.number (.ok ()), rest)
  | .error f => (.number (.error f) (.error (.malformed .number)), [])

/-- The token of a string behind its opening quote. -/
def stringToken (cs : List Char) : Token × List Char :=
  match (StringLiteral.scan cs).2 with
  | .ok rest => (.string (StringLiteral.content cs) (.ok ()), rest)
  | .error f => (.string (StringLiteral.content cs) (.error f), [])

/-- The token that starts with a character, and what stands behind it. -/
def first (c : Char) (cs : List Char) : Token × List Char :=
  match c with
  | '[' => (.openArray, cs)
  | ']' => (.closeArray, cs)
  | '\x7b' => (.openObject, cs)
  | '\x7d' => (.closeObject, cs)
  | ',' => (.comma, cs)
  | ':' => (.colon, cs)
  | 'n' => word .null ['u', 'l', 'l'] cs
  | 't' => word (.bool true) ['r', 'u', 'e'] cs
  | 'f' => word (.bool false) ['a', 'l', 's', 'e'] cs
  | '"' => stringToken cs
  | '-' => numberToken true cs
  | c =>
    if Text.isAsciiDigit c then numberToken false (c :: cs)
    else (.broken (.malformed .value), [])

/-- The tokens of a text, each found with the given number of steps left. A text has no more
tokens than characters. -/
def scan : Nat → List Char → List Token
  | 0, _ => []
  | _, [] => []
  | fuel + 1, c :: cs =>
    if isSpace c then scan fuel cs
    else
      let (token, rest) := first c cs
      token :: scan fuel rest

/-- The tokens of a text, up to the first that is broken. -/
def ofChars (cs : List Char) : List Token := scan cs.length cs

end Token

end InvoiceFields.Json
