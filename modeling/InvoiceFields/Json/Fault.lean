import InvoiceFields.ConfigError
import InvoiceFields.Decimal.Basic

/-!
# Faults of JSON texts

A JSON text can end too soon, be malformed, or be well-formed and not fit what it is read as. A
`Fault` names the cause; `Fault.message` is its wording.
-/

namespace InvoiceFields.Json

/-- Why a text is not JSON. -/
inductive Malformed where
  /-- Something other than a value stands where a value belongs. -/
  | value
  /-- A word starts like `true`, `false` or `null` and goes on differently. -/
  | literal
  /-- A number breaks the grammar of numbers. -/
  | number
  /-- A number is beyond the range of binary numbers. -/
  | numberRange
  /-- A control character stands in a string. -/
  | controlCharacter
  /-- A backslash is followed by something that it cannot escape. -/
  | escape
  /-- An escape by number does not have four hexadecimal digits. -/
  | hexDigits
  /-- The first half of a surrogate pair is missing, or the second half is none. -/
  | loneSurrogate
  /-- The first half of a surrogate pair stands alone. -/
  | halfPair
  /-- Neither a comma nor the end of an array stands behind an element. -/
  | arraySeparator
  /-- Neither a comma nor the end of an object stands behind a member. -/
  | objectSeparator
  /-- A key is not followed by a colon. -/
  | colon
  /-- A key is not a string. -/
  | key
  /-- A comma stands before a closing bracket. -/
  | trailingComma
  /-- Something stands behind the end of the value. -/
  | trailingText
  /-- An array has more elements than it is read for; it has `count` of them. -/
  | surplus (count : Nat)
  /-- Arrays and objects are nested too deeply. -/
  | tooDeep
deriving Repr, DecidableEq

/-- Why a value does not fit what it is read as. -/
inductive Misfit where
  /-- A value of the wrong kind. -/
  | kind (found : String)
  /-- A value of the right kind that is not allowed. -/
  | value (found expected : String)
  /-- An array with too few elements. -/
  | length (count : Nat) (expected : String)
  /-- A name that is none of those that are known. -/
  | name (found : String)
  /-- A member that must be there is missing. -/
  | missing (key : String)
  /-- A member occurs twice. -/
  | duplicate (key : String)
  /-- A fault of settings or rules. -/
  | config (e : ConfigError)
deriving Repr, DecidableEq

/-- Why a JSON text cannot be read. -/
inductive Fault where
  /-- The text ends too soon. -/
  | ended
  /-- The text is not JSON. -/
  | malformed (cause : Malformed)
  /-- The value does not fit. -/
  | unfit (cause : Misfit)
deriving Repr, DecidableEq

/-- The wording of a malformed text. -/
def Malformed.message : Malformed → String
  | value => "expected value"
  | literal => "expected ident"
  | number => "invalid number"
  | numberRange => "number out of range"
  | controlCharacter => "control character (\\u0000-\\u001F) found while parsing a string"
  | escape | hexDigits => "invalid escape"
  | loneSurrogate => "lone leading surrogate in hex escape"
  | halfPair => "unexpected end of hex escape"
  | arraySeparator => "expected `,` or `]`"
  | objectSeparator => "expected `,` or `\x7d`"
  | colon => "expected `:`"
  | key => "key must be a string"
  | trailingComma => "trailing comma"
  | trailingText | surplus _ => "trailing characters"
  | tooDeep => "recursion limit exceeded"

/-- The wording of a misfit. -/
def Misfit.message : Misfit → String
  | kind found => "invalid type: " ++ found
  | value found expected => "invalid value: " ++ found ++ ", expected " ++ expected
  | length count expected =>
    "invalid length " ++ Decimal.countText count ++ ", expected " ++ expected
  | name found => "unknown name `" ++ found ++ "`"
  | missing key => "missing field `" ++ key ++ "`"
  | duplicate key => "duplicate field `" ++ key ++ "`"
  | config e => e.message

/-- The wording of a fault in a text. -/
def Fault.message : Fault → String
  | ended => "EOF while parsing a value"
  | malformed cause => cause.message
  | unfit cause => cause.message

/-- The wording of a fault in a value that was not read from a text: there, too many elements are
a misfit. -/
def Fault.valueMessage : Fault → String
  | malformed (.surplus count) => (Misfit.length count "fewer elements in array").message
  | fault => fault.message

end InvoiceFields.Json
