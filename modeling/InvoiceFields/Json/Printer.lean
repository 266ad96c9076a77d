import InvoiceFields.Json.NumberLiteral
import InvoiceFields.Json.StringLiteral

/-!
# Writing JSON

`compact` writes a value without blanks, `pretty` with a line for each element and member. Both
keep the members of an object in the order in which they stand.
-/

namespace InvoiceFields.Json

/-! ### Compact texts -/

mutual

/-- A value without blanks. -/
def compactChars : Json → List Char
  | null => ['n', 'u', 'l', 'l']
  | bool true => ['t', 'r', 'u', 'e']
  | bool false => ['f', 'a', 'l', 's', 'e']
  | number n => NumberLiteral.write n
  | string s => StringLiteral.quote s
  | array elements => '[' :: compactElements elements ++ [']']
  | object members => '\x7b' :: compactMembers members ++ ['\x7d']

/-- Elements with commas between them. -/
def compactElements : List Json → List Char
  | [] => []
  | [j] => compactChars j
  | j :: js => compactChars j ++ ',' :: compactElements js

/-- Members with commas between them. -/
def compactMembers : List (String × Json) → List Char
  | [] => []
  | [(k, j)] => StringLiteral.quote k ++ ':' :: compactChars j
  | (k, j) :: js => StringLiteral.quote k ++ ':' :: compactChars j ++ ',' :: compactMembers js

end

/-- A value without blanks. -/
def compact (j : Json) : String := String.ofList (compactChars j)

/-! ### Texts with indentation -/

/-- A line break and the indentation of a level. -/
def newLine (level : Nat) : List Char := '\n' :: List.replicate (2 * level) ' '

mutual

/-- A value with a line for each element and member, at a level of nesting. -/
def prettyChars (level : Nat) : Json → List Char
  | array (j :: js) =>
    '[' :: prettyElements (level + 1) (j :: js) ++ newLine level ++ [']']
  | object (m :: ms) =>
    '\x7b' :: prettyMembers (level + 1) (m :: ms) ++ newLine level ++ ['\x7d']
  | j => compactChars j

/-- Elements, each on a line of its own. -/
def prettyElements (level : Nat) : List Json → List Char
  | [] => []
  | [j] => newLine level ++ prettyChars level j
  | j :: js => newLine level ++ prettyChars level j ++ ',' :: prettyElements level js

/-- Members, each on a line of its own. -/
def prettyMembers (level : Nat) : List (String × Json) → List Char
  | [] => []
  | [(k, j)] => newLine level ++ StringLiteral.quote k ++ ':' :: ' ' :: prettyChars level j
  | (k, j) :: js =>
    newLine level ++ StringLiteral.quote k ++ ':' :: ' ' :: prettyChars level j ++
      ',' :: prettyMembers level js

end

/-- A value with a line for each element and member. -/
def pretty (j : Json) : String := String.ofList (prettyChars 0 j)

end InvoiceFields.Json
