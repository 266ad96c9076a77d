import InvoiceFields.Json.Basic
import InvoiceFields.Text.Blank
import InvoiceFields.Text.Digit

/-!
# Places inside JSON values

A place inside a JSON value is given by a list of names that lead to it: the key of a member in an
object, the index of an element in an array. `get?` finds the value at a place and `put?` replaces
it. A pointer is a text for such a list: each name stands behind a slash, and in a name a slash is
written as `~1` and a tilde, because it is needed for this, as `~0`. A dotted key such as
`batch.jobs` is turned into a pointer.
-/

namespace InvoiceFields.Json

/-- The index that a name stands for: decimal digits without zeros in front, below `2 ^ 64`. -/
def index? (name : String) : Option Nat :=
  let cs := name.toList
  if cs.head? = some '0' ∧ cs.length ≠ 1 then none
  else (Text.readNat? cs).filter (· < twoTo 64)

/-- What a name leads to. In an object, the first member of a key counts. -/
def child? (name : String) : Json → Option Json
  | .object members => members.lookup name
  | .array elements => (index? name).bind (elements[·]?)
  | _ => none

/-- The value with what a name leads to replaced. -/
def putChild (name : String) (value : Json) : Json → Json
  | .object members => .object (replace members)
  | .array elements => .array (((index? name).map (elements.set · value)).getD elements)
  | j => j
where
  /-- Replaces the first member of the key. -/
  replace : List (String × Json) → List (String × Json)
    | [] => []
    | (k, v) :: rest => if k = name then (k, value) :: rest else (k, v) :: replace rest

/-- The value at a place. -/
def get? (j : Json) : List String → Option Json
  | [] => some j
  | name :: names => (j.child? name).bind (·.get? names)

/-- The value with what is at a place replaced, if there is something. -/
def put? (j : Json) (value : Json) : List String → Option Json
  | [] => some value
  | name :: names => do
    let inner ← (← j.child? name).put? value names
    return putChild name inner j

/-! ### Pointers -/

/-- A name as it stands in a pointer. -/
def escapeName (name : List Char) : List Char :=
  Text.replaceChar '/' ['~', '1'] (Text.replaceChar '~' ['~', '0'] name)

/-- The name that stands in a pointer. -/
def unescapeName (cs : List Char) : List Char :=
  Text.replacePair '~' '0' '~' (Text.replacePair '~' '1' '/' cs)

/-- The names of a pointer. An empty text is the pointer to the whole value; otherwise a pointer
begins with a slash. -/
def pointerNames? (pointer : String) : Option (List String) :=
  match pointer.toList with
  | [] => some []
  | '/' :: rest =>
    some ((Text.splitWhere (· == '/') rest).map fun cs => String.ofList (unescapeName cs))
  | _ => none

/-- What a pointer leads to. -/
def atPointer? (j : Json) (pointer : String) : Option Json := (pointerNames? pointer).bind j.get?

/-- The value with what a pointer leads to replaced. -/
def putAtPointer? (j : Json) (value : Json) (pointer : String) : Option Json :=
  (pointerNames? pointer).bind (j.put? value)

/-! ### Dotted keys -/

/-- The names of a dotted key. -/
def keyNames (key : String) : List String :=
  (Text.splitWhere (· == '.') key.toList).map String.ofList

/-- The pointer of a dotted key. -/
def keyPointer (key : String) : String :=
  String.ofList ((keyNames key).flatMap fun name => '/' :: escapeName name.toList)

end InvoiceFields.Json
