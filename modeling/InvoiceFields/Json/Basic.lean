import InvoiceFields.Binary64.Basic

/-!
# JSON values

A `Json` value keeps the members of an object in the order in which they are written, repeated
keys included. `canonical` sorts them by key and keeps the last of each, which is how an object is
looked up by its keys.
-/

namespace InvoiceFields

/-- A number of a JSON text: an integer of at most 64 bits, or a binary number. -/
inductive Json.Number where
  | integer (i : Int)
  | real (x : Binary64)
deriving Repr, DecidableEq

/-- A JSON value. -/
inductive Json where
  | null
  | bool (b : Bool)
  | number (n : Json.Number)
  | string (s : String)
  | array (elements : List Json)
  | object (members : List (String × Json))
deriving Repr

namespace Json

instance : Inhabited Json := ⟨null⟩

/-- The JSON value of an integer. -/
def ofInt (i : Int) : Json := number (.integer i)

/-- The JSON value of an optional value, null if there is none. -/
def ofOption {α : Type} (f : α → Json) : Option α → Json
  | some a => f a
  | none => null

/-- Inserts a member into a list that is sorted by key, in place of one with the same key. -/
def insertMember {α : Type} (key : String) (value : α) : List (String × α) → List (String × α)
  | [] => [(key, value)]
  | (k, v) :: rest =>
    if key < k then (key, value) :: (k, v) :: rest
    else if key = k then (key, value) :: rest
    else (k, v) :: insertMember key value rest

/-- The members sorted by key, the last one of each key. -/
def sortMembers {α : Type} (members : List (String × α)) : List (String × α) :=
  members.foldl (fun sorted (k, v) => insertMember k v sorted) []

mutual

/-- The value with the members of every object sorted, the last one of each key. -/
def canonical : Json → Json
  | array elements => array (canonicalElements elements)
  | object members => object (sortMembers (canonicalMembers members))
  | j => j

/-- The canonical forms of the elements of an array. -/
def canonicalElements : List Json → List Json
  | [] => []
  | j :: rest => canonical j :: canonicalElements rest

/-- The members of an object with their values in canonical form. -/
def canonicalMembers : List (String × Json) → List (String × Json)
  | [] => []
  | (k, j) :: rest => (k, canonical j) :: canonicalMembers rest

end

end Json

end InvoiceFields
