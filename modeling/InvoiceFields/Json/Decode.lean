import InvoiceFields.Json.Tree
import InvoiceFields.Text.Quoted

/-!
# Reading JSON as values of a type

A reader of a type goes through a `Tree` from left to right and stops at the first fault. The
definitions here are the parts that such readers are made of: scalars, optional values, lists,
records with named members, and JSON values themselves. A part of a text that is not needed is
passed over by `skip`. `decode` applies a reader to a text.
-/

namespace InvoiceFields.Json

/-! ### Passing over -/

mutual

/-- Passes over a value. -/
def Tree.skip : Tree → Except Fault Unit
  | .null | .bool _ => .ok ()
  | .number _ skipped | .string _ skipped => skipped
  | .array _ elements => elements.skip
  | .object _ members => members.skip
  | .broken f => .error f

/-- Passes over elements. What stands behind a comma is then taken for a value. -/
def Elements.skip : Elements → Except Fault Unit
  | .closed => .ok ()
  | .halted _ (.malformed .trailingComma) => .error (.malformed .value)
  | .halted _ f => .error f
  | .cons head tail => do
    head.skip
    tail.skip

/-- Passes over members. What stands behind a comma is then taken for a key. -/
def Members.skip : Members → Except Fault Unit
  | .closed => .ok ()
  | .halted _ (.malformed .trailingComma) => .error (.malformed .key)
  | .halted _ f => .error f
  | .cons _ skipped value tail => do
    skipped
    value.skip
    tail.skip

end

/-! ### JSON values -/

mutual

/-- Reads any value. -/
def Tree.json : Tree → Except Fault Json
  | .null => .ok .null
  | .bool b => .ok (.bool b)
  | .number value _ => value.map .number
  | .string value _ => value.map .string
  | .array deep elements =>
    if deep then .error (.malformed .tooDeep) else elements.json.map .array
  | .object deep members =>
    if deep then .error (.malformed .tooDeep) else members.json.map .object
  | .broken f => .error f

/-- Reads any elements. -/
def Elements.json : Elements → Except Fault (List Json)
  | .closed => .ok []
  | .halted _ f => .error f
  | .cons head tail => do
    let j ← head.json
    let js ← tail.json
    return j :: js

/-- Reads any members. -/
def Members.json : Members → Except Fault (List (String × Json))
  | .closed => .ok []
  | .halted _ f => .error f
  | .cons key _ value tail => do
    let k ← key
    let j ← value.json
    let js ← tail.json
    return (k, j) :: js

end

mutual

/-- A value as a tree without faults. -/
def Tree.ofJson : Json → Tree
  | .null => .null
  | .bool b => .bool b
  | .number n => .number (.ok n) (.ok ())
  | .string s => .string (.ok s) (.ok ())
  | .array elements => .array false (Elements.ofJson elements)
  | .object members => .object false (Members.ofJson members)

/-- Values as the elements of an array. -/
def Elements.ofJson : List Json → Elements
  | [] => .closed
  | j :: js => .cons (Tree.ofJson j) (Elements.ofJson js)

/-- Keys and values as the members of an object. -/
def Members.ofJson : List (String × Json) → Members
  | [] => .closed
  | (k, j) :: js => .cons (.ok k) (.ok ()) (Tree.ofJson j) (Members.ofJson js)

end

/-! ### Scalars -/

/-- How a number is named in a message. -/
def Number.named : Number → String
  | .integer i => "integer `" ++ Decimal.integerText i ++ "`"
  | .real x => "floating point `" ++ String.ofList (Binary64.withPoint x.positional.toList) ++ "`"

/-- How a text is named in a message. -/
def textNamed (s : String) : String := "string " ++ Text.quoted s

/-- The fault of a value of the wrong kind. Faults of the value itself come first, and those
inside an array or object do not matter. -/
def Tree.misfit : Tree → Fault
  | .null => .unfit (.kind "null")
  | .bool b => .unfit (.kind (if b then "boolean `true`" else "boolean `false`"))
  | .number (.ok n) _ => .unfit (.kind n.named)
  | .number (.error f) _ => f
  | .string (.ok s) _ => .unfit (.kind (textNamed s))
  | .string (.error f) _ => f
  | .array .. => .unfit (.kind "sequence")
  | .object .. => .unfit (.kind "map")
  | .broken f => f

/-- Reads a text. -/
def Tree.text : Tree → Except Fault String
  | .string value _ => value
  | t => .error t.misfit

/-- Reads a truth value. -/
def Tree.flag : Tree → Except Fault Bool
  | .bool b => .ok b
  | t => .error t.misfit

/-- Reads a number of things. -/
def Tree.count : Tree → Except Fault Nat
  | .number (.ok (.integer i)) _ =>
    if 0 ≤ i then .ok i.toNat
    else .error (.unfit (.value (Number.integer i).named "usize"))
  | t => .error t.misfit

/-- Reads a value that may be null. -/
def Tree.optional {α : Type} (read : Tree → Except Fault α) : Tree → Except Fault (Option α)
  | .null => .ok none
  | t => (read t).map some

/-! ### Lists -/

/-- Reads elements one by one. -/
def Elements.each {α : Type} (read : Tree → Except Fault α) : Elements → Except Fault (List α)
  | .closed => .ok []
  | .halted _ f => .error f
  | .cons head tail => do
    let a ← read head
    let as ← tail.each read
    return a :: as

/-- Reads an array. -/
def Tree.list {α : Type} (read : Tree → Except Fault α) : Tree → Except Fault (List α)
  | .array deep elements =>
    if deep then .error (.malformed .tooDeep) else elements.each read
  | t => .error t.misfit

/-! ### Records -/

/-- Goes through members with a state. -/
def Members.fold {σ : Type} (step : σ → String → Tree → Except Fault σ) :
    σ → Members → Except Fault σ
  | s, .closed => .ok s
  | _, .halted _ f => .error f
  | s, .cons key _ value tail => do
    let k ← key
    let s ← step s k value
    tail.fold step s

/-- Reads the members of an object. -/
def Tree.members {σ : Type} (step : σ → String → Tree → Except Fault σ) (s : σ) :
    Tree → Except Fault σ
  | .object deep members =>
    if deep then .error (.malformed .tooDeep) else members.fold step s
  | t => .error t.misfit

/-- A named part of a record under construction `σ`. -/
structure Slot (σ : Type) where
  key : String
  isFilled : σ → Bool
  fill : σ → Tree → Except Fault σ

/-- The number of elements before the end or a fault. -/
def Elements.length : Elements → Nat
  | .cons _ tail => tail.length + 1
  | _ => 0

/-- Reads the end of an array of which `count` elements are there in all and nothing more is
needed. -/
def Elements.finish (count : Nat) : Elements → Except Fault Unit
  | .closed => .ok ()
  | .halted false .ended => .error .ended
  | .halted true (.malformed .trailingComma) => .error (.malformed .trailingComma)
  | .halted _ _ => .error (.malformed .trailingText)
  | .cons .. => .error (.malformed (.surplus count))

/-- Reads a record from an array of its parts in order. Parts at the end may be left out. -/
def Elements.fill {σ : Type} (count : Nat) : List (Slot σ) → σ → Elements → Except Fault σ
  | [], s, elements => do
    elements.finish count
    return s
  | _ :: _, s, .closed => .ok s
  | _ :: _, _, .halted _ f => .error f
  | slot :: slots, s, .cons head tail => do
    let s ← slot.fill s head
    tail.fill count slots s

/-- Reads a member of a record. A member that has no slot is passed over, and none may occur
twice. -/
def fillSlot {σ : Type} (slots : List (Slot σ)) (s : σ) (key : String) (value : Tree) :
    Except Fault σ :=
  match slots.find? (·.key == key) with
  | some slot =>
    if slot.isFilled s then .error (.unfit (.duplicate key)) else slot.fill s value
  | none => do
    value.skip
    return s

/-- Reads a record from an object or from an array of its parts. -/
def Tree.record {σ : Type} (slots : List (Slot σ)) (s : σ) : Tree → Except Fault σ
  | .array deep elements =>
    if deep then .error (.malformed .tooDeep) else elements.fill elements.length slots s
  | t => t.members (fillSlot slots) s

/-! ### Texts -/

/-- Reads a text as a single value, with nothing but blanks behind it. -/
def decode {α : Type} (read : Tree → Except Fault α) (text : String) : Except Fault α := do
  let reading := Reading.ofText text
  let a ← read reading.tree
  if reading.trailing then .error (.malformed .trailingText) else .ok a

/-- Reads a text as any JSON value. -/
def ofText (text : String) : Except Fault Json := decode Tree.json text

end InvoiceFields.Json
