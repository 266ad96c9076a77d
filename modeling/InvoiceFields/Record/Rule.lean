import InvoiceFields.Attempt
import InvoiceFields.Json.Decode
import InvoiceFields.Segment

/-!
# Rules and attempts in JSON

A rule is an object with the kind of the rule under `type`, or an array that starts with the kind
and goes on with the members in order. An unknown kind makes a rule that matches no document. In
an attempt, which is an object, the members of the rule stand beside the condition; there the kind
may also be given by its number. A segment that is a single token is written as an integer of 64
bits and read from one that is above zero; every other segment is written and read as a text.
-/

namespace InvoiceFields

open Json (Fault Tree Elements Members)

/-! ### Segments -/

namespace Segment

/-- A segment as JSON. -/
def toJson : Segment → Json
  | token k => .ofInt (signed k)
  | s => .string s.text

/-- The segment of a JSON value that describes one. -/
def ofJson? : Json → Option Segment
  | .number (.integer i) =>
    if twoTo 63 ≤ i then none
    else if 0 < i then some (token i.toNat)
    else some (invalid (Decimal.integerText i))
  | .string s => some (ofText s)
  | _ => none

end Segment

/-! ### Kinds -/

/-- The kinds of rules. -/
inductive RuleKind where
  | constant
  | line
  | anchored
  | unsupported
deriving Repr, DecidableEq

namespace RuleKind

/-- The name of a kind. -/
def name : RuleKind → String
  | constant => "FIXED_VALUE"
  | line => "FIXED"
  | anchored => "VARIABLE"
  | unsupported => "Unsupported"

/-- The kind of a name. -/
def ofName (s : String) : RuleKind :=
  ([constant, line, anchored].find? (·.name == s)).getD unsupported

/-- The kind of a number. -/
def ofIndex : Nat → RuleKind
  | 0 => constant
  | 1 => line
  | 2 => anchored
  | _ => unsupported

/-- The kind that a JSON value names or numbers. -/
def ofJson? : Json → Option RuleKind
  | .string s => some (ofName s)
  | .number (.integer i) => if 0 ≤ i then some (ofIndex i.toNat) else none
  | _ => none

end RuleKind

/-! ### Members -/

/-- The value of a member that occurs exactly once. -/
def onlyMember? (key : String) (members : List (String × Json)) : Option Json :=
  match members.filter (·.1 == key) with
  | [(_, j)] => some j
  | _ => none

/-- Whether a member occurs. -/
def hasMember (key : String) (members : List (String × Json)) : Bool := members.any (·.1 == key)

/-- The text of a JSON value that is one. -/
def textOf? : Json → Option String
  | .string s => some s
  | _ => none

/-- The integer of a JSON value that is one of 64 bits. -/
def integerOf? : Json → Option Int
  | .number (.integer i) => if i < twoTo 63 then some i else none
  | _ => none

/-- The texts of a JSON value: one, or a list of them. -/
def textsOf? : Json → Option (List String)
  | .string s => some [s]
  | .array js => js.mapM textOf?
  | _ => none

/-! ### Rules -/

namespace Rule

/-- The fault of a value that is no rule. -/
def misfit : Fault := .unfit (.kind "rule")

/-- The rule of a kind and the members of an object. Members that the kind does not need may be
anything, and the distance may be missing. -/
def ofMembers? (members : List (String × Json)) : RuleKind → Option Rule
  | .constant => do return constant (← textOf? (← onlyMember? "value" members))
  | .line => do
    return line (← integerOf? (← onlyMember? "line" members))
      (← Segment.ofJson? (← onlyMember? "segment" members))
  | .anchored => do
    let markers ← textsOf? (← onlyMember? "ref_text" members)
    let offset ← if hasMember "offset" members then integerOf? (← onlyMember? "offset" members)
      else some 0
    return anchored markers offset (← Segment.ofJson? (← onlyMember? "segment" members))
  | .unsupported => some unsupported

/-- The rule of a kind and its members in order. -/
def ofElements? : List Json → RuleKind → Option Rule
  | [value], .constant => do return constant (← textOf? value)
  | [number, segment], .line => do
    return line (← integerOf? number) (← Segment.ofJson? segment)
  | [markers, offset, segment], .anchored => do
    return anchored (← textsOf? markers) (← integerOf? offset) (← Segment.ofJson? segment)
  | [], .unsupported => some unsupported
  | _, _ => none

/-- Reads a member of a rule: its kind, or any other member, which is kept. -/
def readMember (s : Option RuleKind × List (String × Json)) (key : String) (value : Tree) :
    Except Fault (Option RuleKind × List (String × Json)) :=
  if key = "type" then
    if s.1.isSome then .error (.unfit (.duplicate key))
    else do return (some (RuleKind.ofName (← value.text)), s.2)
  else do return (s.1, s.2 ++ [(key, ← value.json)])

/-- Reads a rule from the elements of an array. -/
def ofElements : Elements → Except Fault Rule
  | .closed => .error (.unfit (.missing "type"))
  | .halted _ f => .error f
  | .cons head tail => do
    let kind := RuleKind.ofName (← head.text)
    let rest ← tail.json
    match ofElements? rest kind with
    | some rule => return rule
    | none => .error misfit

/-- Reads a rule. -/
def ofTree : Tree → Except Fault Rule
  | .array deep elements =>
    if deep then .error (.malformed .tooDeep) else ofElements elements
  | t => do
    match ← t.members readMember (none, []) with
    | (some kind, members) =>
      match ofMembers? members kind with
      | some rule => return rule
      | none => .error misfit
    | (none, _) => .error (.unfit (.missing "type"))

/-- The kind of a rule. -/
def kind : Rule → RuleKind
  | constant _ => .constant
  | line .. => .line
  | anchored .. => .anchored
  | unsupported => .unsupported

/-- The members of a rule in JSON. -/
def toMembers (rule : Rule) : List (String × Json) :=
  ("type", .string rule.kind.name) ::
    match rule with
    | constant value => [("value", .string value)]
    | line number segment => [("line", .ofInt number), ("segment", segment.toJson)]
    | anchored markers offset segment =>
      [("ref_text", .array (markers.map .string)), ("offset", .ofInt offset),
        ("segment", segment.toJson)]
    | unsupported => []

/-- A rule as JSON. -/
def toJson (rule : Rule) : Json := .object rule.toMembers

end Rule

/-! ### Conditions -/

/-- Reads the name of a condition. -/
def Validator.ofNameText (s : String) : Except Fault Validator :=
  match Validator.ofName? s with
  | some v => .ok v
  | none => .error (.unfit (.name s))

/-- Reads what stands behind the only member of an object. -/
def Validator.readEnd : Members → Except Fault Unit
  | .closed => .ok ()
  | .halted false .ended => .error .ended
  | _ => .error (.malformed .value)

/-- Reads a condition: its name, or an object with its name as the only key and null as the
value. -/
def Validator.ofTree : Tree → Except Fault Validator
  | .string value _ => do Validator.ofNameText (← value)
  | .object deep members =>
    if deep then .error (.malformed .tooDeep)
    else match members with
      | .cons key _ value tail => do
        let v ← Validator.ofNameText (← key)
        match value with
        | .null => Validator.readEnd tail
        | t => .error t.misfit
        return v
      | .halted _ .ended => .error .ended
      | _ => .error (.malformed .value)
  | .broken .ended => .error .ended
  | _ => .error (.malformed .value)

/-! ### Attempts -/

namespace Attempt

/-- Reads a member of an attempt: its condition, or a member of its rule. -/
def readMember (s : Option (Option Validator) × List (String × Json)) (key : String)
    (value : Tree) : Except Fault (Option (Option Validator) × List (String × Json)) :=
  if key = "validator" then
    if s.1.isSome then .error (.unfit (.duplicate key))
    else do return (some (← value.optional Validator.ofTree), s.2)
  else do return (s.1, s.2 ++ [(key, ← value.json)])

/-- The rule of the members of an attempt. -/
def rule? (members : List (String × Json)) : Option Rule := do
  let kind ← RuleKind.ofJson? (← onlyMember? "type" members)
  Rule.ofMembers? members kind

/-- Reads an attempt. -/
def ofTree (t : Tree) : Except Fault Attempt := do
  let (validator, members) ← t.members readMember (none, [])
  match rule? members with
  | some rule => return ⟨rule, validator.join⟩
  | none => .error Rule.misfit

/-- The attempt of a record. One that is no attempt never succeeds. -/
def ofRecord (record : Json) : Attempt :=
  match ofTree (.ofJson record.canonical) with
  | .ok a => a
  | .error _ => inert

/-- An attempt as JSON. -/
def toJson (a : Attempt) : Json :=
  .object (a.rule.toMembers ++
    match a.validator with
    | some v => [("validator", .string v.name)]
    | none => [])

end Attempt

end InvoiceFields
