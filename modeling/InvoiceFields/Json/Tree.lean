import InvoiceFields.Json.Token

/-!
# JSON texts as trees

A reader of a JSON text works from left to right and stops at the first fault, be it in the text
or in what the text is read as. A `Tree` holds a text in the form that such readers need: it
records where the text breaks, and a reader that comes to that place stops with the fault found
there. `Reading.ofText` builds the tree of any text.
-/

namespace InvoiceFields.Json

mutual

/-- A value of a JSON text. -/
inductive Tree where
  | null
  | bool (b : Bool)
  /-- A number: its value, and whether it can be passed over. -/
  | number (value : Except Fault Number) (skipped : Except Fault Unit)
  /-- A string: its value, and whether it can be passed over. -/
  | string (value : Except Fault String) (skipped : Except Fault Unit)
  /-- An array, and whether it is nested too deeply to be read. -/
  | array (deep : Bool) (elements : Elements)
  /-- An object, and whether it is nested too deeply to be read. -/
  | object (deep : Bool) (members : Members)
  /-- A place where no value can be read. -/
  | broken (fault : Fault)

/-- The elements of an array, up to its end or to a fault. -/
inductive Elements where
  | closed
  /-- A fault between elements, behind a comma or in front of it. -/
  | halted (afterComma : Bool) (fault : Fault)
  | cons (head : Tree) (tail : Elements)

/-- The members of an object, up to its end or to a fault. -/
inductive Members where
  | closed
  /-- A fault between members, behind a comma or in front of it. -/
  | halted (afterComma : Bool) (fault : Fault)
  /-- A member: the value of its key, whether the key can be passed over, and the value. -/
  | cons (key : Except Fault String) (skipped : Except Fault Unit) (value : Tree) (tail : Members)

end

namespace Tree

instance : Inhabited Tree := ⟨null⟩

/-- The number of levels that arrays and objects may be nested. -/
def maxDepth : Nat := 127

/-! ### Reading

Each definition takes the number of steps left, the number of arrays and objects around the place,
and the tokens from there on; it yields what it reads and the tokens behind it. Behind a fault
there are no tokens.
-/

mutual

/-- Reads a value. -/
def readValue : Nat → Nat → List Token → Tree × List Token
  | 0, _, _ | _, _, [] => (broken .ended, [])
  | fuel + 1, depth, token :: tokens =>
    match token with
    | .null => (null, tokens)
    | .bool b => (bool b, tokens)
    | .number value skipped => (number value skipped, tokens)
    | .string value skipped => (string value skipped, tokens)
    | .openArray =>
      let (elements, rest) := readFirstElement fuel (depth + 1) tokens
      (array (decide (maxDepth < depth + 1)) elements, rest)
    | .openObject =>
      let (members, rest) := readFirstMember fuel (depth + 1) tokens
      (object (decide (maxDepth < depth + 1)) members, rest)
    | .broken f => (broken f, [])
    | .closeArray | .closeObject | .comma | .colon => (broken (.malformed .value), [])

/-- Reads the elements behind an opening bracket. -/
def readFirstElement : Nat → Nat → List Token → Elements × List Token
  | 0, _, _ | _, _, [] => (.halted false .ended, [])
  | fuel + 1, depth, token :: tokens =>
    match token with
    | .closeArray => (.closed, tokens)
    | _ => readElement fuel depth (token :: tokens)

/-- Reads an element and those behind it. -/
def readElement : Nat → Nat → List Token → Elements × List Token
  | 0, _, _ => (.halted false .ended, [])
  | fuel + 1, depth, tokens =>
    let (value, rest) := readValue fuel depth tokens
    let (others, rest) := readOtherElements fuel depth rest
    (.cons value others, rest)

/-- Reads the elements behind one of them. -/
def readOtherElements : Nat → Nat → List Token → Elements × List Token
  | 0, _, _ | _, _, [] => (.halted false .ended, [])
  | fuel + 1, depth, token :: tokens =>
    match token, tokens with
    | .closeArray, _ => (.closed, tokens)
    | .comma, [] => (.halted true .ended, [])
    | .comma, .closeArray :: _ => (.halted true (.malformed .trailingComma), [])
    | .comma, _ => readElement fuel depth tokens
    | _, _ => (.halted false (.malformed .arraySeparator), [])

/-- Reads the members behind an opening brace. -/
def readFirstMember : Nat → Nat → List Token → Members × List Token
  | 0, _, _ | _, _, [] => (.halted false .ended, [])
  | fuel + 1, depth, token :: tokens =>
    match token with
    | .closeObject => (.closed, tokens)
    | _ => readMember fuel depth (token :: tokens)

/-- Reads a member and those behind it. -/
def readMember : Nat → Nat → List Token → Members × List Token
  | 0, _, _ | _, _, [] => (.halted false .ended, [])
  | fuel + 1, depth, token :: tokens =>
    match token with
    | .string key skipped =>
      let (value, rest) := readMemberValue fuel depth tokens
      let (others, rest) := readOtherMembers fuel depth rest
      (.cons key skipped value others, rest)
    | _ => (.halted false (.malformed .key), [])

/-- Reads the colon and the value behind a key. -/
def readMemberValue : Nat → Nat → List Token → Tree × List Token
  | 0, _, _ | _, _, [] => (broken .ended, [])
  | fuel + 1, depth, token :: tokens =>
    match token with
    | .colon => readValue fuel depth tokens
    | _ => (broken (.malformed .colon), [])

/-- Reads the members behind one of them. -/
def readOtherMembers : Nat → Nat → List Token → Members × List Token
  | 0, _, _ | _, _, [] => (.halted false .ended, [])
  | fuel + 1, depth, token :: tokens =>
    match token, tokens with
    | .closeObject, _ => (.closed, tokens)
    | .comma, [] => (.halted true .ended, [])
    | .comma, .closeObject :: _ => (.halted true (.malformed .trailingComma), [])
    | .comma, .string _ _ :: _ => readMember fuel depth tokens
    | .comma, _ => (.halted true (.malformed .key), [])
    | _, _ => (.halted false (.malformed .objectSeparator), [])

end

/-- The tree at the start of a list of tokens, and the tokens behind it. No token takes more than
three steps. -/
def ofTokens (tokens : List Token) : Tree × List Token :=
  readValue (3 * tokens.length + 3) 0 tokens

end Tree

/-- A text as a tree, and whether something stands behind its value. -/
structure Reading where
  tree : Tree
  trailing : Bool

/-- Reads a text. -/
def Reading.ofText (text : String) : Reading :=
  let (tree, rest) := Tree.ofTokens (Token.ofChars text.toList)
  ⟨tree, !rest.isEmpty⟩

end InvoiceFields.Json
