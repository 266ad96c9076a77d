import InvoiceFields.Text.Blank
import InvoiceFields.Text.Word

/-!
# Text patterns

A `Pattern` describes pieces of text. `run` lists the places where a match that starts at a given
place can end, the preferred one first: an alternative is preferred over those after it, and a
repetition prefers one more round. `findAll` scans a text from left to right, takes the preferred
match at each place, and goes on behind it. A match carries its span in UTF-8 bytes, its text and
its numbered groups.
-/

namespace InvoiceFields

/-- A pattern for pieces of text. -/
inductive Pattern where
  /-- Nothing. -/
  | empty
  /-- One character of a class. -/
  | one (p : Char → Bool)
  /-- One pattern after the other. -/
  | seq (a b : Pattern)
  /-- The first pattern, or else the second. -/
  | alt (a b : Pattern)
  /-- The pattern any number of times, as often as possible. -/
  | many (a : Pattern)
  /-- The pattern, with its text kept under a number. -/
  | group (n : Nat) (a : Pattern)
  /-- A place between a word character and something else. -/
  | boundary
  /-- The start of the text. -/
  | start
  /-- The end of the text. -/
  | finish

/-- A piece of a text with the byte offsets of its ends. -/
structure Span where
  start : Nat
  stop : Nat
  text : String
deriving Repr, DecidableEq

/-- A value and the piece of text it was read from. -/
structure Found (α : Type) where
  value : α
  span : Span
deriving Repr, DecidableEq

namespace Pattern

/-- A place in a text: the character before it, what follows, its byte offset, and the groups
matched so far. -/
structure Place where
  before : Option Char
  rest : List Char
  offset : Nat
  groups : List (Nat × Span)
deriving Repr

/-- The place at the start of a text. -/
def Place.ofChars (cs : List Char) : Place := ⟨none, cs, 0, []⟩

/-- The place behind a character `c` that `rest` follows. -/
def Place.advance (at_ : Place) (c : Char) (rest : List Char) : Place :=
  ⟨some c, rest, at_.offset + c.utf8Size, at_.groups⟩

/-- The text between a place and a later one. -/
def Place.spanTo (a b : Place) : Span :=
  ⟨a.offset, b.offset, String.ofList (a.rest.take (a.rest.length - b.rest.length))⟩

/-- Whether a place is a word boundary. -/
def Place.isBoundary (a : Place) : Bool :=
  a.before.any Text.isWordChar != a.rest.head?.any Text.isWordChar

/-- All ways to take further steps, the longest sequence first. -/
def repeatSteps (step : Place → List Place) : Nat → Place → List Place
  | 0, a => [a]
  | n + 1, a =>
    (step a).flatMap (fun b => if b.rest.length < a.rest.length then repeatSteps step n b else [])
      ++ [a]

/-- The places where a match from a given place can end, the preferred one first. -/
def run : Pattern → Place → List Place
  | empty, a => [a]
  | one p, a =>
    match a.rest with
    | [] => []
    | c :: rest => if p c then [a.advance c rest] else []
  | seq p q, a => (run p a).flatMap (run q)
  | alt p q, a => run p a ++ run q a
  | many p, a => repeatSteps (run p) a.rest.length a
  | group n p, a => (run p a).map fun b => { b with groups := b.groups ++ [(n, a.spanTo b)] }
  | boundary, a => if a.isBoundary then [a] else []
  | start, a => if a.before.isNone then [a] else []
  | finish, a => if a.rest.isEmpty then [a] else []

/-- The number of groups of a pattern. -/
def groupCount : Pattern → Nat
  | seq a b | alt a b => a.groupCount + b.groupCount
  | many a => a.groupCount
  | group _ a => a.groupCount + 1
  | _ => 0

/-! ### Searching -/

/-- A match: its span and the spans of its groups. -/
structure Match where
  span : Span
  groups : List (Nat × Span)
deriving Repr, DecidableEq

/-- The span of a group. A group that took no part has none. -/
def Match.group? (m : Match) (n : Nat) : Option Span := m.groups.lookup n

/-- The text of a group, empty if it took no part. -/
def Match.groupText (m : Match) (n : Nat) : String := ((m.group? n).map (·.text)).getD ""

/-- The matches from a place on, without overlaps. Matches of no length are passed over. -/
def scan (p : Pattern) (a : Place) : List Match :=
  match _h : a.rest with
  | [] => []
  | c :: rest =>
    match p.run { a with groups := [] } with
    | [] => scan p (a.advance c rest)
    | b :: _ =>
      if b.rest.length < a.rest.length then ⟨a.spanTo b, b.groups⟩ :: scan p b
      else scan p (a.advance c rest)
termination_by a.rest.length
decreasing_by
  all_goals simp_all [Place.advance]

/-- The characters from a place on that no match takes up. -/
def eraseFrom (p : Pattern) (a : Place) : List Char :=
  match _h : a.rest with
  | [] => []
  | c :: rest =>
    match p.run { a with groups := [] } with
    | [] => c :: eraseFrom p (a.advance c rest)
    | b :: _ =>
      if b.rest.length < a.rest.length then eraseFrom p b
      else c :: eraseFrom p (a.advance c rest)
termination_by a.rest.length
decreasing_by
  all_goals simp_all [Place.advance]

/-- A text without the matches of a pattern. -/
def erase (p : Pattern) (cs : List Char) : List Char := p.eraseFrom (.ofChars cs)

/-- The matches of a pattern in a text, from left to right. -/
def findAll (p : Pattern) (cs : List Char) : List Match := p.scan (.ofChars cs)

/-- The first match of a pattern in a text. -/
def find? (p : Pattern) (cs : List Char) : Option Match := (p.findAll cs).head?

/-- Whether a pattern matches somewhere in a text. -/
def occursIn (p : Pattern) (cs : List Char) : Bool := (p.find? cs).isSome

/-- What stands behind a match in the text it was found in. -/
def Match.after (m : Match) (cs : List Char) : List Char :=
  go m.span.stop cs
where
  /-- Drops characters up to a byte offset. -/
  go : Nat → List Char → List Char
    | _, [] => []
    | n, c :: cs => if n = 0 then c :: cs else go (n - c.utf8Size) cs

end Pattern

end InvoiceFields
