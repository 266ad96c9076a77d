import InvoiceFields.Files.Host
import InvoiceFields.Files.Path

/-!
# Wildcards in paths

A `Glob` is a path whose components may hold wildcards: `?` stands for a character, `*` for any
characters, `[ab0-9]` for a character of a class and `[!ab]` for any other. A component `**`
stands for directories at any depth. `Glob.files` finds the paths that a glob matches.
-/

namespace InvoiceFields

/-- A part of a component. -/
inductive GlobToken where
  | char (c : Char)
  | anyChar
  | anyText
  /-- A class, given by ranges of characters, or everything outside it. -/
  | ofClass (inside : Bool) (ranges : List (Char × Char))
deriving Repr, DecidableEq

/-- A component of a path with wildcards. -/
inductive GlobComponent where
  /-- Directories at any depth. -/
  | anyDepth
  /-- A name. -/
  | named (tokens : List GlobToken)
deriving Repr, DecidableEq

namespace Glob

/-! ### Reading -/

/-- The ranges of a class. A dash between two characters makes a range. -/
def ranges : List Char → List (Char × Char)
  | a :: '-' :: b :: rest => (a, b) :: ranges rest
  | a :: rest => (a, a) :: ranges rest
  | [] => []

/-- The class behind an opening bracket, which has at least one character, and what follows it. -/
def readClass? (cs : List Char) : Option (GlobToken × List Char) :=
  let (inside, body) := match cs with
    | '!' :: rest => (false, rest)
    | _ => (true, cs)
  match body with
  | [] => none
  | first :: rest =>
    match rest.dropWhile (· != ']') with
    | [] => none
    | _ :: after => some (.ofClass inside (ranges (first :: rest.takeWhile (· != ']'))), after)

/-- Reads the tokens of a pattern, with a number of steps left; none if a class is not closed. -/
def readTokens? : Nat → List Char → Option (List GlobToken)
  | 0, _ | _, [] => some []
  | fuel + 1, c :: cs =>
    match c with
    | '?' => (readTokens? fuel cs).map (.anyChar :: ·)
    | '*' => (readTokens? fuel cs).map (.anyText :: ·)
    | '[' => do
      let (token, rest) ← readClass? cs
      return token :: (← readTokens? fuel rest)
    | c => (readTokens? fuel cs).map (.char c :: ·)

/-- The tokens of a pattern. -/
def tokens? (cs : List Char) : Option (List GlobToken) := readTokens? cs.length cs

/-- Whether every run of stars has one star, or has two and makes up a component. `start` tells
whether a component starts here. Classes are left out of account, with a number of steps left. -/
def starsAllowed : Nat → Bool → List Char → Bool
  | 0, _, _ | _, _, [] => true
  | fuel + 1, start, c :: cs =>
    match c with
    | '*' =>
      let more := cs.takeWhile (· == '*')
      let rest := cs.dropWhile (· == '*')
      match more.length with
      | 0 => starsAllowed fuel false rest
      | 1 => start && (rest.isEmpty || rest.head? == some '/') && starsAllowed fuel false rest
      | _ => false
    | '[' =>
      match readClass? cs with
      | some (_, rest) => starsAllowed fuel false rest
      | none => true
    | c => starsAllowed fuel (c == '/') cs

/-- Reads a component. -/
def readComponent? (cs : List Char) : Option GlobComponent :=
  if cs = ['*', '*'] then some .anyDepth else (tokens? cs).map .named

/-- The pieces of a pattern between slashes, without the last one if it is empty. -/
def pieces (cs : List Char) : List (List Char) :=
  let ps := Text.splitWhere (· == '/') cs
  if 1 < ps.length ∧ ps.getLast? = some [] then ps.dropLast else ps

/-- Reads a pattern, if it is one. -/
def read? (cs : List Char) : Option (List GlobComponent) :=
  if (tokens? cs).isSome ∧ starsAllowed cs.length true cs then (pieces cs).mapM readComponent?
  else none

/-! ### Matching names -/

/-- Whether a character is in one of some ranges. -/
def inRanges (c : Char) (rs : List (Char × Char)) : Bool := rs.any fun (a, b) => a ≤ c && c ≤ b

/-- Whether tokens match a whole text. -/
def matchesChars : List GlobToken → List Char → Bool
  | [], cs => cs.isEmpty
  | .anyText :: ts, [] => matchesChars ts []
  | .anyText :: ts, c :: cs => matchesChars ts (c :: cs) || matchesChars (.anyText :: ts) cs
  | _ :: _, [] => false
  | .char a :: ts, c :: cs => a == c && matchesChars ts cs
  | .anyChar :: ts, _ :: cs => matchesChars ts cs
  | .ofClass inside rs :: ts, c :: cs => inRanges c rs == inside && matchesChars ts cs

/-- The character that a token stands for, if it is no wildcard. -/
def char? : GlobToken → Option Char
  | .char c => some c
  | _ => none

/-- The name that tokens without wildcards stand for. -/
def literal? (ts : List GlobToken) : Option String := (ts.mapM char?).map String.ofList

/-! ### Finding paths -/

variable {m : Type → Type} [Monad m] [Host m]

/-- A path inside a directory, where the directory `.` is left out. -/
def inside (dir name : String) : String := if dir = "." then name else Path.join dir name

/-- The names of the entries of a directory, none if it cannot be read. -/
def entries (dir : String) : m (List String) := do
  if ← Host.isDirectory dir then
    match ← Host.list dir with
    | .ok names => return names
    | .error _ => return []
  else return []

/-- The directory's own two names, which a wildcard matches only behind a point. -/
def ownNames (ts : List GlobToken) : List String :=
  if ts.head? = some (.char '.') then [".", ".."].filter (matchesChars ts ·.toList) else []

/-- The paths below a directory, with a number of levels left. -/
def below : Nat → String → m (List String)
  | 0, _ => return []
  | fuel + 1, dir => do
    let children := (← entries dir).map (inside dir)
    let deeper ← children.mapM (below fuel)
    return children ++ deeper.flatten

/-- The number of levels that a path can have. -/
def maxLevels : Nat := 2048

/-- The paths from a directory on that components match. -/
def expand : List GlobComponent → String → m (List String)
  | [], path => return [path]
  | [.anyDepth], _ => return []
  | .anyDepth :: .anyDepth :: rest, dir => expand (.anyDepth :: rest) dir
  | .anyDepth :: .named ts :: rest, dir => do
    let found := (← below maxLevels dir).filter fun p => matchesChars ts (Path.fileName p).toList
    return (← found.mapM (expand rest)).flatten
  | .named ts :: rest, dir =>
    match literal? ts with
    | some name => do
      let next := inside dir name
      let there ← if name = "." ∨ name = ".." then Host.isDirectory dir else Host.exists? next
      if there then expand rest next else return []
    | none => do
      let found := ((← entries dir).filter (matchesChars ts ·.toList)).map (inside dir)
      let own := if ← Host.isDirectory dir then (ownNames ts).map (Path.join dir) else []
      return (← (found ++ own).mapM (expand rest)).flatten

/-- The files that a pattern matches, none for a pattern that ends in a slash; or nothing at all,
if it is no pattern. -/
def files? (pattern : String) : m (Option (List String)) := do
  let cs := pattern.toList
  let absolute := Path.isAbsolute pattern
  match read? cs, read? (cs.dropWhile (· == '/')) with
  | some _, some components =>
    if cs.getLast? = some '/' then return some []
    else
      let found ← expand components (if absolute then "/" else ".")
      return some (← found.filterM Host.isFile)
  | _, _ => return none

end Glob

end InvoiceFields
