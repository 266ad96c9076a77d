import InvoiceFields.Text.Blank

/-!
# Paths

A path is a text in which slashes divide components. Repeated slashes and single points count
for nothing, except that a path may start with a point.
-/

namespace InvoiceFields.Path

/-- The components of a path: its pieces between slashes without empty ones, and without single
points behind the first piece. -/
def components (path : String) : List String :=
  match (Text.splitWhere (· == '/') path.toList).map String.ofList with
  | [] => []
  | first :: rest =>
    (if first = "" then [] else [first]) ++ rest.filter fun c => c != "" && c != "."

/-- Whether a path starts at the root. -/
def isAbsolute (path : String) : Bool := path.toList.head? == some '/'

/-- A path inside a directory. -/
def join (dir name : String) : String :=
  if isAbsolute name ∨ dir = "" then name
  else if dir.toList.getLast? = some '/' then dir ++ name
  else dir ++ "/" ++ name

/-- The last component of a path, empty if it names no entry of a directory. -/
def fileName (path : String) : String :=
  match (components path).getLast? with
  | some name => if name = "." ∨ name = ".." then "" else name
  | none => ""

/-- The part of a file's name behind its last point, empty if there is none. A point in front of
the name does not count. -/
def extension (path : String) : String :=
  let cs := (fileName path).toList
  let behind := (cs.reverse.takeWhile (· != '.')).reverse
  if behind.length + 1 < cs.length then String.ofList behind else ""

/-- The directory of a path, if it has one. -/
def parent? (path : String) : Option String :=
  match (components path).reverse with
  | [] => none
  | _ :: above =>
    some ((if isAbsolute path then "/" else "") ++ Text.join "/" above.reverse)

/-- The place of a component in the order of paths: the directory itself, the one above it, and
then the entries. -/
def rank (component : String) : Nat :=
  if component = "." then 0 else if component = ".." then 1 else 2

/-- Whether one list of components comes before another. -/
def before : List String → List String → Bool
  | _, [] => false
  | [], _ :: _ => true
  | a :: as, b :: bs =>
    if a = b then before as bs
    else decide (rank a < rank b) || (rank a == rank b && decide (a < b))

/-- Paths in order, component by component. -/
def sort (paths : List String) : List String :=
  paths.mergeSort fun a b => !before (components b) (components a)

end InvoiceFields.Path
