import InvoiceFields.Files.Host
import InvoiceFields.Files.Path

/-!
# File stores

A `FileStore` is a tree of directories and files below a root. A `Session` is a store together
with what has been written to the outputs; computations on a session are a `Host` whose clock
stands still.
-/

namespace InvoiceFields

/-- The directories and files below a root, each by the names that lead to it. The root itself is
always there. -/
structure FileStore where
  /-- The absolute path of the root. -/
  root : String
  directories : List (List String)
  files : List (List String × ByteArray)

namespace FileStore

/-- The names that lead from the root to a place, for a path that starts there. Two points lead
up again. -/
def placeOf (names : List String) : List String :=
  (names.foldl
    (fun above name => if name = "." then above else if name = ".." then above.drop 1
      else name :: above) []).reverse

/-- The place of a path, which is relative to the root or starts with its path. -/
def place? (s : FileStore) (path : String) : Option (List String) :=
  if path = "" then none
  else
    let names := Path.components path
    let rootNames := Path.components s.root
    if rootNames.isPrefixOf names then some (placeOf (names.drop rootNames.length))
    else if Path.isAbsolute path then none
    else some (placeOf names)

/-- What is at a place. -/
def kindAt? (s : FileStore) (place : List String) : Option FileKind :=
  if place.isEmpty ∨ s.directories.contains place then some .directory
  else if (s.files.lookup place).isSome then some .file
  else none

/-- Whether a path asks for a directory by a slash at its end. -/
def asksDirectory (path : String) : Bool := path.toList.getLast? == some '/'

/-- What a path leads to. -/
def kind? (s : FileStore) (path : String) : Option FileKind :=
  match (s.place? path).bind s.kindAt? with
  | some .file => if asksDirectory path then none else some .file
  | k => k

/-- The places on the way from the root to a place, both included. -/
def onTheWay (place : List String) : List (List String) :=
  (List.range (place.length + 1)).map (place.take ·)

/-- Why nothing can be at a place: a file is where a directory is needed, or something on the way
is missing. -/
def missing (s : FileStore) (place : List String) : FileFault :=
  if (onTheWay place).any fun above => s.kindAt? above == some .file then .notDirectory
  else .notFound

/-- The content of the file that a path leads to. -/
def read (s : FileStore) (path : String) : Except FileFault ByteArray :=
  match s.place? path with
  | none => .error .notFound
  | some place =>
    match s.kindAt? place, s.files.lookup place with
    | some .directory, _ => .error .isDirectory
    | _, some bytes => if asksDirectory path then .error .notDirectory else .ok bytes
    | _, none => .error (s.missing place)

/-- The files with the content of one replaced, which stands in its place or behind the others. -/
def putFile (place : List String) (bytes : ByteArray) :
    List (List String × ByteArray) → List (List String × ByteArray)
  | [] => [(place, bytes)]
  | (p, b) :: rest => if p = place then (p, bytes) :: rest else (p, b) :: putFile place bytes rest

/-- Gives the file that a path leads to a new content. Its directory must be there. -/
def write (s : FileStore) (path content : String) : Except FileFault FileStore :=
  match s.place? path with
  | none => .error .notFound
  | some place =>
    if s.kindAt? place = some .directory ∨ asksDirectory path then .error .isDirectory
    else if s.kindAt? place.dropLast = some .directory then
      .ok { s with files := putFile place content.toUTF8 s.files }
    else .error (s.missing place.dropLast)

/-- Makes the directories at a list of places, the upper ones first. -/
def makeAll : List (List String) → FileStore → Except FileFault FileStore
  | [], s => .ok s
  | place :: rest, s =>
    match s.kindAt? place with
    | some .directory => makeAll rest s
    | some _ => .error (if rest.isEmpty then .alreadyExists else .notDirectory)
    | none => makeAll rest { s with directories := s.directories ++ [place] }

/-- Makes the directory that a path leads to, and those above it. -/
def makeDirectory (s : FileStore) (path : String) : Except FileFault FileStore :=
  if path = "" then .ok s
  else match s.place? path with
    | none => .error .notFound
    | some place => makeAll (onTheWay place) s

/-- The name of an entry directly inside a directory. -/
def nameInside? (place entry : List String) : Option String :=
  if entry.length = place.length + 1 ∧ place.isPrefixOf entry then entry.getLast? else none

/-- The names of the entries of a directory. -/
def list (s : FileStore) (path : String) : Except FileFault (List String) :=
  match s.place? path with
  | none => .error .notFound
  | some place =>
    match s.kindAt? place with
    | some .directory =>
      .ok ((s.directories ++ s.files.map (·.1)).filterMap (nameInside? place))
    | some _ => .error .notDirectory
    | none => .error (s.missing place)

/-- The store of files given by their paths below the root, with the directories they need. -/
def ofFiles (root : String) (files : List (String × ByteArray)) : FileStore :=
  let placed := files.map fun (path, bytes) => (placeOf (Path.components path), bytes)
  ⟨root, (placed.flatMap fun (place, _) => onTheWay place.dropLast).eraseDups,
    placed.foldl (fun fs (place, bytes) => putFile place bytes fs) []⟩

end FileStore

/-- A store with what has been written to the outputs. -/
structure Session where
  store : FileStore
  out : String
  err : String

namespace Session

/-- Changes the store, if the change succeeds. -/
def change (f : FileStore → Except FileFault FileStore) (s : Session) :
    Except FileFault Unit × Session :=
  match f s.store with
  | .ok store => (.ok (), { s with store := store })
  | .error e => (.error e, s)

instance : Host (StateM Session) where
  kind? path := fun s => (s.store.kind? path, s)
  read path := fun s => (s.store.read path, s)
  write path content := change fun store => store.write path content
  makeDirectory path := change fun store => store.makeDirectory path
  list path := fun s => (s.store.list path, s)
  say text := fun s => ((), { s with out := s.out ++ text })
  note text := fun s => ((), { s with err := s.err ++ text })
  clock := fun s => (0, s)

end Session

end InvoiceFields
