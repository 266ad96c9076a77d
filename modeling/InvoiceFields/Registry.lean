import InvoiceFields.Profile

/-!
# Registries of profiles

A `Registry` holds profiles in the order of registration and selects one for a document: by a
keyword in the name of its source, or else by a tax identifier in its text other than the
receiver's. The first profile that fits is selected, so of the profiles that share a keyword only
the first can be selected by it.
-/

namespace InvoiceFields

/-- Profiles in the order of registration. -/
structure Registry where
  profiles : List Profile
deriving Repr, DecidableEq

namespace Registry

/-- The registry without profiles. -/
def empty : Registry := ⟨[]⟩

instance : Inhabited Registry := ⟨empty⟩

/-- The number of profiles. -/
def size (r : Registry) : Nat := r.profiles.length

/-- Whether there are no profiles. -/
def isEmpty (r : Registry) : Bool := r.profiles.isEmpty

/-- The profile of a name, whatever the case of its ASCII letters. -/
def get? (r : Registry) (name : String) : Option Profile :=
  r.profiles.find? fun p => Text.equalIgnoringAsciiCase p.name name

/-- Adds a profile that can be selected and has a name of its own. -/
def register (r : Registry) (p : Profile) : Except ConfigError Registry :=
  if !p.isReachable then .error (.unreachableProfile p.name)
  else if (r.get? p.name).isSome then .error (.duplicateProfile p.name)
  else .ok ⟨r.profiles ++ [p]⟩

/-- The first profile with a keyword in the name of the source. -/
def bySource? (r : Registry) (source : String) : Option Profile :=
  r.profiles.find? (·.matchesSource source)

/-- The first profile with a tax identifier in the document. A registry without tax identifiers
does not look at the document. -/
def byContent? (r : Registry) (doc : Document) (settings : Settings) :
    Except Breakdown (Option Profile) :=
  if r.profiles.all (·.taxIds.isEmpty) then .ok none
  else do
    let found ← settings.search.all doc
    return r.profiles.find? (·.matchesTaxIds found)

/-- The profile for a document, if one fits. -/
def identify (r : Registry) (doc : Document) (source : Option String) (settings : Settings) :
    Except Breakdown (Option Profile) :=
  match source.bind r.bySource? with
  | some p => .ok (some p)
  | none => r.byContent? doc settings

/-! ### Shared keywords -/

/-- The keywords that were met so far, and those that were met again in another profile. -/
structure Tally where
  met : List String
  shared : List String
deriving Repr, DecidableEq

/-- Meets a keyword of a profile. One that was met before is shared, and it is listed once. -/
def Tally.meet (t : Tally) (k : String) : Tally :=
  if !t.met.contains k then { t with met := k :: t.met }
  else if t.shared.contains k then t
  else { t with shared := t.shared ++ [k] }

/-- Meets the keywords of a profile. -/
def Tally.meetAll (t : Tally) (own : List String) : Tally := own.foldl Tally.meet t

/-- The keywords that are met in more than one profile, in alphabetical order. The keywords of each
profile are met in the given order. -/
def sharedAlong (orders : List (List String)) : List String :=
  (orders.foldl Tally.meetAll ⟨[], []⟩).shared.mergeSort fun a b => !decide (b < a)

/-- The keywords that more than one profile has, in alphabetical order. -/
def sharedKeywords (r : Registry) : List String :=
  sharedAlong (r.profiles.map fun p => TaxId.firstOccurrences p.keywords)

end Registry

end InvoiceFields
