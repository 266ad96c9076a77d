import InvoiceFields.Breakdown
import InvoiceFields.Document
import InvoiceFields.Pattern.Basic
import InvoiceFields.Pattern.Catalogue

/-!
# Tax identifiers

The identifiers of persons (eight digits and a letter), foreigners (`X`, `Y` or `Z`, seven digits
and a letter) and companies (a letter, seven digits and a control character). `normalize` is the
canonical form, `isTaxId` checks the shape and `validate` the control character. `locate` finds
the identifiers of a line.

The control character of an identifier is the ninth byte of its canonical form. The shape admits
decimal digits of every script, so that byte may lie inside a character; `validate` then breaks
down.
-/

namespace InvoiceFields.TaxId

/-! ### Canonical form -/

/-- Whether a character may separate the parts of an identifier. -/
def isSeparator (c : Char) : Bool := c == '-' || c == '.' || c == ' ' || c == '/'

/-- Removes the country in front of nine bytes. -/
def dropCountry : List Char → List Char
  | 'E' :: 'S' :: rest => if Text.byteLength rest = 9 then rest else 'E' :: 'S' :: rest
  | cs => cs

/-- The canonical form of an identifier, as a list of characters. -/
def normalizeChars (cs : List Char) : List Char :=
  dropCountry (Text.upperChars (cs.filter (!isSeparator ·)))

/-- The canonical form of an identifier: capitals, without separators and country. -/
def normalize (raw : String) : String := String.ofList (normalizeChars raw.toList)

/-- Whether two identifiers denote the same party. An empty one denotes none. -/
def same (a b : String) : Bool := !(normalize a).isEmpty && normalize a == normalize b

/-- Whether a text has the shape of an identifier. -/
def isTaxId (raw : String) : Bool := Pattern.taxIdCanonical.occursIn (normalizeChars raw.toList)

/-! ### Control characters -/

/-- Divides a text behind its first `n` bytes, if a character ends there. -/
def splitAtByte? : Nat → List Char → Option (List Char × List Char)
  | 0, cs => some ([], cs)
  | _, [] => none
  | n + 1, c :: cs =>
    if n + 1 < c.utf8Size then none
    else (splitAtByte? (n + 1 - c.utf8Size) cs).map fun (a, b) => (c :: a, b)

/-- The control letters of persons, by the number modulo 23. -/
def personLetters : List Char := "TRWAGMYFPDXBNJZSQVHLCKE".toList

/-- The control letters of companies, by the control digit. -/
def companyLetters : List Char := "JABCDEFGHI".toList

/-- Whether a number has the given control letter. Digits of other scripts make no number. -/
def personMatches (ds : List Char) (control : Option Char) : Bool :=
  match Text.readNat? ds with
  | some n => personLetters[n % 23]? == control
  | none => false

/-- The sum of digits in which those at even places count double, with carry. -/
def weightedSum : Bool → List Nat → Nat
  | _, [] => 0
  | true, d :: ds => 2 * d / 10 + 2 * d % 10 + weightedSum false ds
  | false, d :: ds => d + weightedSum true ds

/-- The control digit of a company's seven digits. -/
def companyDigit (ds : List Char) : Nat :=
  (10 - weightedSum true (ds.map Text.digitValue) % 10) % 10

/-- Whether a company's kind and digits have the given control character: a digit for some kinds,
a letter for others, and either for the rest. -/
def companyMatches (kind : Char) (ds : List Char) (control : Option Char) : Bool :=
  if ds.length = 7 && ds.all Text.isAsciiDigit then
    let digit := some (Text.digitChar (companyDigit ds))
    let letter := companyLetters[companyDigit ds]?
    if "ABEH".toList.contains kind then control == digit
    else if "NPQRSW".toList.contains kind then control == letter
    else control == digit || control == letter
  else false

/-- The digit that stands for the first letter of a foreigner's identifier. -/
def foreignerDigit? (c : Char) : Option Char :=
  if c = 'X' then some '0' else if c = 'Y' then some '1' else if c = 'Z' then some '2' else none

/-- Checks the control character of a canonical identifier. -/
def checkControl (id : List Char) : Except Breakdown Bool :=
  match splitAtByte? 8 id, id with
  | some (number, rest), kind :: _ =>
    if Text.isAsciiDigit kind then .ok (personMatches number rest.head?)
    else match foreignerDigit? kind with
      | some digit => .ok (personMatches (digit :: number.tail) rest.head?)
      | none =>
        if kind.utf8Size = 1 then .ok (companyMatches kind number.tail rest.head?)
        else .error .dividedCharacter
  | _, _ => .error .dividedCharacter

/-- Whether a text is an identifier with the right control character. -/
def validate (raw : String) : Except Breakdown Bool :=
  if isTaxId raw then checkControl (normalizeChars raw.toList) else .ok false

/-! ### Finding -/

/-- What to look for: whether control characters must be right, and the canonical identifier that
is never reported. -/
structure Search where
  validated : Bool
  excluded : Option String
deriving Repr, DecidableEq

/-- The search by shape alone. -/
def Search.plain : Search := ⟨false, none⟩

/-- The search that leaves out an identifier. An identifier that is empty in canonical form
leaves out nothing. -/
def Search.excluding (validated : Bool) (id : Option String) : Search :=
  ⟨validated, (id.map normalize).filter (!·.isEmpty)⟩

/-- Whether an identifier is left out. -/
def Search.excludes (search : Search) (candidate : String) : Bool :=
  search.excluded.any (normalize candidate == ·)

/-- Whether an identifier is reported. -/
def Search.accepts (search : Search) (id : String) : Except Breakdown Bool :=
  if search.excludes id then .ok false
  else if search.validated then validate id
  else .ok true

/-- The matches whose canonical form is reported. -/
def Search.keep (search : Search) : List Pattern.Match → Except Breakdown (List (Found String))
  | [] => .ok []
  | m :: ms => do
    let id := normalize m.span.text
    let accepted ← search.accepts id
    let rest ← search.keep ms
    return if accepted then ⟨id, m.span⟩ :: rest else rest

/-- The identifiers of a line, in canonical form. They are looked for in the capitals of the
line, which the spans refer to. -/
def Search.locate (search : Search) (line : String) : Except Breakdown (List (Found String)) :=
  search.keep (Pattern.taxIdToken.findAll (Text.upperChars line.toList))

/-- The first identifier of some lines. Lines behind the one that has it are not looked at. -/
def Search.firstIn (search : Search) : List String → Except Breakdown (Option String)
  | [] => .ok none
  | line :: rest => do
    match ← search.locate line with
    | found :: _ => return some found.value
    | [] => search.firstIn rest

/-- The identifiers of some lines in reading order. -/
def Search.allIn (search : Search) : List String → Except Breakdown (List String)
  | [] => .ok []
  | line :: rest => do
    let found ← search.locate line
    let more ← search.allIn rest
    return found.map (·.value) ++ more

/-- The first identifier of a document. -/
def Search.first? (search : Search) (doc : Document) : Except Breakdown (Option String) :=
  search.firstIn doc.lines

/-- The members of a list without repetitions, each at its first place. -/
def firstOccurrences (ids : List String) : List String :=
  ids.foldl (fun seen id => if seen.contains id then seen else seen ++ [id]) []

/-- The identifiers of a document without repetitions, in the order they first occur. -/
def Search.all (search : Search) (doc : Document) : Except Breakdown (List String) :=
  (search.allIn doc.lines).map firstOccurrences

end InvoiceFields.TaxId
