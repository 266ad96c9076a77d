/-!
# Breakdowns

Most failures of this library are values of the caller's concern: a rule that does not match, a
document without amounts. A `Breakdown` is not: it ends the computation it occurs in. There are
two causes, and each definition that can break down says so by its type.
-/

namespace InvoiceFields

/-- Why a computation ends without an answer. -/
inductive Breakdown where
  /-- A tax identifier is cut inside one of its characters. -/
  | dividedCharacter
  /-- A number that must exist is outside the range of decimals. -/
  | outOfRange
deriving Repr, DecidableEq

end InvoiceFields
