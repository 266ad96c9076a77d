/-!
# Powers of two and ten

The bounds of machine words and of decimals are powers of two, and scales are powers of ten.
-/

namespace InvoiceFields

/-- Two to the power `k`. -/
def twoTo (k : Nat) : Nat := Nat.pow 2 k

/-- Ten to the power `k`. -/
def tenTo (k : Nat) : Nat := Nat.pow 10 k

end InvoiceFields
