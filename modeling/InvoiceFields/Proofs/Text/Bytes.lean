import InvoiceFields.Text.Blank
import InvoiceFields.Text.Digit

/-!
# Lengths in bytes

The length of a text in bytes adds up over its parts. `EndsAt` says where a text can be divided
without cutting a character; ASCII characters have one byte each, so a text can be divided anywhere
behind them.
-/

namespace InvoiceFields.Text

variable {c : Char} {cs ds : List Char} {n : Nat}

-- a statement about the characters of a list is decided by going through the list, here and
-- wherever this module is imported
attribute [instance (high)] List.decidableBAll List.decidableBEx Option.decidableExistsMem

/-! ### Lengths -/

theorem byteLength_append (cs ds : List Char) :
    byteLength (cs ++ ds) = byteLength cs + byteLength ds := by
  induction cs with
  | nil => rw [List.nil_append, byteLength, Nat.zero_add]
  | cons c cs ih => rw [List.cons_append, byteLength, byteLength, ih, Nat.add_assoc]

theorem byteLength_eq_zero : byteLength cs = 0 ↔ cs = [] := by
  cases cs with
  | nil => exact ⟨fun _ => rfl, fun _ => rfl⟩
  | cons c cs =>
    have hpos : 0 < c.utf8Size := c.utf8Size_pos
    simp only [byteLength, reduceCtorEq, iff_false]
    omega

theorem utf8ByteSize_ofList (cs : List Char) : (String.ofList cs).utf8ByteSize = byteLength cs := by
  induction cs with
  | nil => rfl
  | cons c cs ih =>
    rw [byteLength, ← ih, String.ofList_cons, String.utf8ByteSize_append,
      String.utf8ByteSize_singleton]

/-- The bytes of a string are those of its characters. -/
theorem byteLength_toList (s : String) : byteLength s.toList = s.utf8ByteSize := by
  rw [← utf8ByteSize_ofList, String.ofList_toList]

/-- A text is divided in one way only behind a number of bytes. -/
theorem append_inj_of_byteLength {cs' ds' : List Char} (h : cs ++ ds = cs' ++ ds')
    (hlength : byteLength cs = byteLength cs') : cs = cs' ∧ ds = ds' := by
  -- one of both parts goes on where the other one ends, with no bytes
  rcases List.append_eq_append_iff.mp h with ⟨more, rfl, rfl⟩ | ⟨more, rfl, rfl⟩ <;>
  · rw [byteLength_append] at hlength
    obtain rfl : more = [] := byteLength_eq_zero.mp (by omega)
    exact ⟨by simp, by simp⟩

/-- ASCII texts have as many bytes as characters. -/
theorem byteLength_eq_length (h : ∀ c ∈ cs, c.utf8Size = 1) : byteLength cs = cs.length := by
  induction cs with
  | nil => rfl
  | cons c cs ih =>
    obtain ⟨hc, hcs⟩ := List.forall_mem_cons.mp h
    rw [byteLength, hc, ih hcs, List.length_cons, Nat.add_comm]

theorem length_le_byteLength (cs : List Char) : cs.length ≤ byteLength cs := by
  induction cs with
  | nil => exact Nat.le_refl 0
  | cons c cs ih =>
    have hpos : 0 < c.utf8Size := c.utf8Size_pos
    rw [byteLength, List.length_cons]
    omega

/-- Only ASCII texts have no more bytes than characters. -/
theorem utf8Size_eq_one_of_byteLength_le (h : byteLength cs ≤ cs.length) :
    ∀ c ∈ cs, c.utf8Size = 1 := by
  induction cs with
  | nil => exact List.forall_mem_nil _
  | cons c cs ih =>
    have hpos : 0 < c.utf8Size := c.utf8Size_pos
    have hle := length_le_byteLength cs
    rw [byteLength, List.length_cons] at h
    exact List.forall_mem_cons.mpr ⟨by omega, ih (by omega)⟩

theorem utf8Size_of_isAsciiDigit (h : isAsciiDigit c = true) : c.utf8Size = 1 := by
  rw [isAsciiDigit, Bool.and_eq_true, decide_eq_true_eq, decide_eq_true_eq] at h
  exact Char.utf8Size_eq_one_iff.mpr (UInt32.le_trans h.2 (by decide))

/-! ### Divisions -/

/-- A text can be divided behind its first `n` bytes. -/
def EndsAt (n : Nat) (cs : List Char) : Prop := ∃ a b, cs = a ++ b ∧ byteLength a = n

theorem endsAt_one_cons : EndsAt 1 (c :: cs) ↔ c.utf8Size = 1 := by
  have hpos : 0 < c.utf8Size := c.utf8Size_pos
  constructor
  · rintro ⟨a, b, h, hlen⟩
    cases a with
    | nil => exact nomatch hlen
    | cons d a =>
      obtain ⟨rfl, -⟩ := List.cons_eq_cons.mp h
      rw [byteLength] at hlen
      omega
  · intro h
    exact ⟨[c], cs, rfl, by rw [byteLength, byteLength, h]⟩

/-- A text can be divided anywhere behind ASCII characters. -/
theorem endsAt_append (h : ∀ c ∈ cs, c.utf8Size = 1) (hn : n ≤ cs.length) :
    EndsAt n (cs ++ ds) := by
  refine ⟨cs.take n, cs.drop n ++ ds, ?_, ?_⟩
  · rw [← List.append_assoc, List.take_append_drop]
  · rw [byteLength_eq_length fun c hc => h c (List.mem_of_mem_take hc), List.length_take,
      Nat.min_eq_left hn]

end InvoiceFields.Text
