import InvoiceFields.Proofs.TaxId.CanonicalForm

/-!
# Identifiers of one party

Identifiers with a canonical form that is not empty fall into classes, one for each party, and every
comparison of identifiers asks whether two of them are in one class (`same_identity`). A canonical
form stands for its identifier on either side of a comparison (`same_normalize`).
-/

namespace InvoiceFields.TaxId

/-! ### The relation -/

/-- A text that denotes a party. -/
abbrev Identifying : Type := { raw : String // normalize raw ≠ "" }

theorem same_eq_false {a b : String} (h : normalize a = "" ∨ normalize b = "") :
    same a b = false := by
  rw [← Bool.not_eq_true, same_eq_true]
  rintro ⟨hne, heq⟩
  rcases h with h | h
  · exact hne h
  · exact hne (heq.trans h)

/-- Texts that denote parties denote one party if their canonical forms are equal. -/
theorem Identifying.same_iff {a b : Identifying} :
    same a.1 b.1 = true ↔ normalize a.1 = normalize b.1 :=
  same_eq_true.trans (and_iff_right a.2)

theorem same_equivalence : Equivalence fun a b : Identifying => same a.1 b.1 = true where
  refl _ := Identifying.same_iff.mpr rfl
  symm h := Identifying.same_iff.mpr (Identifying.same_iff.mp h).symm
  trans h h' := Identifying.same_iff.mpr
    ((Identifying.same_iff.mp h).trans (Identifying.same_iff.mp h'))

/-- It does not matter which sides of a comparison are canonical already. -/
theorem same_normalize (a b : String) :
    same (normalize a) b = same a b ∧ same a (normalize b) = same a b := by
  refine ⟨?_, same_normalize_right a b⟩
  rw [same, same, normalize_normalize]

/-! ### The main statement -/

/-- **One identity.** A canonical form is canonical itself. On texts with a canonical form that is
not empty, denoting the same party is an equivalence, and other texts denote none; on either side a
canonical form may stand for its identifier. Whether an identifier is the receiver's, and whether a
search that excludes an identifier leaves it out, are this same relation. -/
theorem same_identity :
    (∀ raw, normalize (normalize raw) = normalize raw) ∧
    Equivalence (fun a b : Identifying => same a.1 b.1 = true) ∧
    (∀ a b, normalize a = "" ∨ normalize b = "" → same a b = false) ∧
    (∀ a b, same (normalize a) b = same a b ∧ same a (normalize b) = same a b) ∧
    ∀ a b (settings : Settings) (validated : Bool),
      { settings with receiver := some a }.isReceiver b = same a b ∧
      (Search.excluding validated (some a)).excludes b = same a b :=
  ⟨normalize_normalize, same_equivalence, fun _ _ => same_eq_false, same_normalize,
    fun a b _ validated => ⟨rfl, excludes_excluding validated (some a) b⟩⟩

/-- A sharp s has two capitals, the first of which ends a country here. Without letters and digits
nothing is left to denote a party. -/
theorem same_identity_sharp_s :
    normalize "eß1234567-8" = "S12345678" ∧ normalize "- ./" = "" ∧ same "- ./" "- ./" = false ∧
      Settings.isReceiver { Settings.standard with receiver := some "eß1234567-8" } "S 12345678" =
        same "eß1234567-8" "S 12345678" ∧
      same "eß1234567-8" "S 12345678" = true := by
  have hempty : normalize "- ./" = "" := by decide +kernel
  obtain ⟨-, -, hnone, -, hagree⟩ := same_identity
  exact ⟨by decide +kernel, hempty, hnone _ _ (.inl hempty),
    (hagree "eß1234567-8" "S 12345678" .standard true).1, by decide +kernel⟩

end InvoiceFields.TaxId
