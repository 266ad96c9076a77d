import InvoiceFields.Settings
import InvoiceFields.Proofs.Text.Capitals

/-!
# The canonical form of a tax identifier

A canonical form is canonical itself (`normalize_normalize`): it has no separators left, its
letters are capitals, and a country that is removed leaves nine bytes, too few for another one.
Two identifiers denote the same party when their canonical forms are equal and not empty, and an
identifier is the receiver's exactly when a search for others leaves it out (`search_excludes`).
-/

namespace InvoiceFields

namespace TaxId

/-! ### Canonical form -/

/-- A character that a canonical form keeps as it is. -/
private def IsSettled (c : Char) : Prop := isSeparator c = false ∧ Text.upperChar c = [c]

private theorem toNat_lt_of_isSeparator {c : Char} (h : isSeparator c = true) : c.toNat < 0x41 := by
  simp only [isSeparator, Bool.or_eq_true, beq_iff_eq] at h
  rcases h with ((rfl | rfl) | rfl) | rfl <;> decide

private theorem isSettled_of_mem_upperChars {cs : List Char} {d : Char}
    (h : d ∈ Text.upperChars (cs.filter (!isSeparator ·))) : IsSettled d := by
  obtain ⟨c, hc, hd⟩ := List.mem_flatMap.mp h
  refine ⟨?_, Text.upperChar_of_mem hd⟩
  rw [List.mem_filter, Bool.not_eq_true'] at hc
  cases hsep : isSeparator d with
  | false => rfl
  | true =>
    rw [Text.eq_of_mem_upperChar hd (.inr (toNat_lt_of_isSeparator hsep)), hc.2] at hsep
    exact absurd hsep Bool.false_ne_true

/-- The characters of a text without the separators between them. -/
def joined (cs : List Char) : List Char := cs.filter (!isSeparator ·)

@[simp]
theorem joined_append (cs ds : List Char) : joined (cs ++ ds) = joined cs ++ joined ds :=
  List.filter_append cs ds

/-- The separators of a text are those of its capitals. -/
theorem joined_upperChars (cs : List Char) :
    joined (Text.upperChars cs) = Text.upperChars (joined cs) := by
  induction cs with
  | nil => rfl
  | cons c cs ih =>
    have hsplit : Text.upperChars (c :: cs) = Text.upperChars [c] ++ Text.upperChars cs :=
      @List.flatMap_append _ _ [c] cs Text.upperChar
    have hjoined : joined (c :: cs) = joined [c] ++ joined cs := joined_append [c] cs
    rw [hsplit, joined_append, ih, hjoined, Text.upperChars, Text.upperChars, Text.upperChars,
      List.flatMap_append]
    congr 1
    cases hc : isSeparator c with
    | true =>
      -- a separator is its own capital
      have hself : Text.upperChar c = [c] := by
        simp only [isSeparator, Bool.or_eq_true, beq_iff_eq] at hc
        rcases hc with ((rfl | rfl) | rfl) | rfl <;> decide +kernel
      have hdropped : joined [c] = [] := List.filter_cons_of_neg (by rw [hc]; decide)
      rw [List.flatMap_singleton, hself, hdropped]
      rfl
    | false =>
      have hkept : joined [c] = [c] := List.filter_cons_of_pos (by rw [hc]; rfl)
      rw [hkept]
      refine List.filter_eq_self.mpr fun d hd => ?_
      have hmem : d ∈ Text.upperChars (joined [c]) := by rwa [hkept]
      have hsettled : IsSettled d := isSettled_of_mem_upperChars hmem
      rw [hsettled.1]
      rfl

theorem normalizeChars_eq (cs : List Char) :
    normalizeChars cs = dropCountry (joined (Text.upperChars cs)) := by
  rw [joined_upperChars]
  rfl

private theorem upperChars_filter_of_isSettled {cs : List Char} (h : ∀ c ∈ cs, IsSettled c) :
    Text.upperChars (cs.filter (!isSeparator ·)) = cs := by
  have hfilter : cs.filter (!isSeparator ·) = cs :=
    List.filter_eq_self.mpr fun c hc => by rw [(h c hc).1]; rfl
  rw [hfilter, Text.upperChars_eq_self fun c hc => (h c hc).2]

/-- A country is removed in front of nine bytes, or not at all. -/
theorem dropCountry_cases (cs : List Char) :
    dropCountry cs = cs ∨
      cs = 'E' :: 'S' :: dropCountry cs ∧ Text.byteLength (dropCountry cs) = 9 := by
  unfold dropCountry
  split
  case h_2 => exact .inl rfl
  case h_1 rest =>
    split
    case isTrue h => exact .inr ⟨rfl, h⟩
    case isFalse => exact .inl rfl

/-- Nine bytes are too few for another country and nine bytes behind it. -/
private theorem dropCountry_dropCountry (cs : List Char) :
    dropCountry (dropCountry cs) = dropCountry cs := by
  rcases dropCountry_cases cs with h | ⟨-, hnine⟩
  · rw [h, h]
  · rcases dropCountry_cases (dropCountry cs) with h | ⟨h, hnine'⟩
    · exact h
    · rw [h, Text.byteLength, Text.byteLength, hnine'] at hnine
      exact absurd hnine (by decide)

private theorem mem_of_mem_dropCountry {cs : List Char} {c : Char} (h : c ∈ dropCountry cs) :
    c ∈ cs := by
  rcases dropCountry_cases cs with heq | ⟨heq, -⟩
  · rwa [heq] at h
  · rw [heq]
    exact List.mem_cons_of_mem _ (List.mem_cons_of_mem _ h)

theorem normalizeChars_normalizeChars (cs : List Char) :
    normalizeChars (normalizeChars cs) = normalizeChars cs := by
  -- nothing is left for the first two steps to change, so only a country could go again
  have hsettled : ∀ c ∈ normalizeChars cs, IsSettled c := fun c hc =>
    isSettled_of_mem_upperChars (mem_of_mem_dropCountry hc)
  rw [normalizeChars, upperChars_filter_of_isSettled hsettled]
  exact dropCountry_dropCountry _

/-- A canonical form is written in capitals. -/
theorem upperChars_normalizeChars (cs : List Char) :
    Text.upperChars (normalizeChars cs) = normalizeChars cs :=
  Text.upperChars_eq_self fun _ hc => (isSettled_of_mem_upperChars (mem_of_mem_dropCountry hc)).2

theorem toList_normalize (raw : String) :
    (normalize raw).toList = normalizeChars raw.toList := by
  rw [normalize, String.toList_ofList]

/-- A canonical form is canonical itself. -/
theorem normalize_normalize (raw : String) : normalize (normalize raw) = normalize raw := by
  rw [normalize, toList_normalize, normalizeChars_normalizeChars, normalize]

/-- The digits of a canonical form are digits of the text it is made of. -/
theorem mem_of_mem_normalizeChars {cs : List Char} {d : Char} (h : d ∈ normalizeChars cs)
    (hd : Text.isDecimalDigit d = true) : d ∈ cs :=
  (List.mem_filter.mp (Text.mem_of_mem_upperChars (mem_of_mem_dropCountry h) hd)).1

/-- There are blanks in a canonical form only if there are some in the text it is made of. -/
theorem isBlank_of_mem_normalizeChars {cs : List Char} {d : Char}
    (h : ∀ c ∈ cs, Text.isBlank c = false) (hd : d ∈ normalizeChars cs) :
    Text.isBlank d = false :=
  Text.isBlank_of_mem_upperChars (fun c hc => h c (List.mem_filter.mp hc).1)
    (mem_of_mem_dropCountry hd)

/-! ### One party under several spellings -/

theorem same_eq_true {a b : String} :
    same a b = true ↔ normalize a ≠ "" ∧ normalize a = normalize b := by
  simp [same]

theorem same_normalize_right (a b : String) : same a (normalize b) = same a b := by
  rw [same, same, normalize_normalize]

/-- A search that leaves out an identifier leaves out all that denote the same party. -/
theorem excludes_excluding (validated : Bool) (excluded : Option String) (id : String) :
    (Search.excluding validated excluded).excludes id = excluded.any (same · id) := by
  rw [Search.excluding, Search.excludes]
  cases excluded with
  | none => rfl
  | some e =>
    rw [Option.map_some, Option.any_some, same]
    cases hempty : (normalize e).isEmpty with
    | true => simp [Option.filter, hempty]
    | false => simp [Option.filter, hempty, Bool.beq_comm]

end TaxId

namespace Settings

variable {settings : Settings} {id id' : String}

theorem isReceiver_eq_true :
    settings.isReceiver id = true ↔ ∃ r, settings.receiver = some r ∧ TaxId.same r id = true := by
  rw [isReceiver, Option.any_eq_true]

/-- An identifier is the receiver's in every spelling or in none. -/
theorem isReceiver_congr (h : TaxId.normalize id = TaxId.normalize id') :
    settings.isReceiver id = settings.isReceiver id' := by
  simp only [isReceiver, TaxId.same, h]

/-- The search for identifiers other than the receiver's leaves out exactly the receiver's. -/
theorem search_excludes (settings : Settings) (id : String) :
    settings.search.excludes id = settings.isReceiver id :=
  TaxId.excludes_excluding settings.validated settings.receiver id

end Settings

end InvoiceFields
