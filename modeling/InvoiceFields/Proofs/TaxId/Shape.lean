import InvoiceFields.Proofs.Pattern.Language
import InvoiceFields.Proofs.TaxId.Search
import InvoiceFields.Proofs.Text.Blanks

/-!
# The shape of a tax identifier

The pattern of canonical identifiers takes exactly the texts that are `Shaped`: a company's, a
person's or a foreigner's. They have nine characters, of which only the digits need not be ASCII;
so a text whose digits are ASCII can be divided behind each of its characters, and checking its
control character does not break down (`not_divided`).
-/

namespace InvoiceFields.TaxId

open Pattern (Recognizes recognizes_one recognizes_times_one)

variable {cs : List Char}

/-- The first letters of companies. -/
def isCompanyKind (c : Char) : Bool := "ABCDEFGHJNPQRSUVW".toList.contains c

/-- The first letters of foreigners. -/
def isForeignerKind (c : Char) : Bool := "XYZ".toList.contains c

/-- Whether a character is one of `A` to `Z`. -/
def isCapital (c : Char) : Bool := decide ('A' ≤ c) && decide (c ≤ 'Z')

/-- The control characters of companies. -/
def isCompanyControl (c : Char) : Bool :=
  Text.isAsciiDigit c || (decide ('A' ≤ c) && decide (c ≤ 'J'))

/-- A number of digits of any script. -/
def IsNumber (n : Nat) (ds : List Char) : Prop :=
  ds.length = n ∧ ∀ d ∈ ds, Text.isDecimalDigit d = true

/-- The texts in the shape of an identifier. -/
inductive Shaped : List Char → Prop
  | company {kind control : Char} {number : List Char} (hkind : isCompanyKind kind = true)
      (hnumber : IsNumber 7 number) (hcontrol : isCompanyControl control = true) :
      Shaped (kind :: number ++ [control])
  | person {control : Char} {number : List Char} (hnumber : IsNumber 8 number)
      (hcontrol : isCapital control = true) : Shaped (number ++ [control])
  | foreigner {kind control : Char} {number : List Char} (hkind : isForeignerKind kind = true)
      (hnumber : IsNumber 7 number) (hcontrol : isCapital control = true) :
      Shaped (kind :: number ++ [control])

/-! ### The pattern -/

/-- The texts of a letter, seven digits and a control character. -/
private theorem recognizes_kindNumberControl (kinds controls : Char → Bool) :
    (Pattern.sequence [.one kinds, .times Pattern.digit 7, .one controls]).Recognizes fun cs =>
      ∃ kind number control, kinds kind = true ∧ IsNumber 7 number ∧ controls control = true ∧
        cs = kind :: number ++ [control] := by
  have hdigits : (Pattern.times Pattern.digit 7).Recognizes (IsNumber 7) := recognizes_times_one
  refine (recognizes_one.sequence (hdigits.sequence recognizes_one.sequence_singleton)).congr
    fun cs => ?_
  constructor
  · rintro ⟨_, _, ⟨kind, hkind, rfl⟩, ⟨number, _, hnumber, ⟨control, hcontrol, rfl⟩, rfl⟩, rfl⟩
    exact ⟨kind, number, control, hkind, hnumber, hcontrol, rfl⟩
  · rintro ⟨kind, number, control, hkind, hnumber, hcontrol, rfl⟩
    exact ⟨[kind], _, ⟨kind, hkind, rfl⟩, ⟨number, _, hnumber, ⟨control, hcontrol, rfl⟩, rfl⟩, rfl⟩

/-- Between the start and the end of a text the pattern takes the texts of the shape. -/
private theorem recognizes_shaped : (Pattern.choice [
    .sequence [Pattern.companyLetter, .times Pattern.digit 7, Pattern.companyControl],
    .sequence [.times Pattern.digit 8, Pattern.capital],
    .sequence [Pattern.foreignerLetter, .times Pattern.digit 7, Pattern.capital]]).Recognizes
      Shaped := by
  have hdigits : (Pattern.times Pattern.digit 8).Recognizes (IsNumber 8) := recognizes_times_one
  have hperson : (Pattern.sequence [.times Pattern.digit 8, Pattern.capital]).Recognizes _ :=
    hdigits.sequence recognizes_one.sequence_singleton
  refine (Recognizes.choice (recognizes_kindNumberControl isCompanyKind isCompanyControl)
    (hperson.choice
      (recognizes_kindNumberControl isForeignerKind isCapital).choice_singleton)).congr fun cs => ?_
  constructor
  · rintro (⟨kind, number, control, hkind, hnumber, hcontrol, rfl⟩ |
      ⟨number, _, hnumber, ⟨control, hcontrol, rfl⟩, rfl⟩ |
      ⟨kind, number, control, hkind, hnumber, hcontrol, rfl⟩)
    · exact .company hkind hnumber hcontrol
    · exact .person hnumber hcontrol
    · exact .foreigner hkind hnumber hcontrol
  · intro hshaped
    cases hshaped with
    | company hkind hnumber hcontrol => exact .inl ⟨_, _, _, hkind, hnumber, hcontrol, rfl⟩
    | person hnumber hcontrol => exact .inr (.inl ⟨_, _, hnumber, ⟨_, hcontrol, rfl⟩, rfl⟩)
    | foreigner hkind hnumber hcontrol =>
      exact .inr (.inr ⟨_, _, _, hkind, hnumber, hcontrol, rfl⟩)

/-- An identifier has nine characters. -/
theorem Shaped.length_eq (h : Shaped cs) : cs.length = 9 := by
  cases h with
  | company _ hnumber | foreigner _ hnumber => simp [hnumber.1]
  | person hnumber => simp [hnumber.1]

/-- The second character of an identifier is a digit. -/
theorem Shaped.exists_second (h : Shaped cs) :
    ∃ c d rest, cs = c :: d :: rest ∧ Text.isDecimalDigit d = true := by
  have hsecond : ∀ {n : Nat} {number : List Char}, IsNumber (n + 1) number → ∀ rest,
      ∃ d rest', number ++ rest = d :: rest' ∧ Text.isDecimalDigit d = true := by
    intro n number hnumber rest
    obtain ⟨d, ds, rfl⟩ := List.exists_cons_of_length_eq_add_one hnumber.1
    exact ⟨d, ds ++ rest, rfl, hnumber.2 d List.mem_cons_self⟩
  cases h with
  | @company kind control number _ hnumber | @foreigner kind control number _ hnumber =>
    obtain ⟨d, rest, hrest, hd⟩ := hsecond hnumber [control]
    exact ⟨kind, d, rest, congrArg (kind :: ·) hrest, hd⟩
  | @person control number hnumber =>
    obtain ⟨c, number, rfl⟩ := List.exists_cons_of_length_eq_add_one hnumber.1
    have hrest : IsNumber 7 number :=
      ⟨Nat.succ.inj hnumber.1, fun d hd => hnumber.2 d (List.mem_cons_of_mem _ hd)⟩
    obtain ⟨d, rest, hrest, hd⟩ := hsecond hrest [control]
    exact ⟨c, d, rest, congrArg (c :: ·) hrest, hd⟩

/-- The pattern of canonical identifiers occurs in the texts of their shape. -/
theorem occursIn_taxIdCanonical : Pattern.taxIdCanonical.occursIn cs = true ↔ Shaped cs :=
  Pattern.occursIn_anchored recognizes_shaped.sequence_singleton fun h => nomatch h.length_eq

/-! ### Division between characters -/

/-- The digits of a text are all ASCII. -/
def HasAsciiDigits (cs : List Char) : Prop :=
  ∀ c ∈ cs, Text.isDecimalDigit c = true → Text.isAsciiDigit c = true

instance (cs : List Char) : Decidable (HasAsciiDigits cs) :=
  List.decidableBAll (fun c => Text.isDecimalDigit c = true → Text.isAsciiDigit c = true) cs

theorem isCapital_of_isCompanyKind {c : Char} (h : isCompanyKind c = true) :
    isCapital c = true := by
  have hkinds : ∀ c ∈ "ABCDEFGHJNPQRSUVW".toList, isCapital c = true := by decide
  exact hkinds c (List.contains_iff_mem.mp h)

theorem isCapital_of_isForeignerKind {c : Char} (h : isForeignerKind c = true) :
    isCapital c = true := by
  have hkinds : ∀ c ∈ "XYZ".toList, isCapital c = true := by decide
  exact hkinds c (List.contains_iff_mem.mp h)

/-- The control character of a company is an ASCII digit or a capital. -/
theorem isCapital_of_isCompanyControl {c : Char} (h : isCompanyControl c = true) :
    Text.isAsciiDigit c = true ∨ isCapital c = true := by
  refine (Bool.or_eq_true_iff.mp h).imp_right fun hletter => ?_
  obtain ⟨hlow, hhigh⟩ := Bool.and_eq_true_iff.mp hletter
  have hlast : c ≤ 'Z' := Char.le_trans (of_decide_eq_true hhigh) (by decide)
  exact Bool.and_eq_true_iff.mpr ⟨hlow, decide_eq_true hlast⟩

theorem utf8Size_of_isCapital {c : Char} (h : isCapital c = true) : c.utf8Size = 1 := by
  have hhigh : c ≤ 'Z' := of_decide_eq_true (Bool.and_eq_true_iff.mp h).2
  exact Char.utf8Size_eq_one_iff.mpr (UInt32.le_trans hhigh (by decide))

/-- The characters of an identifier are capitals and digits. -/
theorem Shaped.forall_mem {P : Char → Prop} (hcapital : ∀ c, isCapital c = true → P c)
    (hdigit : ∀ c, Text.isDecimalDigit c = true → P c) (h : Shaped cs) : ∀ c ∈ cs, P c := by
  have hparts : ∀ {kind number : List Char} {control : Char} {n : Nat},
      (∀ c ∈ kind, isCapital c = true) → IsNumber n number →
      (Text.isAsciiDigit control = true ∨ isCapital control = true) →
      ∀ c ∈ kind ++ number ++ [control], P c := by
    intro kind number control n hkind hnumber hcontrol c hc
    rcases List.mem_append.mp hc with hc | hc
    · rcases List.mem_append.mp hc with hc | hc
      · exact hcapital c (hkind c hc)
      · exact hdigit c (hnumber.2 c hc)
    · rw [List.mem_singleton.mp hc]
      exact hcontrol.elim (fun h => hdigit _ (Text.isDecimalDigit_of_isAsciiDigit h)) (hcapital _)
  cases h with
  | company hkind hnumber hcontrol =>
    exact hparts (List.forall_mem_singleton.mpr (isCapital_of_isCompanyKind hkind)) hnumber
      (isCapital_of_isCompanyControl hcontrol)
  | person hnumber hcontrol =>
    exact hparts (List.forall_mem_nil _) hnumber (.inr hcontrol)
  | foreigner hkind hnumber hcontrol =>
    exact hparts (List.forall_mem_singleton.mpr (isCapital_of_isForeignerKind hkind)) hnumber
      (.inr hcontrol)

/-- The characters of an identifier are ASCII characters or digits. -/
theorem Shaped.utf8Size_eq (h : Shaped cs) :
    ∀ c ∈ cs, c.utf8Size = 1 ∨ Text.isDecimalDigit c = true :=
  h.forall_mem (fun _ hc => .inl (utf8Size_of_isCapital hc)) fun _ => .inr

/-- An identifier with ASCII digits has nine bytes. -/
theorem Shaped.byteLength_eq (h : Shaped cs) (hdigits : HasAsciiDigits cs) :
    Text.byteLength cs = 9 := by
  rw [Text.byteLength_eq_length fun c hc => ?_, h.length_eq]
  exact (h.utf8Size_eq c hc).elim id fun hdigit =>
    Text.utf8Size_of_isAsciiDigit (hdigits c hc hdigit)

/-- An identifier with ASCII digits can be divided in front of its control character. -/
theorem not_divided {raw : String} (h : HasAsciiDigits raw.toList) : ¬ Divided raw := by
  rintro ⟨hshape, hnot⟩
  have hshaped := occursIn_taxIdCanonical.mp hshape
  have hlength := hshaped.length_eq
  have hascii : ∀ c ∈ normalizeChars raw.toList, c.utf8Size = 1 := by
    intro c hc
    rcases hshaped.utf8Size_eq c hc with hsize | hdigit
    · exact hsize
    · exact Text.utf8Size_of_isAsciiDigit (h c (mem_of_mem_normalizeChars hc hdigit) hdigit)
  rw [← List.append_nil (normalizeChars raw.toList)] at hnot
  exact hnot ⟨Text.endsAt_append hascii (by omega), Text.endsAt_append hascii (by omega)⟩

/-- No identifier on a line with ASCII digits is divided. -/
theorem not_divided_of_mem_candidates {line id : String} (h : HasAsciiDigits line.toList)
    (hid : id ∈ candidates line) : ¬ Divided id := by
  obtain ⟨m, hm, rfl⟩ := List.mem_map.mp hid
  refine not_divided fun c hc hdigit => h c ?_ hdigit
  rw [toList_normalize] at hc
  have htext : c ∈ m.span.text.toList := mem_of_mem_normalizeChars hc hdigit
  exact Text.mem_of_mem_upperChars (Pattern.mem_of_mem_findAll hm htext) hdigit

end InvoiceFields.TaxId
