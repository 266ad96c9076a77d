import InvoiceFields.Proofs.Decimal.Pointed
import InvoiceFields.Proofs.TaxId.Control
import InvoiceFields.Proofs.TaxId.Token
import Mathlib.Data.Nat.ModEq

/-!
# Checksums

A `Body` is an identifier without its control character, and `controls` are the control characters
that go with it. They are chosen by the number modulo 23, or by a weighted sum of its digits modulo
10; one digit more or less makes a different remainder, since 23 has no factor in common with ten
and doubling permutes the digits. So bodies that differ in one character have no control character
in common (`disjoint_controls`).
-/

namespace InvoiceFields.TaxId

open Text (isAsciiDigit digitValue digitsValue digitChar)

variable {number left right body : List Char} {c d d' kind : Char}

/-! ### Bodies -/

/-- A number of ASCII digits. -/
def IsAsciiNumber (n : Nat) (ds : List Char) : Prop :=
  ds.length = n ∧ ∀ d ∈ ds, isAsciiDigit d = true

theorem IsAsciiNumber.isNumber {n : Nat} (h : IsAsciiNumber n number) : IsNumber n number :=
  ⟨h.1, fun d hd => Text.isDecimalDigit_of_isAsciiDigit (h.2 d hd)⟩

/-- An identifier without its control character: the number of a person, or the letter and the
number of a company or a foreigner. -/
inductive Body : List Char → Prop
  | person {number : List Char} (hnumber : IsAsciiNumber 8 number) : Body number
  | company {kind : Char} {number : List Char} (hkind : isCompanyKind kind = true)
      (hnumber : IsAsciiNumber 7 number) : Body (kind :: number)
  | foreigner {kind : Char} {number : List Char} (hkind : isForeignerKind kind = true)
      (hnumber : IsAsciiNumber 7 number) : Body (kind :: number)

/-- The control letter of persons for a remainder modulo 23. -/
def personControls (remainder : Nat) : List Char := personLetters[remainder]?.toList

/-- The control characters of companies for a control digit. -/
def companyControls (kind : Char) (digit : Nat) : List Char :=
  if "ABEH".toList.contains kind then [digitChar digit]
  else if "NPQRSW".toList.contains kind then companyLetters[digit]?.toList
  else digitChar digit :: companyLetters[digit]?.toList

/-- The control characters that go with a body. -/
def controls : List Char → List Char
  | [] => []
  | kind :: number =>
    if isAsciiDigit kind then personControls (digitsValue (kind :: number) % 23)
    else match foreignerDigit? kind with
      | some digit => personControls (digitsValue (digit :: number) % 23)
      | none => companyControls kind (companyDigit number)

/-! ### Remainders -/

/-- Another digit makes another number modulo 23. -/
theorem digitsValue_mod_ne (left : List Char) (hd : isAsciiDigit d = true)
    (hd' : isAsciiDigit d' = true) (hne : d ≠ d') :
    digitsValue (left ++ d :: right) % 23 ≠ digitsValue (left ++ d' :: right) % 23 := by
  intro h
  have hvalue : ∀ c, digitsValue (left ++ c :: right) =
      digitsValue left * tenTo (right.length + 1) +
        (digitsValue [c] * tenTo right.length + digitsValue right) := by
    intro c
    rw [Decimal.digitsValue_append, List.length_cons, ← List.singleton_append,
      Decimal.digitsValue_append [c]]
  rw [hvalue, hvalue] at h
  have hsame : digitsValue [d] * tenTo right.length ≡
      digitsValue [d'] * tenTo right.length [MOD 23] :=
    Nat.ModEq.add_right_cancel' _ (Nat.ModEq.add_left_cancel' _ h)
  have hcoprime : Nat.Coprime 23 (tenTo right.length) :=
    Nat.Coprime.pow_right _ (by decide)
  have hdigit : digitsValue [d] % 23 = digitsValue [d'] % 23 :=
    Nat.ModEq.cancel_right_of_coprime hcoprime hsame
  obtain ⟨hlow, hhigh⟩ := Text.isAsciiDigit_iff.mp hd
  obtain ⟨hlow', hhigh'⟩ := Text.isAsciiDigit_iff.mp hd'
  have hone : ∀ c, digitsValue [c] = c.toNat - 48 := fun c => Nat.zero_add _
  rw [hone, hone] at hdigit
  exact hne (Char.toNat_inj.mp (by omega))

/-- What a digit adds to a weighted sum. -/
def weigh (doubled : Bool) (d : Nat) : Nat := if doubled then 2 * d / 10 + 2 * d % 10 else d

/-- Digits add different amounts, doubled or not. -/
theorem weigh_injective : ∀ doubled, ∀ d < 10, ∀ d' < 10,
    weigh doubled d % 10 = weigh doubled d' % 10 → d = d' := by decide

/-- A digit adds its weight, whatever the other digits. -/
theorem exists_weightedSum_append (right : List Nat) : ∀ (left : List Nat) (doubled : Bool),
    ∃ doubled' rest, ∀ d, weightedSum doubled (left ++ d :: right) = weigh doubled' d + rest
  | [], true => ⟨true, weightedSum false right, fun _ => rfl⟩
  | [], false => ⟨false, weightedSum true right, fun _ => rfl⟩
  | e :: left, doubled => by
    obtain ⟨doubled', rest, hrest⟩ := exists_weightedSum_append right left (!doubled)
    refine ⟨doubled', weigh doubled e + rest, fun d => ?_⟩
    rw [Nat.add_left_comm, ← hrest d]
    cases doubled <;> rfl

theorem companyDigit_lt (ds : List Char) : companyDigit ds < 10 := Nat.mod_lt _ (by decide)

/-- Another digit makes another control digit. -/
theorem companyDigit_ne (hd : isAsciiDigit d = true) (hd' : isAsciiDigit d' = true)
    (hne : d ≠ d') : companyDigit (left ++ d :: right) ≠ companyDigit (left ++ d' :: right) := by
  intro h
  obtain ⟨doubled, rest, hsum⟩ :=
    exists_weightedSum_append (right.map digitValue) (left.map digitValue) true
  simp only [companyDigit, List.map_append, List.map_cons, hsum] at h
  obtain ⟨hlow, hhigh⟩ := Text.isAsciiDigit_iff.mp hd
  obtain ⟨hlow', hhigh'⟩ := Text.isAsciiDigit_iff.mp hd'
  have hvalue : ∀ c, digitValue c = c.toNat - 48 := fun _ => rfl
  have hsame : digitValue d = digitValue d' :=
    weigh_injective doubled _ (by rw [hvalue]; omega) _ (by rw [hvalue]; omega) (by omega)
  rw [hvalue, hvalue] at hsame
  exact hne (Char.toNat_inj.mp (by omega))

/-! ### Tables -/

/-- A control letter of persons stands for one remainder. -/
theorem eq_of_mem_personControls {m n : Nat} {c : Char} (hm : c ∈ personControls m)
    (hn : c ∈ personControls n) : m = n := by
  have hnodup : personLetters.Nodup := by decide
  rw [personControls, Option.mem_toList] at hm hn
  obtain ⟨hlt, -⟩ := List.getElem?_eq_some_iff.mp hm
  exact (List.getElem?_inj hlt hnodup).mp (hm.trans hn.symm)

/-- The control character of a company is its control digit or the letter for it. -/
theorem mem_of_mem_companyControls {n : Nat} {c : Char} (h : c ∈ companyControls kind n) :
    c ∈ digitChar n :: companyLetters[n]?.toList := by
  rw [companyControls] at h
  split at h
  · exact List.mem_cons.mpr (.inl (List.mem_singleton.mp h))
  · split at h
    · exact List.mem_cons_of_mem _ h
    · exact h

/-- A control character of companies stands for one control digit. -/
theorem eq_of_mem_companyControls {m n : Nat} {c : Char} (hm : m < 10) (hn : n < 10)
    (hcm : c ∈ companyControls kind m) (hcn : c ∈ companyControls kind n) : m = n := by
  have hapart : ∀ m < 10, ∀ n < 10, ∀ c ∈ digitChar m :: companyLetters[m]?.toList,
      c ∈ digitChar n :: companyLetters[n]?.toList → m = n := by decide
  exact hapart m hm n hn c (mem_of_mem_companyControls hcm) (mem_of_mem_companyControls hcn)

theorem isCapital_of_mem_personControls {n : Nat} (h : c ∈ personControls n) :
    isCapital c = true := by
  have hletters : ∀ c ∈ personLetters, isCapital c = true := by decide
  exact hletters c (List.mem_of_getElem? (Option.mem_toList.mp h))

theorem isCompanyControl_of_mem_companyControls {n : Nat} (hn : n < 10)
    (h : c ∈ companyControls kind n) : isCompanyControl c = true := by
  have hmarks : ∀ n < 10, ∀ c ∈ digitChar n :: companyLetters[n]?.toList,
      isCompanyControl c = true := by decide
  exact hmarks n hn c (mem_of_mem_companyControls h)

/-- Control characters are ASCII digits or capitals. -/
theorem isAsciiDigit_or_isCapital_of_mem_controls (h : c ∈ controls body) :
    isAsciiDigit c = true ∨ isCapital c = true := by
  cases body with
  | nil => exact nomatch h
  | cons kind number =>
    rw [controls] at h
    split at h
    case isTrue => exact .inr (isCapital_of_mem_personControls h)
    case isFalse =>
      split at h
      case h_1 => exact .inr (isCapital_of_mem_personControls h)
      case h_2 =>
        exact isCapital_of_isCompanyControl
          (isCompanyControl_of_mem_companyControls (companyDigit_lt _) h)

/-! ### Letters in front -/

theorem isAsciiDigit_of_isCapital {c : Char} (h : isCapital c = true) : isAsciiDigit c = false := by
  refine Bool.eq_false_iff.mpr fun hdigit => ?_
  have hdecimal := isDecimalDigit_of_isCapital h
  rw [Text.isDecimalDigit_of_isAsciiDigit hdigit] at hdecimal
  exact nomatch hdecimal

/-- The letter of a foreigner stands for a digit of its own. -/
theorem exists_foreignerDigit {kind : Char} (h : isForeignerKind kind = true) :
    ∃ digit, foreignerDigit? kind = some digit ∧ isAsciiDigit digit = true := by
  have hkinds : ∀ kind ∈ "XYZ".toList,
      (foreignerDigit? kind).any isAsciiDigit = true := by decide
  exact (Option.any_eq_true _ _).mp (hkinds kind (List.contains_iff_mem.mp h))

theorem foreignerDigit?_inj {kind kind' digit : Char} (h : foreignerDigit? kind = some digit)
    (h' : foreignerDigit? kind' = some digit) : kind = kind' := by
  simp only [foreignerDigit?] at h h'
  grind

theorem foreignerDigit?_of_isCompanyKind {kind : Char} (h : isCompanyKind kind = true) :
    foreignerDigit? kind = none := by
  have hkinds : ∀ kind ∈ "ABCDEFGHJNPQRSUVW".toList, foreignerDigit? kind = none := by decide
  exact hkinds kind (List.contains_iff_mem.mp h)

theorem controls_of_isForeignerKind {digit : Char} (hkind : isForeignerKind kind = true)
    (hdigit : foreignerDigit? kind = some digit) :
    controls (kind :: number) = personControls (digitsValue (digit :: number) % 23) := by
  rw [controls, isAsciiDigit_of_isCapital (isCapital_of_isForeignerKind hkind), hdigit]
  rfl

theorem controls_of_isCompanyKind (hkind : isCompanyKind kind = true) :
    controls (kind :: number) = companyControls kind (companyDigit number) := by
  rw [controls, isAsciiDigit_of_isCapital (isCapital_of_isCompanyKind hkind),
    foreignerDigit?_of_isCompanyKind hkind]
  rfl

theorem controls_person (h : IsAsciiNumber 8 number) :
    controls number = personControls (digitsValue number % 23) := by
  obtain ⟨d, ds, rfl⟩ := List.exists_cons_of_length_eq_add_one h.1
  rw [controls, h.2 d List.mem_cons_self]
  rfl

/-! ### One wrong character -/

/-- Bodies that differ in one digit have no control character in common. -/
theorem disjoint_controls (hd : isAsciiDigit d = true) (hd' : isAsciiDigit d' = true)
    (hne : d ≠ d') : (controls (left ++ d :: right)).Disjoint (controls (left ++ d' :: right)) := by
  intro c hc hc'
  cases left with
  | nil =>
    -- the first digit of a person's number
    simp only [List.nil_append, controls, hd, hd', if_true] at hc hc'
    exact digitsValue_mod_ne [] hd hd' hne (eq_of_mem_personControls hc hc')
  | cons kind left =>
    rw [List.cons_append, controls] at hc hc'
    split at hc
    case isTrue hkind =>
      rw [if_pos hkind] at hc'
      exact digitsValue_mod_ne (kind :: left) hd hd' hne (eq_of_mem_personControls hc hc')
    case isFalse hkind =>
      rw [if_neg hkind] at hc'
      split at hc
      case h_1 digit hdigit =>
        rw [hdigit] at hc'
        exact digitsValue_mod_ne (digit :: left) hd hd' hne (eq_of_mem_personControls hc hc')
      case h_2 hdigit =>
        rw [hdigit] at hc'
        exact companyDigit_ne hd hd' hne (eq_of_mem_companyControls (companyDigit_lt _)
          (companyDigit_lt _) hc hc')

/-- Bodies that differ in the letter of a foreigner have no control character in common. -/
theorem disjoint_controls_letter {kind' : Char} (hkind : isForeignerKind kind = true)
    (hkind' : isForeignerKind kind' = true) (hne : kind ≠ kind') :
    (controls (kind :: number)).Disjoint (controls (kind' :: number)) := by
  intro c hc hc'
  obtain ⟨digit, hdigit, hascii⟩ := exists_foreignerDigit hkind
  obtain ⟨digit', hdigit', hascii'⟩ := exists_foreignerDigit hkind'
  rw [controls_of_isForeignerKind hkind hdigit] at hc
  rw [controls_of_isForeignerKind hkind' hdigit'] at hc'
  have hdigits : digit ≠ digit' := by
    rintro rfl
    exact hne (foreignerDigit?_inj hdigit hdigit')
  exact digitsValue_mod_ne [] hascii hascii' hdigits (eq_of_mem_personControls hc hc')

/-! ### Checking -/

namespace Body

theorem length_eq (h : Body body) : body.length = 8 := by
  cases h with
  | person hnumber => exact hnumber.1
  | company _ hnumber | foreigner _ hnumber => exact congrArg (· + 1) hnumber.1

/-- A body has ASCII digits and capitals only. -/
theorem forall_mem (h : Body body) :
    ∀ c ∈ body, isAsciiDigit c = true ∨ isCapital c = true := by
  have hnumber : ∀ {n number}, IsAsciiNumber n number →
      ∀ c ∈ number, isAsciiDigit c = true ∨ isCapital c = true :=
    fun h c hc => .inl (h.2 c hc)
  cases h with
  | person h => exact hnumber h
  | company hkind h =>
    exact List.forall_mem_cons.mpr ⟨.inr (isCapital_of_isCompanyKind hkind), hnumber h⟩
  | foreigner hkind h =>
    exact List.forall_mem_cons.mpr ⟨.inr (isCapital_of_isForeignerKind hkind), hnumber h⟩

theorem utf8Size_eq (h : Body body) : ∀ c ∈ body, c.utf8Size = 1 := fun c hc =>
  (h.forall_mem c hc).elim Text.utf8Size_of_isAsciiDigit utf8Size_of_isCapital

/-- A body and a control character that goes with it are in the shape of an identifier. -/
theorem shaped {c : Char} (h : Body body) (hc : c ∈ controls body) : Shaped (body ++ [c]) := by
  cases h with
  | person hnumber =>
    rw [controls_person hnumber] at hc
    exact .person hnumber.isNumber (isCapital_of_mem_personControls hc)
  | foreigner hkind hnumber =>
    obtain ⟨digit, hdigit, -⟩ := exists_foreignerDigit hkind
    rw [controls_of_isForeignerKind hkind hdigit] at hc
    exact .foreigner hkind hnumber.isNumber (isCapital_of_mem_personControls hc)
  | company hkind hnumber =>
    rw [controls_of_isCompanyKind hkind] at hc
    exact .company hkind hnumber.isNumber
      (isCompanyControl_of_mem_companyControls (companyDigit_lt _) hc)

/-- A body with a control character that goes with it is canonical. -/
theorem normalizeChars_append (h : Body body) (hc : c ∈ controls body) :
    normalizeChars (body ++ [c]) = body ++ [c] := by
  have hchars : ∀ e ∈ body ++ [c], Text.isWordChar e = true ∧ Text.upperChar e = [e] := by
    intro e he
    have hkind : isAsciiDigit e = true ∨ isCapital e = true := by
      rcases List.mem_append.mp he with he | he
      · exact h.forall_mem e he
      · exact List.mem_singleton.mp he ▸ isAsciiDigit_or_isCapital_of_mem_controls hc
    rcases hkind with hdigit | hcapital
    · exact ⟨Text.isWordChar_of_isDecimalDigit (Text.isDecimalDigit_of_isAsciiDigit hdigit),
        Text.upperChar_of_isAsciiDigit hdigit⟩
    · exact ⟨isWordChar_of_isCapital hcapital,
        Text.upperChar_of_le (of_decide_eq_true (Bool.and_eq_true_iff.mp hcapital).2)⟩
  rw [normalizeChars, ← joined, joined_eq_self fun e he => (hchars e he).1,
    Text.upperChars_eq_self fun e he => (hchars e he).2, (h.shaped hc).dropCountry_eq]

/-- With a control character that goes with it a body has nine bytes. -/
theorem byteLength_append (h : Body body) (hc : c ∈ controls body) :
    Text.byteLength (body ++ [c]) = 9 := by
  rw [Text.byteLength_eq_length, List.length_append, h.length_eq, List.length_singleton]
  rw [List.forall_mem_append, List.forall_mem_singleton]
  exact ⟨h.utf8Size_eq, (isAsciiDigit_or_isCapital_of_mem_controls hc).elim
    Text.utf8Size_of_isAsciiDigit utf8Size_of_isCapital⟩

end Body

/-- A number of persons has its control letter only. -/
theorem personMatches_eq {c : Char} (hne : number ≠ [])
    (hnumber : ∀ d ∈ number, isAsciiDigit d = true) :
    personMatches number (some c) = (personControls (digitsValue number % 23)).contains c := by
  have hread : Text.readNat? number = some (digitsValue number) := by
    rw [Text.readNat?, List.all_eq_true.mpr hnumber, List.isEmpty_eq_false_iff.mpr hne]
    rfl
  rw [personMatches, hread, personControls, Bool.eq_iff_iff, List.contains_iff_mem,
    Option.mem_toList]
  exact beq_iff_eq

/-- A company has the control characters of its kind. -/
theorem companyMatches_eq {c : Char} (hnumber : IsAsciiNumber 7 number) :
    companyMatches kind number (some c) =
      (companyControls kind (companyDigit number)).contains c := by
  simp only [companyMatches, hnumber.1, List.all_eq_true.mpr hnumber.2, companyControls,
    decide_true, Bool.and_self, if_true]
  have hletter : (some c == companyLetters[companyDigit number]?) = true ↔
      c ∈ companyLetters[companyDigit number]?.toList :=
    beq_iff_eq.trans (eq_comm.trans Option.mem_toList.symm)
  rw [Bool.eq_iff_iff]
  split
  case isTrue => simp
  case isFalse =>
    split
    case isTrue => rw [List.contains_iff_mem, hletter]
    case isFalse => rw [List.contains_iff_mem, Bool.or_eq_true, hletter, List.mem_cons, beq_iff_eq,
      Option.some_inj]

/-- How an identifier is checked that can be divided behind its eighth byte. -/
private theorem checkControl_append {rest : List Char}
    (hlength : Text.byteLength (kind :: number) = 8) :
    checkControl (kind :: number ++ rest) =
      if isAsciiDigit kind then .ok (personMatches (kind :: number) rest.head?)
      else match foreignerDigit? kind with
        | some digit => .ok (personMatches (digit :: number) rest.head?)
        | none =>
          if kind.utf8Size = 1 then .ok (companyMatches kind number rest.head?)
          else .error .dividedCharacter := by
  have hsplit : splitAtByte? 8 (kind :: (number ++ rest)) = some (kind :: number, rest) :=
    splitAtByte?_eq_some.mpr ⟨rfl, hlength⟩
  rw [List.cons_append]
  unfold checkControl
  rw [hsplit]
  rfl

/-- A body with a control character is accepted exactly if the two go together. -/
theorem checkControl_body {c : Char} (h : Body body) :
    checkControl (body ++ [c]) = .ok ((controls body).contains c) := by
  have hlength : Text.byteLength body = 8 :=
    (Text.byteLength_eq_length h.utf8Size_eq).trans h.length_eq
  cases h with
  | person hnumber =>
    obtain ⟨d, ds, rfl⟩ := List.exists_cons_of_length_eq_add_one hnumber.1
    rw [checkControl_append hlength, if_pos (hnumber.2 d List.mem_cons_self),
      controls_person hnumber, ← personMatches_eq (List.cons_ne_nil d ds) hnumber.2]
    rfl
  | @foreigner kind number hkind hnumber =>
    obtain ⟨digit, hdigit, hascii⟩ := exists_foreignerDigit hkind
    have hdigits : ∀ d ∈ digit :: number, isAsciiDigit d = true :=
      List.forall_mem_cons.mpr ⟨hascii, hnumber.2⟩
    rw [checkControl_append hlength,
      isAsciiDigit_of_isCapital (isCapital_of_isForeignerKind hkind), hdigit,
      controls_of_isForeignerKind hkind hdigit,
      ← personMatches_eq (List.cons_ne_nil digit number) hdigits]
    rfl
  | @company kind number hkind hnumber =>
    have hcapital : isCapital kind = true := isCapital_of_isCompanyKind hkind
    rw [checkControl_append hlength, isAsciiDigit_of_isCapital hcapital,
      foreignerDigit?_of_isCompanyKind hkind, utf8Size_of_isCapital hcapital,
      controls_of_isCompanyKind hkind, ← companyMatches_eq hnumber]
    rfl

/-- An identifier whose canonical form is a body and one more character is accepted exactly if that
character is a control character of the body. -/
theorem validate_of_body {raw : String} {c : Char} (h : Body body)
    (hraw : normalizeChars raw.toList = body ++ [c]) :
    validate raw = .ok ((controls body).contains c) := by
  rw [validate, hraw, checkControl_body h]
  split
  case isTrue => rfl
  case isFalse hshape =>
    -- what is not in shape has no control character that goes with it
    cases hc : (controls body).contains c with
    | false => rfl
    | true =>
      have hshaped : Shaped (body ++ [c]) := h.shaped (List.contains_iff_mem.mp hc)
      rw [← hraw] at hshaped
      exact absurd (occursIn_taxIdCanonical.mpr hshaped) hshape

/-- What a number of persons is read from are ASCII digits. -/
private theorem forall_of_personMatches {control : Option Char}
    (h : personMatches number control = true) : ∀ d ∈ number, isAsciiDigit d = true := by
  rw [personMatches, Text.readNat?] at h
  split at h
  case h_1 n hn =>
    split at hn
    case isTrue hdigits => exact List.all_eq_true.mp (Bool.and_eq_true_iff.mp hdigits).2
    case isFalse => cases hn
  case h_2 => cases h

/-- What is accepted begins with a character of one byte and seven ASCII digits. -/
theorem exists_of_checkControl {cs : List Char} (h : checkControl cs = .ok true) :
    ∃ kind number rest, cs = kind :: number ++ rest ∧ kind.utf8Size = 1 ∧
      IsAsciiNumber 7 number := by
  cases hsplit : splitAtByte? 8 cs with
  | none => simp [checkControl, hsplit] at h
  | some parts =>
    obtain ⟨front, rest⟩ := parts
    obtain ⟨rfl, hlength⟩ := splitAtByte?_eq_some.mp hsplit
    cases front with
    | nil => cases hlength
    | cons kind number =>
      have hascii : kind.utf8Size = 1 ∧ ∀ d ∈ number, isAsciiDigit d = true := by
        rw [checkControl_append hlength] at h
        split at h
        case isTrue hkind =>
          have hdigits := forall_of_personMatches (Except.ok.inj h)
          exact ⟨Text.utf8Size_of_isAsciiDigit hkind, (List.forall_mem_cons.mp hdigits).2⟩
        case isFalse =>
          split at h
          case h_1 digit hdigit =>
            have hdigits := forall_of_personMatches (Except.ok.inj h)
            exact ⟨utf8Size_of_foreignerDigit? hdigit, (List.forall_mem_cons.mp hdigits).2⟩
          case h_2 =>
            split at h
            case isFalse => cases h
            case isTrue hsize =>
              refine ⟨hsize, ?_⟩
              replace h := Except.ok.inj h
              rw [companyMatches] at h
              split at h
              case isTrue hdigits => exact List.all_eq_true.mp (Bool.and_eq_true_iff.mp hdigits).2
              case isFalse => cases h
      obtain ⟨hsize, hdigits⟩ := hascii
      refine ⟨kind, number, rest, rfl, hsize, ?_, hdigits⟩
      have hbytes : Text.byteLength number = number.length :=
        Text.byteLength_eq_length fun d hd => Text.utf8Size_of_isAsciiDigit (hdigits d hd)
      rw [Text.byteLength, hsize, hbytes] at hlength
      omega

/-- The canonical form of an identifier that is accepted is a body and a control character that goes
with it. -/
theorem exists_body {raw : String} (h : validate raw = .ok true) :
    ∃ body c, normalizeChars raw.toList = body ++ [c] ∧ Body body ∧ c ∈ controls body := by
  have hshape : isTaxId raw = true := by
    rw [validate] at h
    split at h
    case isTrue hshape => exact hshape
    case isFalse => cases h
  have hshaped : Shaped (normalizeChars raw.toList) := occursIn_taxIdCanonical.mp hshape
  have hcheck : checkControl (normalizeChars raw.toList) = .ok true := by
    rwa [validate, if_pos hshape] at h
  obtain ⟨kind, number, rest, hraw, hsize, hnumber⟩ := exists_of_checkControl hcheck
  rw [hraw] at hshaped
  obtain ⟨c, rfl⟩ : ∃ c, rest = [c] := by
    have hlength := hshaped.length_eq
    rw [List.length_append, List.length_cons, hnumber.1] at hlength
    exact List.length_eq_one_iff.mp (by omega)
  have hbody : Body (kind :: number) := by
    generalize hcs : kind :: number ++ [c] = cs at hshaped
    cases hshaped with
    | company hkind =>
      obtain ⟨heq, -⟩ := List.append_inj' hcs rfl
      obtain ⟨rfl, rfl⟩ := List.cons.inj heq
      exact .company hkind hnumber
    | foreigner hkind =>
      obtain ⟨heq, -⟩ := List.append_inj' hcs rfl
      obtain ⟨rfl, rfl⟩ := List.cons.inj heq
      exact .foreigner hkind hnumber
    | person hdigits =>
      obtain ⟨rfl, -⟩ := List.append_inj' hcs rfl
      have hkind : Text.isDecimalDigit kind = true := hdigits.2 kind List.mem_cons_self
      exact .person ⟨hdigits.1, List.forall_mem_cons.mpr
        ⟨Text.isAsciiDigit_of_isDecimalDigit hkind hsize, hnumber.2⟩⟩
  refine ⟨kind :: number, c, hraw, hbody, List.contains_iff_mem.mp ?_⟩
  exact Except.ok.inj ((validate_of_body hbody hraw).symm.trans h)

end InvoiceFields.TaxId
