import InvoiceFields.Proofs.TaxId.Checksum

/-!
# Wrong characters

Whatever the spelling of an identifier that is accepted, it is rejected with one digit of its number
replaced by another one, or with another letter of a foreigner (`validate_mistaken`): the canonical
form then differs in this character only, in front of the same control character, and the two
bodies have no control character in common. What is accepted behind a body are its control
characters (`accepts_iff`).
-/

namespace InvoiceFields.TaxId

open Text (isAsciiDigit digitValue)

variable {number left right body before after cs : List Char} {c c' d d' u u' kind control : Char}

/-! ### Replaced characters -/

/-- Characters of which one may be written for the other in front of a control character: digits,
or letters of foreigners in any case. -/
inductive Mistakable : Char → Char → Prop
  | digit {d d' : Char} (hd : isAsciiDigit d = true) (hd' : isAsciiDigit d' = true)
      (hne : d ≠ d') : Mistakable d d'
  | letter {c c' kind kind' : Char} (hc : Text.upperChar c = [kind])
      (hc' : Text.upperChar c' = [kind']) (hkind : isForeignerKind kind = true)
      (hkind' : isForeignerKind kind' = true) (hne : kind ≠ kind') : Mistakable c c'

/-- A character that is no separator stands in a canonical form by its capital. -/
theorem normalizeChars_append_cons (hc : isSeparator c = false) (hu : Text.upperChar c = [u]) :
    normalizeChars (before ++ c :: after) =
      dropCountry (Text.upperChars (joined before) ++ u :: Text.upperChars (joined after)) := by
  have hcons : joined (c :: after) = c :: joined after :=
    List.filter_cons_of_pos (by rw [hc]; rfl)
  rw [normalizeChars, ← joined, joined_append, hcons, Text.upperChars, List.flatMap_append,
    List.flatMap_cons, hu]
  rfl

/-- Where nine bytes are left, another character of the same length does not change what is dropped
in front of it. -/
theorem exists_dropCountry_replaced {a b : List Char} (hE : u ≠ 'E') (hS : u ≠ 'S')
    (hnine : Text.byteLength (dropCountry (a ++ u :: b)) = 9) :
    ∃ front, dropCountry (a ++ u :: b) = front ++ u :: b ∧ ∀ u' : Char,
      u'.utf8Size = u.utf8Size → dropCountry (a ++ u' :: b) = front ++ u' :: b := by
  have hlength : ∀ (front : List Char) (u' : Char), u'.utf8Size = u.utf8Size →
      Text.byteLength (front ++ u' :: b) = Text.byteLength (front ++ u :: b) := by
    intro front u' hsize
    rw [Text.byteLength_append, Text.byteLength_append, Text.byteLength, Text.byteLength, hsize]
  rcases dropCountry_cases (a ++ u :: b) with hself | ⟨hcountry, -⟩
  · rw [hself] at hnine
    refine ⟨a, hself, fun u' hsize => ?_⟩
    rcases dropCountry_cases (a ++ u' :: b) with hself' | ⟨hcountry', hnine'⟩
    · exact hself'
    · -- with a country there would be more than nine bytes
      have htotal := hlength a u' hsize
      rw [hnine, hcountry', Text.byteLength, Text.byteLength, hnine'] at htotal
      exact absurd htotal (by decide)
  · rcases a with - | ⟨e, - | ⟨s, front⟩⟩
    · exact absurd (List.cons.inj hcountry).1 hE
    · exact absurd (List.cons.inj (List.cons.inj hcountry).2).1 hS
    · obtain ⟨rfl, hrest⟩ := List.cons.inj hcountry
      obtain ⟨rfl, hrest⟩ := List.cons.inj hrest
      refine ⟨front, hrest.symm, fun u' hsize => dropCountry_of_byteLength ?_⟩
      rw [← hrest] at hnine
      exact (hlength front u' hsize).trans hnine

theorem IsAsciiNumber.replaced {n : Nat} (h : IsAsciiNumber n (left ++ d :: right))
    (hd' : isAsciiDigit d' = true) : IsAsciiNumber n (left ++ d' :: right) := by
  obtain ⟨hlength, hdigits⟩ := h
  rw [List.forall_mem_append, List.forall_mem_cons] at hdigits
  refine ⟨by rw [← hlength]; simp, ?_⟩
  rw [List.forall_mem_append, List.forall_mem_cons]
  exact ⟨hdigits.1, hd', hdigits.2.2⟩

namespace Body

/-- With another digit a body is a body still. -/
theorem replaced (h : Body (left ++ d :: right)) (hd : isAsciiDigit d = true)
    (hd' : isAsciiDigit d' = true) : Body (left ++ d' :: right) := by
  generalize hbody : left ++ d :: right = body at h
  cases h with
  | person hnumber =>
    rw [← hbody] at hnumber
    exact .person (hnumber.replaced hd')
  | company hkind hnumber =>
    match left with
    | [] =>
      obtain ⟨rfl, -⟩ := List.cons.inj hbody
      exact nomatch hd.symm.trans (isAsciiDigit_of_isCapital (isCapital_of_isCompanyKind hkind))
    | _ :: left =>
      obtain ⟨rfl, rfl⟩ := List.cons.inj hbody
      exact .company hkind (hnumber.replaced hd')
  | foreigner hkind hnumber =>
    match left with
    | [] =>
      obtain ⟨rfl, -⟩ := List.cons.inj hbody
      exact nomatch hd.symm.trans (isAsciiDigit_of_isCapital (isCapital_of_isForeignerKind hkind))
    | _ :: left =>
      obtain ⟨rfl, rfl⟩ := List.cons.inj hbody
      exact .foreigner hkind (hnumber.replaced hd')

/-- The letter of a foreigner stands in front of the number. -/
theorem eq_nil_of_isForeignerKind (h : Body (left ++ kind :: right))
    (hkind : isForeignerKind kind = true) : left = [] ∧ IsAsciiNumber 7 right := by
  have hletter : isAsciiDigit kind = false :=
    isAsciiDigit_of_isCapital (isCapital_of_isForeignerKind hkind)
  have hnumber : ∀ {n} {left : List Char}, ¬ IsAsciiNumber n (left ++ kind :: right) := by
    intro n left h
    rw [h.2 kind (by simp)] at hletter
    exact nomatch hletter
  generalize hbody : left ++ kind :: right = body at h
  cases h with
  | person h =>
    rw [← hbody] at h
    exact absurd h hnumber
  | company hcompany h =>
    match left with
    | [] =>
      obtain ⟨rfl, -⟩ := List.cons.inj hbody
      obtain ⟨digit, hdigit, -⟩ := exists_foreignerDigit hkind
      exact nomatch hdigit.symm.trans (foreignerDigit?_of_isCompanyKind hcompany)
    | _ :: left =>
      obtain ⟨-, rfl⟩ := List.cons.inj hbody
      exact absurd h hnumber
  | foreigner _ h =>
    match left with
    | [] =>
      obtain ⟨-, rfl⟩ := List.cons.inj hbody
      exact ⟨rfl, h⟩
    | _ :: left =>
      obtain ⟨-, rfl⟩ := List.cons.inj hbody
      exact absurd h hnumber

end Body

/-- The capitals of digits or of letters of foreigners. -/
private theorem Mistakable.exists_capitals (h : Mistakable c c') :
    ∃ u u', Text.upperChar c = [u] ∧ Text.upperChar c' = [u'] ∧ u ≠ u' ∧
      (isAsciiDigit u = true ∧ isAsciiDigit u' = true ∨
        isForeignerKind u = true ∧ isForeignerKind u' = true) := by
  cases h with
  | digit hd hd' hne =>
    exact ⟨c, c', Text.upperChar_of_isAsciiDigit hd, Text.upperChar_of_isAsciiDigit hd', hne,
      .inl ⟨hd, hd'⟩⟩
  | letter hc hc' hkind hkind' hne => exact ⟨_, _, hc, hc', hne, .inr ⟨hkind, hkind'⟩⟩

/-- A character whose capital is a word character is no separator. -/
private theorem isSeparator_of_upperChar (hu : Text.upperChar c = [u])
    (hword : Text.isWordChar u = true) : isSeparator c = false := by
  refine Bool.eq_false_iff.mpr fun hc => ?_
  have hle : c ≤ 'Z' := by
    simp only [isSeparator, Bool.or_eq_true, beq_iff_eq] at hc
    rcases hc with ((rfl | rfl) | rfl) | rfl <;> decide
  obtain rfl : c = u := (List.cons.inj ((Text.upperChar_of_le hle).symm.trans hu)).1
  rw [isSeparator_of_isWordChar hword] at hc
  exact Bool.false_ne_true hc

/-- A digit or a letter of foreigners is a word character of one byte. -/
private theorem isWordChar_of_mistakable
    (h : isAsciiDigit u = true ∨ isForeignerKind u = true) :
    Text.isWordChar u = true ∧ u.utf8Size = 1 ∧ u ≠ 'E' ∧ u ≠ 'S' := by
  rcases h with hdigit | hkind
  · refine ⟨Text.isWordChar_of_isDecimalDigit (Text.isDecimalDigit_of_isAsciiDigit hdigit),
      Text.utf8Size_of_isAsciiDigit hdigit, ?_, ?_⟩ <;> rintro rfl <;> exact nomatch hdigit
  · have hcapital := isCapital_of_isForeignerKind hkind
    refine ⟨isWordChar_of_isCapital hcapital, utf8Size_of_isCapital hcapital, ?_, ?_⟩ <;>
      rintro rfl <;> exact nomatch hkind

/-- An identifier that is accepted is rejected with another character in front of its control
character: a digit for a digit, or the letter of a foreigner for another one. -/
theorem validate_mistaken (h : validate (String.ofList (before ++ c :: after)) = .ok true)
    (hafter : ∃ e ∈ after, isSeparator e = false) (hc : Mistakable c c') :
    validate (String.ofList (before ++ c' :: after)) = .ok false := by
  obtain ⟨body, control, hraw, hbody, hcontrol⟩ := exists_body h
  obtain ⟨u, u', hu, hu', hne, hcapitals⟩ := hc.exists_capitals
  obtain ⟨hword, hsize, hE, hS⟩ := isWordChar_of_mistakable (hcapitals.imp And.left And.left)
  obtain ⟨hword', hsize', -⟩ := isWordChar_of_mistakable (hcapitals.imp And.right And.right)
  rw [String.toList_ofList,
    normalizeChars_append_cons (isSeparator_of_upperChar hu hword) hu] at hraw
  obtain ⟨front, hfront, hreplaced⟩ := exists_dropCountry_replaced hE hS
    (hraw ▸ hbody.byteLength_append hcontrol)
  have hraw' : normalizeChars (String.ofList (before ++ c' :: after)).toList =
      front ++ u' :: Text.upperChars (joined after) := by
    rw [String.toList_ofList, normalizeChars_append_cons (isSeparator_of_upperChar hu' hword') hu']
    exact hreplaced u' (hsize'.trans hsize.symm)
  -- the control character stands behind the wrong one
  have hback : Text.upperChars (joined after) ≠ [] := by
    obtain ⟨e, he, hword⟩ := hafter
    have hmem : e ∈ joined after := List.mem_filter.mpr ⟨he, by rw [hword]; rfl⟩
    rw [Text.upperChars, Ne, List.flatMap_eq_nil_iff]
    exact fun hnil => Text.upperChar_ne_nil e (hnil e hmem)
  obtain ⟨right, last, hright⟩ := (List.eq_nil_or_concat' _).resolve_left hback
  rw [hraw, hright, ← List.cons_append, ← List.append_assoc] at hfront
  obtain ⟨rfl, hlast⟩ := List.append_inj' hfront rfl
  obtain rfl : control = last := List.singleton_inj.mp hlast
  rw [hright, ← List.cons_append, ← List.append_assoc] at hraw'
  have hreject : Body (front ++ u' :: right) ∧ control ∉ controls (front ++ u' :: right) := by
    rcases hcapitals with ⟨hd, hd'⟩ | ⟨hkind, hkind'⟩
    · exact ⟨hbody.replaced hd hd', disjoint_controls hd hd' hne hcontrol⟩
    · obtain ⟨rfl, hnumber⟩ := hbody.eq_nil_of_isForeignerKind hkind
      exact ⟨.foreigner hkind' hnumber, disjoint_controls_letter hkind hkind' hne hcontrol⟩
  obtain ⟨hbody', hcontrol'⟩ := hreject
  rw [validate_of_body hbody' hraw']
  exact congrArg Except.ok (Bool.eq_false_iff.mpr fun h => hcontrol' (List.contains_iff_mem.mp h))

/-! ### Accepted control characters -/

/-- A control character that is accepted behind a body: some identifier that is accepted has the two
as its canonical form. -/
def Accepts (body : List Char) (c : Char) : Prop :=
  ∃ raw : String, normalizeChars raw.toList = body ++ [c] ∧ validate raw = .ok true

/-- What is accepted behind a body are its control characters. -/
theorem accepts_iff (h : Body body) : Accepts body c ↔ c ∈ controls body := by
  constructor
  · rintro ⟨raw, hraw, hvalid⟩
    rw [validate_of_body h hraw] at hvalid
    exact List.contains_iff_mem.mp (Except.ok.inj hvalid)
  · intro hc
    have hself : normalizeChars (String.ofList (body ++ [c])).toList = body ++ [c] := by
      rw [String.toList_ofList, h.normalizeChars_append hc]
    refine ⟨String.ofList (body ++ [c]), hself, ?_⟩
    rw [validate_of_body h hself, List.contains_iff_mem.mpr hc]

/-- There is one control letter of persons for each remainder. -/
theorem exists_personControls (n : Nat) : ∃ letter, personControls (n % 23) = [letter] := by
  have hlt : n % 23 < personLetters.length := Nat.mod_lt n (by decide)
  rw [personControls, List.getElem?_eq_getElem hlt]
  exact ⟨_, rfl⟩

/-- The letters of companies with one control character, either a digit or a letter. -/
def hasOneControl (kind : Char) : Bool := "ABEHNPQRSW".toList.contains kind

/-- A company has its control digit, the letter for it, or both. -/
theorem companyControls_cases {n : Nat} (hn : n < 10) (kind : Char) :
    ∃ digit letter, isAsciiDigit digit = true ∧ companyLetters[digitValue digit]? = some letter ∧
      digit ≠ letter ∧ if hasOneControl kind then ∃ c, companyControls kind n = [c]
        else companyControls kind n = [digit, letter] := by
  have hmarks : ∀ n < 10, isAsciiDigit (Text.digitChar n) = true ∧
      digitValue (Text.digitChar n) = n ∧
        ∃ letter ∈ companyLetters[n]?, Text.digitChar n ≠ letter := by decide
  obtain ⟨hdigit, hvalue, letter, hletter, hne⟩ := hmarks n hn
  refine ⟨Text.digitChar n, letter, hdigit, by rw [hvalue]; exact hletter, hne, ?_⟩
  have hone : hasOneControl kind =
      ("ABEH".toList.contains kind || "NPQRSW".toList.contains kind) := by
    rw [Bool.eq_iff_iff, Bool.or_eq_true, hasOneControl, List.contains_iff_mem,
      List.contains_iff_mem, List.contains_iff_mem, ← List.mem_append]
    exact Iff.rfl
  rw [companyControls, hletter, hone]
  cases "ABEH".toList.contains kind with
  | true => exact ⟨Text.digitChar n, rfl⟩
  | false =>
    cases "NPQRSW".toList.contains kind with
    | true => exact ⟨letter, rfl⟩
    | false => rfl

/-- An identifier with one control character. -/
private theorem existsUnique_accepts (h : Body body) (hcontrols : controls body = [control]) :
    ∃! c, Accepts body c :=
  ⟨control, (accepts_iff h).mpr (by rw [hcontrols]; exact List.mem_singleton_self _), fun c hc =>
    List.mem_singleton.mp (hcontrols ▸ (accepts_iff h).mp hc)⟩

/-- **Control characters.** Whatever the spelling of an identifier that is accepted, it is rejected
with one digit of its number replaced by another one, or the letter of a foreigner by another one;
behind such a character there is always one that is no separator, at least the control character.
Every number of a person or a foreigner has one control character. So has every number of a company,
unless its letter admits both the control digit and the letter for it. -/
theorem detects_mistakes :
    (∀ before c c' after, validate (String.ofList (before ++ c :: after)) = .ok true →
      (∃ e ∈ after, isSeparator e = false) → Mistakable c c' →
        validate (String.ofList (before ++ c' :: after)) = .ok false) ∧
    (∀ number, IsAsciiNumber 8 number → ∃! c, Accepts number c) ∧
    (∀ kind number, isForeignerKind kind = true → IsAsciiNumber 7 number →
      ∃! c, Accepts (kind :: number) c) ∧
    (∀ kind number, isCompanyKind kind = true → IsAsciiNumber 7 number →
      if hasOneControl kind then ∃! c, Accepts (kind :: number) c
      else ∃ digit letter, isAsciiDigit digit = true ∧
        companyLetters[digitValue digit]? = some letter ∧ digit ≠ letter ∧
          ∀ c, Accepts (kind :: number) c ↔ c = digit ∨ c = letter) := by
  refine ⟨fun _ _ _ _ => validate_mistaken, fun number h => ?_, fun kind number hkind h => ?_,
    fun kind number hkind h => ?_⟩
  · obtain ⟨letter, hletter⟩ := exists_personControls (Text.digitsValue number)
    exact existsUnique_accepts (.person h) ((controls_person h).trans hletter)
  · obtain ⟨digit, hdigit, -⟩ := exists_foreignerDigit hkind
    obtain ⟨letter, hletter⟩ := exists_personControls (Text.digitsValue (digit :: number))
    exact existsUnique_accepts (.foreigner hkind h)
      ((controls_of_isForeignerKind hkind hdigit).trans hletter)
  · have hbody : Body (kind :: number) := .company hkind h
    obtain ⟨digit, letter, hdigit, hletter, hne, hcontrols⟩ :=
      companyControls_cases (companyDigit_lt number) kind
    rw [← controls_of_isCompanyKind hkind] at hcontrols
    split at hcontrols
    case isTrue hone =>
      rw [if_pos hone]
      obtain ⟨c, hc⟩ := hcontrols
      exact existsUnique_accepts hbody hc
    case isFalse htwo =>
      rw [if_neg htwo]
      refine ⟨digit, letter, hdigit, hletter, hne, fun c => ?_⟩
      rw [accepts_iff hbody, hcontrols, List.mem_pair]

/-- Two wrong characters in an identifier that is spelled with its country and in small letters. -/
theorem detects_mistakes_spelled :
    validate "es x-1234567-l" = .ok true ∧ validate "es Y-1234567-l" = .ok false ∧
      validate "es x-1234577-l" = .ok false ∧ IsAsciiNumber 8 "12345678".toList ∧
        ∃! c, Accepts "12345678".toList c := by
  have hvalid : validate "es x-1234567-l" = .ok true := by decide +kernel
  have hletters : Mistakable 'x' 'Y' :=
    @Mistakable.letter 'x' 'Y' 'X' 'Y' (by decide +kernel) (by decide +kernel) (by decide)
      (by decide) (by decide)
  have hdigits : Mistakable '6' '7' := .digit (by decide) (by decide) (by decide)
  have hnumber : IsAsciiNumber 8 "12345678".toList := ⟨rfl, by decide⟩
  obtain ⟨hdetects, hperson, -⟩ := detects_mistakes
  have hletter := hdetects "es ".toList 'x' 'Y' "-1234567-l".toList hvalid
    ⟨'l', by decide, by decide⟩ hletters
  have hdigit := hdetects "es x-12345".toList '6' '7' "7-l".toList hvalid
    ⟨'7', by decide, by decide⟩ hdigits
  exact ⟨hvalid, hletter, hdigit, hnumber, hperson _ hnumber⟩

end InvoiceFields.TaxId
