import InvoiceFields.Proofs.TaxId.FirstOccurrence

/-!
# Recognised identifiers that are found

Whether a text is an identifier is decided on its canonical form, which drops all separators, while
a search takes at most one mark between the parts of an identifier. So the search finds an
identifier that is recognised only in a `Legible` spelling (`found_iff_legible`).
-/

namespace InvoiceFields.TaxId

open Text (isWordChar isDecimalDigit)

variable {cs id front country body back : List Char} {raw : String}

/-! ### Separators -/

/-- Characters that are all separators. -/
def Separators (cs : List Char) : Prop := ∀ c ∈ cs, isSeparator c = true

theorem Separators.getLast?_free (h : Separators cs) : cs.getLast?.any isWordChar = false := by
  cases hlast : cs.getLast? with
  | none => rfl
  | some c => exact isWordChar_of_isSeparator (h c (List.mem_of_getLast? hlast))

theorem Separators.append_getLast?_free (h : Separators cs) (hne : cs ≠ []) :
    (front ++ cs).getLast?.any isWordChar = false := by
  rw [List.getLast?_append_of_ne_nil _ hne]
  exact h.getLast?_free

theorem Separators.head?_free (h : Separators cs) : cs.head?.any isWordChar = false := by
  cases hhead : cs.head? with
  | none => rfl
  | some c => exact isWordChar_of_isSeparator (h c (List.mem_of_head? hhead))

/-- In front of the first character that is no separator stand separators. -/
theorem exists_of_joined_eq_cons {c : Char} {rest : List Char} (h : joined cs = c :: rest) :
    ∃ before behind, cs = before ++ c :: behind ∧ Separators before ∧ joined behind = rest := by
  obtain ⟨before, behind, rfl, hbefore, -, hrest⟩ := List.filter_eq_cons_iff.mp h
  refine ⟨before, behind, rfl, fun d hd => ?_, hrest⟩
  simpa using hbefore d hd

/-- The first character that is no separator is unique. -/
theorem Separators.append_cons_inj {a b rest rest' : List Char} {c d : Char} (ha : Separators a)
    (hb : Separators b) (hc : isWordChar c = true) (hd : isWordChar d = true)
    (h : a ++ c :: rest = b ++ d :: rest') : a = b ∧ c = d ∧ rest = rest' := by
  have htake : ∀ {a : List Char} {c : Char} (rest : List Char), Separators a →
      isWordChar c = true → (a ++ c :: rest).takeWhile isSeparator = a := by
    intro a c rest ha hc
    rw [List.takeWhile_append_of_pos ha, List.takeWhile_cons, isSeparator_of_isWordChar hc]
    exact List.append_nil a
  have hab : a = b := by rw [← htake rest ha hc, h, htake rest' hb hd]
  obtain ⟨hcd, hrest⟩ := List.cons.inj (List.append_cancel_left (hab ▸ h))
  exact ⟨hab, hcd, hrest⟩

/-! ### Spellings -/

/-- An identifier of a person with a mark in front of its control letter. -/
def MarkedPerson (body : List Char) : Prop :=
  ∃ number mark control, IsNumber 8 number ∧ IsMark mark ∧ mark ≠ [] ∧
    body = number ++ (mark ++ [control])

/-- The spellings of an identifier that a search reads, apart from letter case. Around a token there
may be any separators. They may also stand behind its country and divide the country's letters. But
if they divide the letters, there must be some behind the second one too, and that one must not be
taken for the letter of a company, with a person's eight digits behind it. -/
inductive Legible : List Char → Prop
  | bare {front body back : List Char} (hfront : Separators front) (hbody : Token body)
      (hback : Separators back) : Legible (front ++ (body ++ back))
  | country {front between body back : List Char} (hfront : Separators front)
      (hbetween : Separators between) (hbody : Token body) (hback : Separators back) :
      Legible (front ++ 'E' :: 'S' :: (between ++ (body ++ back)))
  | apart {front gap between body back : List Char} (hfront : Separators front)
      (hgap : Separators gap) (hgap_ne : gap ≠ []) (hbetween : Separators between)
      (hbetween_ne : between ≠ []) (hbody : Token body) (hback : Separators back)
      (hclear : ¬ (IsMark between ∧ MarkedPerson body)) :
      Legible (front ++ 'E' :: (gap ++ 'S' :: (between ++ (body ++ back))))

/-! ### Recognised texts -/

/-- A text in capitals that spells an identifier, with separators anywhere and perhaps a country. -/
def Recognized (cs id : List Char) : Prop :=
  Shaped id ∧ (joined cs = id ∨ joined cs = 'E' :: 'S' :: id ∧ Text.byteLength id = 9)

/-- What is recognised is an identifier without its separators and its country. -/
theorem recognized_of_isTaxId (h : isTaxId raw = true) :
    Recognized (Text.upperChars raw.toList) (normalizeChars raw.toList) := by
  refine ⟨occursIn_taxIdCanonical.mp h, ?_⟩
  rw [normalizeChars_eq]
  exact (dropCountry_cases _).imp Eq.symm fun ⟨heq, hnine⟩ => ⟨heq, hnine⟩

/-- An identifier behind a country and an identifier somewhere in that text: they are the same, or
the second one begins at the second letter of the country. -/
theorem Shaped.eq_or_begins {before id' behind : List Char} (hid : Shaped id) (hid' : Shaped id')
    (h : before ++ (id' ++ behind) = 'E' :: 'S' :: id) :
    (before = ['E', 'S'] ∧ id' = id ∧ behind = []) ∨
      before = ['E'] ∧ ∃ rest, id' = 'S' :: rest := by
  obtain ⟨c, d, rest, hsecond, hd⟩ := hid'.exists_second
  have hlength := congrArg List.length h
  simp only [List.length_append, List.length_cons, hid.length_eq, hid'.length_eq] at hlength
  match before with
  | [] =>
    -- the second letter of the country would be a digit
    rw [List.nil_append, hsecond] at h
    obtain ⟨-, hrest⟩ := List.cons.inj h
    obtain ⟨rfl, -⟩ := List.cons.inj hrest
    exact nomatch hd
  | [e] =>
    rw [hsecond] at h
    obtain ⟨rfl, hrest⟩ := List.cons.inj h
    obtain ⟨rfl, -⟩ := List.cons.inj hrest
    exact .inr ⟨rfl, d :: rest, hsecond⟩
  | [e, f] =>
    simp only [List.length_cons, List.length_nil] at hlength
    obtain rfl : behind = [] := List.eq_nil_of_length_eq_zero (by omega)
    obtain ⟨rfl, hrest⟩ := List.cons.inj h
    obtain ⟨rfl, heq⟩ := List.cons.inj hrest
    exact .inl ⟨rfl, by simpa using heq, rfl⟩
  | e :: f :: g :: more =>
    rw [List.length_cons, List.length_cons, List.length_cons] at hlength
    omega

/-- Where a token stands in a recognised text: it is the identifier, which the country stands in
front of in one of three ways, or the second letter of the country is its first character. -/
theorem Occurrence.cases_of_recognized (hid : Recognized cs id)
    (h : Occurrence cs front country body back) :
    (joined body = id ∧ joined back = [] ∧
      (country = [] ∧ joined front = [] ∨
        country = [] ∧ joined front = ['E', 'S'] ∧ Text.byteLength id = 9 ∨
        country ≠ [] ∧ joined front = [] ∧ Text.byteLength id = 9)) ∨
    country = [] ∧ joined front = ['E'] ∧ joined cs = 'E' :: 'S' :: id ∧
      ∃ rest, joined body = 'S' :: rest := by
  obtain ⟨hshaped, hcs⟩ := hid
  have hbody := h.token.shaped_joined
  have hsplit : joined front ++ (joined country ++ (joined body ++ joined back)) = joined cs := by
    rw [h.text_eq, joined_append, joined_append, joined_append]
  have hlength := congrArg List.length hsplit
  simp only [List.length_append, hbody.length_eq] at hlength
  rcases hcs with hcs | ⟨hcs, hnine⟩
  · -- nine characters are all that there are
    rw [hcs, hshaped.length_eq] at hlength
    have hfront : joined front = [] := List.eq_nil_of_length_eq_zero (by omega)
    have hcountry : joined country = [] := List.eq_nil_of_length_eq_zero (by omega)
    have hback : joined back = [] := List.eq_nil_of_length_eq_zero (by omega)
    rw [hfront, hcountry, hback, hcs] at hsplit
    rcases h.isCountry.joined_eq with rfl | heq
    · exact .inl ⟨by simpa using hsplit, hback, .inl ⟨rfl, hfront⟩⟩
    · exact nomatch hcountry.symm.trans heq
  · rcases h.isCountry.joined_eq with rfl | heq
    · rw [hcs] at hsplit
      rcases hshaped.eq_or_begins hbody hsplit with ⟨hfront, heq, hback⟩ | ⟨hfront, hrest⟩
      · exact .inl ⟨heq, hback, .inr (.inl ⟨rfl, hfront, hnine⟩)⟩
      · exact .inr ⟨rfl, hfront, hcs, hrest⟩
    · -- the token has the country, so eleven characters are all that there are
      rw [hcs, heq] at hlength
      simp only [List.length_cons, List.length_nil, hshaped.length_eq] at hlength
      have hfront : joined front = [] := List.eq_nil_of_length_eq_zero (by omega)
      have hback : joined back = [] := List.eq_nil_of_length_eq_zero (by omega)
      rw [hfront, heq, hback, hcs] at hsplit
      have hne : country ≠ [] := by
        rintro rfl
        exact nomatch heq
      exact .inl ⟨by simpa using hsplit, hback, .inr (.inr ⟨hne, hfront, hnine⟩)⟩

/-- The canonical form of a token in a recognised text is its identifier. -/
theorem Occurrence.normalizeChars_of_recognized (hid : Recognized (Text.upperChars cs) id)
    (h : Occurrence (Text.upperChars cs) front country body back) :
    normalizeChars (country ++ body) = joined body := by
  refine h.normalizeChars_eq_joined ?_
  rcases h.cases_of_recognized hid with
    ⟨rfl, -, ⟨hnone, -⟩ | ⟨hnone, -⟩ | ⟨-, -, hnine⟩⟩ | ⟨hnone, -⟩
  · exact .inl hnone
  · exact .inl hnone
  · exact .inr hnine
  · exact .inl hnone

/-! ### What is found -/

/-- A legible spelling has a token. -/
theorem Legible.exists_occurrence (h : Legible cs) :
    ∃ front country body back, Occurrence cs front country body back := by
  cases h with
  | @bare front body back hfront hbody hback =>
    exact ⟨front, [], body, back, rfl, .inl rfl, hbody, hfront.getLast?_free, hback.head?_free⟩
  | @country front between body back hfront hbetween hbody hback =>
    by_cases hmark : IsMark between
    · exact ⟨front, 'E' :: 'S' :: between, body, back, rfl, .inr ⟨between, hmark, rfl⟩, hbody,
        hfront.getLast?_free, hback.head?_free⟩
    · have hne : between ≠ [] := by
        rintro rfl
        exact hmark List.mem_cons_self
      exact ⟨front ++ ['E', 'S'] ++ between, [], body, back, by simp, .inl rfl, hbody,
        hbetween.append_getLast?_free hne, hback.head?_free⟩
  | @apart front gap between body back hfront hgap hgap_ne hbetween hbetween_ne hbody hback _ =>
    exact ⟨front ++ 'E' :: (gap ++ ['S']) ++ between, [], body, back, by simp, .inl rfl, hbody,
      hbetween.append_getLast?_free hbetween_ne, hback.head?_free⟩

theorem IsNumber.exists_concat {n : Nat} {number : List Char} (h : IsNumber (n + 1) number) :
    ∃ front last, number = front ++ [last] ∧ IsNumber n front ∧ isDecimalDigit last = true := by
  rcases List.eq_nil_or_concat number with rfl | ⟨front, last, rfl⟩
  · exact nomatch h.1
  · rw [List.concat_eq_append] at h ⊢
    obtain ⟨hlength, hdigits⟩ := h
    rw [List.length_append, List.length_singleton] at hlength
    obtain ⟨hfront, hlast⟩ := List.forall_mem_append.mp hdigits
    exact ⟨front, last, rfl, ⟨Nat.succ.inj hlength, hfront⟩, hlast last List.mem_cons_self⟩

/-- Where seven digits and a control character that nothing follows stand at the beginning of a
token, behind the same separators, that is a person's, with a mark in front of its control
letter. -/
private theorem markedPerson_of_eq {between mark number mark' back' : List Char}
    {control : Char} (hbetween : Separators between) (hbody : Token body) (hmark : IsMark mark)
    (hnumber : IsNumber 7 number) (hmark' : IsMark mark') (hcontrol : isWordChar control = true)
    (hback' : back'.head?.any isWordChar = false)
    (h : between ++ (body ++ back) = mark ++ (number ++ (mark' ++ control :: back'))) :
    IsMark between ∧ MarkedPerson body := by
  obtain ⟨d, ds, rfl⟩ := List.exists_cons_of_length_eq_add_one hnumber.1
  have hd := hnumber.isWordChar d List.mem_cons_self
  cases hbody with
  | @lettered kind _ _ _ _ hpaired =>
    -- its letter would be the first digit
    have hkind := hpaired.isCapital_kind
    obtain ⟨-, rfl, -⟩ :=
      hbetween.append_cons_inj hmark.isSeparator (isWordChar_of_isCapital hkind) hd h
    have hdigit := hnumber.2 kind List.mem_cons_self
    rw [isDecimalDigit_of_isCapital hkind] at hdigit
    exact nomatch hdigit
  | @person number₈ mark₈ control₈ hnumber₈ hmark₈ hcontrol₈ =>
    obtain ⟨e, es, rfl⟩ := List.exists_cons_of_length_eq_add_one hnumber₈.1
    have he := hnumber₈.isWordChar e List.mem_cons_self
    obtain ⟨rfl, -, -⟩ := hbetween.append_cons_inj hmark.isSeparator he hd h
    -- the control character is the eighth digit
    obtain ⟨front, last, hsplit, hfront, hlast⟩ := hnumber₈.exists_concat
    have hrest := List.append_cancel_left h
    rw [hsplit, List.append_assoc, List.append_assoc, List.append_assoc] at hrest
    obtain ⟨-, htail⟩ := List.append_inj hrest (hfront.1.trans hnumber.1.symm)
    obtain ⟨-, -, rfl⟩ := Separators.append_cons_inj (List.forall_mem_nil _) hmark'.isSeparator
      (Text.isWordChar_of_isDecimalDigit hlast) hcontrol htail
    refine ⟨hmark, e :: es, mark₈, control₈, hnumber₈, hmark₈, ?_, rfl⟩
    rintro rfl
    have hword : Option.any isWordChar (some control₈) = false := hback'
    rw [Option.any_some, isWordChar_of_isCapital hcontrol₈] at hword
    exact nomatch hword

/-- A token that begins with no digit begins with the letter of a company or a foreigner. -/
private theorem Token.exists_lettered {c : Char} {t : List Char} (h : Token (c :: t))
    (hc : isDecimalDigit c = false) : ∃ kind control mark number mark', Paired kind control ∧
      IsMark mark ∧ IsNumber 7 number ∧ IsMark mark' ∧
      c :: t = kind :: (mark ++ (number ++ (mark' ++ [control]))) := by
  generalize hbody : c :: t = body at h
  cases h with
  | lettered hpaired hmark hnumber hmark' =>
    exact ⟨_, _, _, _, _, hpaired, hmark, hnumber, hmark', rfl⟩
  | @person number mark control hnumber =>
    obtain ⟨d, ds, rfl⟩ := List.exists_cons_of_length_eq_add_one hnumber.1
    obtain ⟨rfl, -⟩ := List.cons.inj hbody
    rw [hnumber.2 c List.mem_cons_self] at hc
    exact nomatch hc

/-- In a legible spelling the second letter of the country is not taken for the first one of a
company. -/
theorem Legible.joined_front_ne (h : Legible cs) (hjoined : joined cs = 'E' :: 'S' :: id)
    (hid : Shaped id) (hoccurs : Occurrence cs front [] body back) {rest : List Char}
    (hbody : joined body = 'S' :: rest) : joined front ≠ ['E'] := by
  intro hfront
  obtain ⟨before, gap', rfl, hbefore, hgap'⟩ := exists_of_joined_eq_cons hfront
  replace hgap' : Separators gap' := joined_eq_nil_iff.mp hgap'
  obtain ⟨c, t, rfl, hc⟩ := hoccurs.token.exists_head
  rw [joined_cons_of_isWordChar hc] at hbody
  obtain ⟨rfl, -⟩ := List.cons.inj hbody
  have hE : isWordChar 'E' = true := by decide +kernel
  have htext : cs = before ++ 'E' :: (gap' ++ 'S' :: (t ++ back)) := by
    rw [hoccurs.text_eq]
    simp
  cases h with
  | @bare front₀ body₀ back₀ hfront₀ hbody₀ hback₀ =>
    -- without a country there are too few characters
    have hlength := congrArg List.length hjoined
    rw [joined_append, joined_append, joined_eq_nil_iff.mpr hfront₀, joined_eq_nil_iff.mpr hback₀,
      List.nil_append, List.append_nil, hbody₀.shaped_joined.length_eq, List.length_cons,
      List.length_cons, hid.length_eq] at hlength
    exact nomatch hlength
  | @country front₀ between body₀ back₀ hfront₀ hbetween hbody₀ hback₀ =>
    obtain ⟨-, -, hrest⟩ := hfront₀.append_cons_inj hbefore hE hE htext
    obtain ⟨rfl, -, -⟩ := Separators.append_cons_inj (List.forall_mem_nil _) hgap' hc hc hrest
    have hfree := hoccurs.front_free
    rw [List.getLast?_concat, Option.any_some, hE] at hfree
    exact nomatch hfree
  | @apart front₀ gap between body₀ back₀ hfront₀ hgap hgap_ne hbetween hbetween_ne hbody₀ hback₀
      hclear =>
    obtain ⟨-, -, hrest⟩ := hfront₀.append_cons_inj hbefore hE hE htext
    obtain ⟨-, -, hrest⟩ := hgap.append_cons_inj hgap' hc hc hrest
    obtain ⟨kind, control, mark, number, mark', hpaired, hmark, hnumber, hmark', htoken⟩ :=
      hoccurs.token.exists_lettered (by decide +kernel)
    obtain ⟨rfl, rfl⟩ := List.cons.inj htoken
    have hequal : between ++ (body₀ ++ back₀) = mark ++ (number ++ (mark' ++ control :: back)) := by
      rw [hrest]
      simp
    exact hclear (markedPerson_of_eq hbetween hbody₀ hmark hnumber hmark'
      hpaired.isWordChar_control hoccurs.back_free hequal)

/-- A person's identifier with a mark in front of its control letter has the second letter of a
country for that of a company, if a mark or nothing stands between them and the country's first
letter stands apart. -/
theorem exists_occurrence_of_markedPerson {before gap between : List Char}
    (htext : cs = before ++ 'E' :: (gap ++ 'S' :: (between ++ (body ++ back))))
    (hgap : Separators gap) (hgap_ne : gap ≠ []) (hbetween : IsMark between)
    (htoken : Token body) (hperson : MarkedPerson body)
    (hnine : Text.byteLength (joined body) = 9) :
    ∃ body' back', Occurrence cs (before ++ ['E'] ++ gap) [] body' back' := by
  have hlength := htoken.shaped_joined.length_eq
  obtain ⟨number, mark, control, hnumber, hmark, hmark_ne, rfl⟩ := hperson
  obtain ⟨seven, last, rfl, hseven, hlast⟩ := hnumber.exists_concat
  -- among nine characters of nine bytes there are only ASCII digits
  have hcontrol : isCompanyControl last = true := by
    have hword := isSeparator_of_isWordChar (Text.isWordChar_of_isDecimalDigit hlast)
    have hmem : last ∈ joined (seven ++ [last] ++ (mark ++ [control])) :=
      List.mem_filter.mpr ⟨by simp, by rw [hword]; rfl⟩
    have hsize := Text.utf8Size_eq_one_of_byteLength_le (by rw [hnine, hlength]) last hmem
    exact Bool.or_eq_true_iff.mpr (.inl (Text.isAsciiDigit_of_isDecimalDigit hlast hsize))
  refine ⟨'S' :: (between ++ (seven ++ ([] ++ [last]))), mark ++ control :: back, ?_, .inl rfl,
    .lettered (.inl ⟨by decide, hcontrol⟩) hbetween hseven List.mem_cons_self,
    hgap.append_getLast?_free hgap_ne, ?_⟩
  · rw [htext]
    simp
  · rw [List.head?_append_of_ne_nil _ hmark_ne]
    exact Separators.head?_free hmark.isSeparator

/-- A spelling in which the identifier is the first token is legible. -/
theorem Occurrence.legible (hid : Recognized cs id) (h : Occurrence cs front country body back)
    (hfirst : ∀ front' country' body' back', Occurrence cs front' country' body' back' →
      front.length ≤ front'.length) (hbody : joined body = id) : Legible cs := by
  rcases h.cases_of_recognized hid with ⟨-, hback, hcases⟩ | ⟨rfl, hfront, hcs, rest, hrest⟩
  · replace hback : Separators back := joined_eq_nil_iff.mp hback
    rcases hcases with ⟨rfl, hfront⟩ | ⟨rfl, hfront, hnine⟩ | ⟨hne, hfront, -⟩
    · have htext : cs = front ++ (body ++ back) := h.text_eq
      rw [htext]
      exact .bare (joined_eq_nil_iff.mp hfront) h.token hback
    · obtain ⟨before, behind, rfl, hbefore, hbehind⟩ := exists_of_joined_eq_cons hfront
      obtain ⟨gap, between, rfl, hgap, hbetween⟩ := exists_of_joined_eq_cons hbehind
      replace hbetween : Separators between := joined_eq_nil_iff.mp hbetween
      have htext : cs = before ++ 'E' :: (gap ++ 'S' :: (between ++ (body ++ back))) := by
        rw [h.text_eq]
        simp
      rw [htext]
      rcases eq_or_ne gap [] with rfl | hgap_ne
      · exact .country hbefore hbetween h.token hback
      · have hbetween_ne : between ≠ [] := by
          rintro rfl
          have hfree := h.front_free
          rw [← List.cons_append, ← List.append_assoc, List.getLast?_concat,
            Option.any_some] at hfree
          exact absurd hfree (by decide +kernel)
        refine .apart hbefore hgap hgap_ne hbetween hbetween_ne h.token hback ?_
        rintro ⟨hmark, hperson⟩
        -- the eighth digit would be the control character of a company farther in front
        obtain ⟨body', back', hearlier⟩ :=
          exists_occurrence_of_markedPerson htext hgap hgap_ne hmark h.token hperson
            (hbody ▸ hnine)
        have hle := hfirst _ _ _ _ hearlier
        simp only [List.length_append, List.length_cons, List.length_nil] at hle
        omega
    · obtain rfl | ⟨mark, hmark, rfl⟩ := h.isCountry
      · exact absurd rfl hne
      · rw [h.text_eq]
        exact .country (joined_eq_nil_iff.mp hfront) hmark.isSeparator h.token hback
  · -- then the second letter of the country would be a digit
    obtain ⟨c, d, t, hid, hd⟩ := hid.1.exists_second
    rw [h.text_eq, joined_append, joined_append, joined_append, hfront, hbody, hid] at hcs
    obtain ⟨-, hshift⟩ := List.cons.inj hcs
    obtain ⟨rfl, hshift⟩ := List.cons.inj hshift
    obtain ⟨rfl, -⟩ := List.cons.inj hshift
    exact nomatch hd

/-- Behind a token in a recognised text there is too little for another one. -/
theorem Occurrence.length_joined_back_lt (hid : Recognized cs id)
    (h : Occurrence cs front country body back) : (joined back).length < 9 := by
  rcases h.cases_of_recognized hid with ⟨-, hback, -⟩ | ⟨rfl, hfront, hcs, -⟩
  · rw [hback]
    exact Nat.zero_lt_succ 8
  · have hlength := congrArg List.length hcs
    rw [h.text_eq, joined_append, joined_append, joined_append, hfront] at hlength
    simp only [List.length_append, List.length_cons, List.length_nil,
      hid.1.length_eq, h.token.shaped_joined.length_eq] at hlength
    omega

/-! ### Recognised and found -/

/-- **Recognised identifiers.** On a text that is recognised as an identifier at most one is found,
and it is the one that is recognised exactly if its spelling is legible. -/
theorem found_iff_legible (h : isTaxId raw = true) :
    ∃ found, Search.plain.locate raw = .ok found ∧ found.length ≤ 1 ∧
      (found.head?.map (·.value) = some (normalize raw) ↔
        Legible (Text.upperChars raw.toList)) := by
  have hid := recognized_of_isTaxId h
  rcases Search.plain_locate_cases raw with ⟨hlocate, hnone⟩ |
    ⟨front, country, body, back, found, more, hoccurs, hfirst, hlocate, hvalue, hmore⟩
  · refine ⟨[], hlocate, Nat.zero_le 1, nofun, fun hlegible => ?_⟩
    obtain ⟨front, country, body, back, hoccurs⟩ := hlegible.exists_occurrence
    exact absurd hoccurs (hnone front country body back)
  · rw [hmore (hoccurs.length_joined_back_lt hid)] at hlocate
    have hidentifier : found.value = normalize raw ↔ joined body = normalizeChars raw.toList := by
      rw [hvalue, normalize, normalize, String.toList_ofList,
        hoccurs.normalizeChars_of_recognized hid, String.ofList_inj]
    refine ⟨[found], hlocate, Nat.le_refl 1, ?_⟩
    rw [List.head?_cons, Option.map_some, Option.some_inj, hidentifier]
    constructor
    · exact hoccurs.legible hid hfirst
    · intro hlegible
      rcases hoccurs.cases_of_recognized hid with ⟨hbody, -⟩ | ⟨rfl, hfront, hcs, rest, hrest⟩
      · exact hbody
      · exact absurd hfront (hlegible.joined_front_ne hcs hid.1 hoccurs hrest)

theorem found_iff_legible_country :
    isTaxId "es-12345678.z" = true ∧ ∃ found,
      Search.plain.locate "es-12345678.z" = .ok found ∧ found.length ≤ 1 ∧
        found.head?.map (·.value) = some "12345678Z" := by
  have hraw : isTaxId "es-12345678.z" = true := by decide +kernel
  have hcapitals : Text.upperChars "es-12345678.z".toList = 'E' :: 'S' :: "-12345678.Z".toList := by
    decide +kernel
  have hnormalize : normalize "es-12345678.z" = "12345678Z" := by decide +kernel
  have hbody : Token ("12345678".toList ++ (['.'] ++ ['Z'])) :=
    .person ⟨rfl, by decide +kernel⟩ (by simp [IsMark]) (by decide)
  have hlegible : Legible ([] ++ 'E' :: 'S' ::
      (['-'] ++ ("12345678".toList ++ (['.'] ++ ['Z']) ++ []))) :=
    .country nofun (by simp [Separators, isSeparator]) hbody nofun
  obtain ⟨found, hfound, hone, hiff⟩ := found_iff_legible hraw
  rw [hcapitals, hnormalize] at hiff
  exact ⟨hraw, found, hfound, hone, hiff.mpr hlegible⟩

/-- An identifier with points between its digits is recognised, but not found. -/
theorem exists_recognized_not_found :
    ¬ ∀ raw, isTaxId raw = true → ∃ found, Search.plain.locate raw = .ok found ∧
      found.head?.map (·.value) = some (normalize raw) := by
  intro h
  have hraw : isTaxId "B-12.345.674" = true := by decide +kernel
  have hnone : Search.plain.locate "B-12.345.674" = .ok [] := by decide +kernel
  obtain ⟨found, hfound, hvalue⟩ := h "B-12.345.674" hraw
  obtain rfl := Except.ok.inj (hnone.symm.trans hfound)
  exact nomatch hvalue

/-- The second letter of a country that stands apart is taken for the letter of a company. -/
example : normalize "E-S12345678-Z" = "12345678Z" ∧
    (Search.plain.locate "E-S12345678-Z").map (·.map (·.value)) = .ok ["S12345678"] := by
  decide +kernel

end InvoiceFields.TaxId
