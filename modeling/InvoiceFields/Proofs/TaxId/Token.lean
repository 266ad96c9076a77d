import InvoiceFields.Proofs.Pattern.Language
import InvoiceFields.Proofs.TaxId.Shape
import InvoiceFields.Proofs.Text.WordCharacters

/-!
# Tax identifiers on a line

On a line an identifier stands as a `Token`: its parts may have a dash or a point between them, a
country may stand in front of it, and no word character next to it (`mem_run_taxIdToken`). Without
the marks a token has the shape of an identifier (`Token.shaped_joined`).
-/

namespace InvoiceFields.TaxId

open Pattern (Recognizes recognizes_one recognizes_times_one mem_run_sequence mem_run_boundary)
open Text (isWordChar)

variable {cs mark number body country : List Char} {kind control : Char} {a b : Pattern.Place}

/-! ### Separators -/

theorem isWordChar_of_isSeparator {c : Char} (h : isSeparator c = true) : isWordChar c = false := by
  simp only [isSeparator, Bool.or_eq_true, beq_iff_eq] at h
  rcases h with ((rfl | rfl) | rfl) | rfl <;> decide +kernel

theorem isSeparator_of_isWordChar {c : Char} (h : isWordChar c = true) : isSeparator c = false := by
  refine Bool.eq_false_iff.mpr fun hseparator => ?_
  rw [isWordChar_of_isSeparator hseparator] at h
  exact Bool.false_ne_true h

theorem joined_cons_of_isWordChar {c : Char} (h : isWordChar c = true) (cs : List Char) :
    joined (c :: cs) = c :: joined cs :=
  List.filter_cons_of_pos (by rw [isSeparator_of_isWordChar h]; rfl)

theorem joined_eq_nil_iff : joined cs = [] ↔ ∀ c ∈ cs, isSeparator c = true := by
  simp [joined, List.filter_eq_nil_iff]

theorem joined_eq_self (h : ∀ c ∈ cs, isWordChar c = true) : joined cs = cs :=
  List.filter_eq_self.mpr fun c hc => by rw [isSeparator_of_isWordChar (h c hc)]; rfl

/-! ### The characters of an identifier -/

theorem isWordChar_of_isCapital {c : Char} (h : isCapital c = true) : isWordChar c = true := by
  obtain ⟨hlow, hhigh⟩ := Bool.and_eq_true_iff.mp h
  exact Text.isWordChar_of_capital (of_decide_eq_true hlow) (of_decide_eq_true hhigh)

theorem isWordChar_of_isCompanyControl {c : Char} (h : isCompanyControl c = true) :
    isWordChar c = true :=
  (isCapital_of_isCompanyControl h).elim
    (fun hdigit => Text.isWordChar_of_isDecimalDigit (Text.isDecimalDigit_of_isAsciiDigit hdigit))
    isWordChar_of_isCapital

/-- Capitals are no digits. -/
theorem isDecimalDigit_of_isCapital {c : Char} (h : isCapital c = true) :
    Text.isDecimalDigit c = false := by
  refine Bool.eq_false_iff.mpr fun hdigit => ?_
  have hascii := Text.isAsciiDigit_of_isDecimalDigit hdigit (utf8Size_of_isCapital h)
  have hlow : 'A' ≤ c := of_decide_eq_true (Bool.and_eq_true_iff.mp h).1
  have hhigh : c ≤ '9' := of_decide_eq_true (Bool.and_eq_true_iff.mp hascii).2
  exact absurd (Char.le_trans hlow hhigh) (by decide)

theorem IsNumber.isWordChar {n : Nat} (h : IsNumber n number) : ∀ c ∈ number, isWordChar c = true :=
  fun c hc => Text.isWordChar_of_isDecimalDigit (h.2 c hc)

/-! ### Tokens -/

/-- What may stand between the parts of an identifier: nothing, a dash or a point. -/
def IsMark (mark : List Char) : Prop := mark ∈ [[], ['-'], ['.']]

/-- A letter and a control character that belong together, those of a company or of a foreigner. -/
def Paired (kind control : Char) : Prop :=
  isCompanyKind kind = true ∧ isCompanyControl control = true ∨
    isForeignerKind kind = true ∧ isCapital control = true

theorem Paired.isCapital_kind (h : Paired kind control) : isCapital kind = true :=
  h.elim (fun h => isCapital_of_isCompanyKind h.1) fun h => isCapital_of_isForeignerKind h.1

theorem Paired.isWordChar_control (h : Paired kind control) : isWordChar control = true :=
  h.elim (fun h => isWordChar_of_isCompanyControl h.2) fun h => isWordChar_of_isCapital h.2

theorem Paired.shaped (h : Paired kind control) (hnumber : IsNumber 7 number) :
    Shaped (kind :: number ++ [control]) := by
  rcases h with ⟨hkind, hcontrol⟩ | ⟨hkind, hcontrol⟩
  · exact .company hkind hnumber hcontrol
  · exact .foreigner hkind hnumber hcontrol

theorem IsMark.isSeparator (h : IsMark mark) : ∀ c ∈ mark, TaxId.isSeparator c = true := by
  have hmarks : ∀ mark ∈ [[], ['-'], ['.']], ∀ c ∈ mark, TaxId.isSeparator c = true := by decide
  exact hmarks mark h

theorem IsMark.joined_eq (h : IsMark mark) : joined mark = [] := joined_eq_nil_iff.mpr h.isSeparator

/-- An identifier as it stands on a line, without a country. -/
inductive Token : List Char → Prop
  | person {number mark : List Char} {control : Char} (hnumber : IsNumber 8 number)
      (hmark : IsMark mark) (hcontrol : isCapital control = true) :
      Token (number ++ (mark ++ [control]))
  | lettered {kind control : Char} {mark number mark' : List Char} (hpaired : Paired kind control)
      (hmark : IsMark mark) (hnumber : IsNumber 7 number) (hmark' : IsMark mark') :
      Token (kind :: (mark ++ (number ++ (mark' ++ [control]))))

/-- What may stand in front of a token. -/
def IsCountry (country : List Char) : Prop :=
  country = [] ∨ ∃ mark, IsMark mark ∧ country = 'E' :: 'S' :: mark

theorem IsCountry.joined_eq (h : IsCountry country) :
    country = [] ∨ joined country = ['E', 'S'] := by
  refine h.imp_right ?_
  rintro ⟨mark, hmark, rfl⟩
  rw [joined_cons_of_isWordChar (by decide +kernel), joined_cons_of_isWordChar (by decide +kernel),
    hmark.joined_eq]

namespace Token

/-- Without its marks a token has the shape of an identifier. -/
theorem shaped_joined (h : Token body) : Shaped (joined body) := by
  cases h with
  | @person number mark control hnumber hmark hcontrol =>
    have hword := isWordChar_of_isCapital hcontrol
    have hjoined : joined (number ++ (mark ++ [control])) = number ++ [control] := by
      rw [joined_append, joined_append, joined_eq_self hnumber.isWordChar, hmark.joined_eq,
        joined_cons_of_isWordChar hword]
      rfl
    rw [hjoined]
    exact .person hnumber hcontrol
  | @lettered kind control mark number mark' hpaired hmark hnumber hmark' =>
    have hkind := isWordChar_of_isCapital hpaired.isCapital_kind
    have hcontrol := hpaired.isWordChar_control
    have hjoined : joined (kind :: (mark ++ (number ++ (mark' ++ [control])))) =
        kind :: number ++ [control] := by
      rw [joined_cons_of_isWordChar hkind, joined_append, joined_append, joined_append,
        joined_eq_self hnumber.isWordChar, hmark.joined_eq, hmark'.joined_eq,
        joined_cons_of_isWordChar hcontrol]
      rfl
    rw [hjoined]
    exact hpaired.shaped hnumber

/-- A token begins with a word character. -/
theorem exists_head (h : Token body) : ∃ c cs, body = c :: cs ∧ isWordChar c = true := by
  cases h with
  | person hnumber =>
    obtain ⟨c, cs, rfl⟩ := List.exists_cons_of_length_eq_add_one hnumber.1
    exact ⟨c, _, rfl, hnumber.isWordChar c List.mem_cons_self⟩
  | lettered hpaired => exact ⟨_, _, rfl, isWordChar_of_isCapital hpaired.isCapital_kind⟩

/-- A token ends in a word character. -/
theorem exists_last (h : Token body) : ∃ cs c, body = cs ++ [c] ∧ isWordChar c = true := by
  cases h with
  | @person number mark control _ _ hcontrol =>
    exact ⟨number ++ mark, control, (List.append_assoc ..).symm, isWordChar_of_isCapital hcontrol⟩
  | @lettered kind control mark number mark' hpaired =>
    exact ⟨kind :: (mark ++ (number ++ mark')), control, by simp, hpaired.isWordChar_control⟩

end Token

/-! ### The pattern -/

/-- A separator is optional. -/
private theorem recognizes_separator : Pattern.separator.Recognizes IsMark := by
  have hone : (Pattern.anyOf "-.").Recognizes fun cs =>
      ∃ c, "-.".toList.contains c = true ∧ cs = [c] := recognizes_one
  refine hone.optional.congr fun cs => ?_
  constructor
  · rintro (⟨c, hc, rfl⟩ | rfl)
    · have hmarks : ∀ c ∈ "-.".toList, IsMark [c] := by
        unfold IsMark
        decide
      exact hmarks c (List.contains_iff_mem.mp hc)
    · exact List.mem_cons_self
  · intro hmark
    have hmarks : ∀ mark ∈ [[], ['-'], ['.']],
        (∃ c ∈ "-.".toList, mark = [c]) ∨ mark = [] := by decide
    refine (hmarks cs hmark).imp_left ?_
    rintro ⟨c, hc, rfl⟩
    exact ⟨c, List.contains_iff_mem.mpr hc, rfl⟩

/-- A country is optional. -/
private theorem recognizes_country : (Pattern.optional (Pattern.sequence
    [.char 'E', .char 'S', Pattern.separator])).Recognizes IsCountry := by
  have hletter : ∀ letter, (Pattern.char letter).Recognizes fun cs =>
      ∃ c, (c == letter) = true ∧ cs = [c] := fun _ => recognizes_one
  refine ((hletter 'E').sequence ((hletter 'S').sequence
    recognizes_separator.sequence_singleton)).optional.congr
    fun cs => ?_
  rw [or_comm, IsCountry]
  refine or_congr_right ?_
  constructor
  · rintro ⟨_, _, ⟨c, hc, rfl⟩, ⟨_, mark, ⟨d, hd, rfl⟩, hmark, rfl⟩, rfl⟩
    rw [eq_of_beq hc, eq_of_beq hd]
    exact ⟨mark, hmark, rfl⟩
  · rintro ⟨mark, hmark, rfl⟩
    exact ⟨['E'], 'S' :: mark, ⟨'E', rfl, rfl⟩, ⟨['S'], mark, ⟨'S', rfl, rfl⟩, hmark, rfl⟩, rfl⟩

/-- The texts of a letter, seven digits and a control character. -/
private theorem recognizes_lettered (kinds controls : Char → Bool) :
    (Pattern.sequence [.one kinds, Pattern.separator, .times Pattern.digit 7, Pattern.separator,
      .one controls]).Recognizes fun cs => ∃ kind mark number mark' control, kinds kind = true ∧
        IsMark mark ∧ IsNumber 7 number ∧ IsMark mark' ∧ controls control = true ∧
        cs = kind :: (mark ++ (number ++ (mark' ++ [control]))) := by
  have hdigits : (Pattern.times Pattern.digit 7).Recognizes (IsNumber 7) := recognizes_times_one
  refine (recognizes_one.sequence (recognizes_separator.sequence (hdigits.sequence
    (recognizes_separator.sequence recognizes_one.sequence_singleton)))).congr fun cs => ?_
  constructor
  · rintro ⟨_, _, ⟨kind, hkind, rfl⟩, ⟨mark, _, hmark, ⟨number, _, hnumber, ⟨mark', _, hmark',
      ⟨control, hcontrol, rfl⟩, rfl⟩, rfl⟩, rfl⟩, rfl⟩
    exact ⟨kind, mark, number, mark', control, hkind, hmark, hnumber, hmark', hcontrol, rfl⟩
  · rintro ⟨kind, mark, number, mark', control, hkind, hmark, hnumber, hmark', hcontrol, rfl⟩
    exact ⟨[kind], _, ⟨kind, hkind, rfl⟩, ⟨mark, _, hmark, ⟨number, _, hnumber, ⟨mark', _, hmark',
      ⟨control, hcontrol, rfl⟩, rfl⟩, rfl⟩, rfl⟩, rfl⟩

/-- The pattern of identifiers, apart from the country and what stands around. -/
private theorem recognizes_token : (Pattern.choice [
    .sequence [Pattern.companyLetter, Pattern.separator, .times Pattern.digit 7,
      Pattern.separator, Pattern.companyControl],
    .sequence [.times Pattern.digit 8, Pattern.separator, Pattern.capital],
    .sequence [Pattern.foreignerLetter, Pattern.separator, .times Pattern.digit 7,
      Pattern.separator, Pattern.capital]]).Recognizes Token := by
  have hdigits : (Pattern.times Pattern.digit 8).Recognizes (IsNumber 8) := recognizes_times_one
  have hperson : (Pattern.sequence [.times Pattern.digit 8, Pattern.separator,
      Pattern.capital]).Recognizes _ :=
    hdigits.sequence (recognizes_separator.sequence recognizes_one.sequence_singleton)
  refine (Recognizes.choice (recognizes_lettered isCompanyKind isCompanyControl)
    (hperson.choice (recognizes_lettered isForeignerKind isCapital).choice_singleton)).congr
    fun cs => ?_
  constructor
  · rintro (⟨kind, mark, number, mark', control, hkind, hmark, hnumber, hmark', hcontrol, rfl⟩ |
      ⟨number, _, hnumber, ⟨mark, _, hmark, ⟨control, hcontrol, rfl⟩, rfl⟩, rfl⟩ |
      ⟨kind, mark, number, mark', control, hkind, hmark, hnumber, hmark', hcontrol, rfl⟩)
    · exact .lettered (.inl ⟨hkind, hcontrol⟩) hmark hnumber hmark'
    · exact .person hnumber hmark hcontrol
    · exact .lettered (.inr ⟨hkind, hcontrol⟩) hmark hnumber hmark'
  · intro htoken
    cases htoken with
    | person hnumber hmark hcontrol =>
      exact .inr (.inl ⟨_, _, hnumber, ⟨_, _, hmark, ⟨_, hcontrol, rfl⟩, rfl⟩, rfl⟩)
    | lettered hpaired hmark hnumber hmark' =>
      rcases hpaired with ⟨hkind, hcontrol⟩ | ⟨hkind, hcontrol⟩
      · exact .inl ⟨_, _, _, _, _, hkind, hmark, hnumber, hmark', hcontrol, rfl⟩
      · exact .inr (.inr ⟨_, _, _, _, _, hkind, hmark, hnumber, hmark', hcontrol, rfl⟩)

/-- **Identifiers on a line.** The pattern of identifiers takes a token with a country or without
one, if no word character stands before it or behind it. -/
theorem mem_run_taxIdToken :
    b ∈ Pattern.taxIdToken.run a ↔ ∃ country body rest, a.rest = country ++ (body ++ rest) ∧
      IsCountry country ∧ Token body ∧ a.before.any isWordChar = false ∧
      rest.head?.any isWordChar = false ∧ b = a.past (country ++ body) rest := by
  have hfront : ∀ country body rest, IsCountry country → Token body →
      a.rest = country ++ (body ++ rest) →
        (a.isBoundary = true ↔ a.before.any isWordChar = false) := by
    rintro country body rest hcountry hbody hrest
    obtain ⟨c, cs, rfl, hc⟩ := hbody.exists_head
    rcases hcountry with rfl | ⟨mark, -, rfl⟩
    · exact Pattern.Place.isBoundary_front hrest hc
    · exact Pattern.Place.isBoundary_front hrest (by decide +kernel)
  have hbehind : ∀ country body rest, Token body →
      ((a.past (country ++ body) rest).isBoundary = true ↔ rest.head?.any isWordChar = false) := by
    rintro country body rest hbody
    obtain ⟨cs, c, rfl, hc⟩ := hbody.exists_last
    rw [← List.append_assoc]
    exact Pattern.Place.isBoundary_behind hc
  have hlast : Pattern.sequence [Pattern.boundary] = Pattern.boundary := rfl
  simp only [Pattern.taxIdToken, mem_run_sequence, hlast, mem_run_boundary,
    recognizes_country _ _, recognizes_token _ _]
  constructor
  · rintro ⟨_, ⟨hboundary, rfl⟩, _, ⟨country, rest, hrest, hcountry, rfl⟩, _,
      ⟨body, rest', hrest', hbody, rfl⟩, hend, rfl⟩
    obtain rfl : rest = body ++ rest' := hrest'
    rw [Pattern.Place.past_past] at hend ⊢
    exact ⟨country, body, rest', hrest, hcountry, hbody,
      (hfront country body rest' hcountry hbody hrest).mp hboundary,
      (hbehind country body rest' hbody).mp hend, rfl⟩
  · rintro ⟨country, body, rest, hrest, hcountry, hbody, hbefore, hend, rfl⟩
    refine ⟨a, ⟨(hfront country body rest hcountry hbody hrest).mpr hbefore, rfl⟩, _,
      ⟨country, body ++ rest, hrest, hcountry, rfl⟩, _, ⟨body, rest, rfl, hbody, rfl⟩, ?_⟩
    rw [Pattern.Place.past_past]
    exact ⟨(hbehind country body rest hbody).mpr hend, rfl⟩

/-! ### Occurrences -/

/-- A token stands in a text, with a country or without one. -/
structure Occurrence (cs front country body back : List Char) : Prop where
  text_eq : cs = front ++ (country ++ (body ++ back))
  isCountry : IsCountry country
  token : Token body
  front_free : front.getLast?.any isWordChar = false
  back_free : back.head?.any isWordChar = false

variable {front back rest : List Char}

/-- Behind a part of a text the pattern matches the tokens that stand there. -/
theorem mem_run_past (htext : cs = front ++ rest) :
    b ∈ Pattern.taxIdToken.run ((Pattern.Place.ofChars cs).past front rest) ↔
      ∃ country body back, Occurrence cs front country body back ∧
        rest = country ++ (body ++ back) ∧
        b = (Pattern.Place.ofChars cs).past (front ++ (country ++ body)) back := by
  have hbefore : ((Pattern.Place.ofChars cs).past front rest).before = front.getLast? :=
    Option.or_none
  rw [mem_run_taxIdToken, hbefore]
  constructor
  · rintro ⟨country, body, back, hrest, hcountry, hbody, hfront, hback, rfl⟩
    obtain rfl : rest = country ++ (body ++ back) := hrest
    exact ⟨country, body, back, ⟨htext, hcountry, hbody, hfront, hback⟩, rfl,
      Pattern.Place.past_past ..⟩
  · rintro ⟨country, body, back, hoccurs, rfl, rfl⟩
    exact ⟨country, body, back, rfl, hoccurs.isCountry, hoccurs.token, hoccurs.front_free,
      hoccurs.back_free, (Pattern.Place.past_past ..).symm⟩

/-- What a search finds are tokens that stand in the text. -/
theorem exists_occurrence_of_mem_findAll {m : Pattern.Match}
    (h : m ∈ Pattern.taxIdToken.findAll cs) : ∃ front country body back,
      Occurrence cs front country body back ∧ m.span.text = String.ofList (country ++ body) := by
  obtain ⟨a, b, hfollows, hb, rfl⟩ := Pattern.exists_place_of_mem_scan h
  obtain ⟨front, htext, hplace⟩ := hfollows.exists_past
  rw [show { a with groups := [] } = (Pattern.Place.ofChars cs).past front a.rest from hplace] at hb
  obtain ⟨country, body, back, hoccurs, hrest, rfl⟩ := (mem_run_past htext).mp hb
  refine ⟨front, country, body, back, hoccurs, Pattern.Place.text_spanTo ?_⟩
  rw [hrest, ← List.append_assoc]
  rfl

/-- In a text in capitals only the separators are dropped from a token, and the country. -/
theorem Occurrence.normalizeChars_eq
    (h : Occurrence (Text.upperChars cs) front country body back) :
    normalizeChars (country ++ body) = dropCountry (joined country ++ joined body) := by
  have hsettled : ∀ c ∈ joined (country ++ body), Text.upperChar c = [c] := by
    intro c hc
    have hmem : c ∈ Text.upperChars cs := by
      rw [h.text_eq, ← List.append_assoc country]
      exact List.mem_append_right _ (List.mem_append_left _ (List.mem_filter.mp hc).1)
    obtain ⟨d, -, hd⟩ := List.mem_flatMap.mp hmem
    exact Text.upperChar_of_mem hd
  rw [← joined_append]
  exact congrArg dropCountry (Text.upperChars_eq_self hsettled)

/-- Nothing is dropped from an identifier without a country. -/
theorem Shaped.dropCountry_eq (h : Shaped cs) : dropCountry cs = cs := by
  obtain ⟨c, d, rest, rfl, hd⟩ := h.exists_second
  unfold dropCountry
  split
  case h_1 heq =>
    obtain ⟨-, hsecond⟩ := List.cons.inj heq
    obtain ⟨rfl, -⟩ := List.cons.inj hsecond
    exact nomatch hd
  case h_2 => rfl

/-- A country is dropped in front of nine bytes. -/
theorem dropCountry_of_byteLength (h : Text.byteLength cs = 9) :
    dropCountry ('E' :: 'S' :: cs) = cs := if_pos h

/-- The canonical form of a token is its identifier, if the country can be dropped. -/
theorem Occurrence.normalizeChars_eq_joined
    (h : Occurrence (Text.upperChars cs) front country body back)
    (hcountry : country = [] ∨ Text.byteLength (joined body) = 9) :
    normalizeChars (country ++ body) = joined body := by
  rw [h.normalizeChars_eq]
  rcases h.isCountry.joined_eq with rfl | heq
  · exact h.token.shaped_joined.dropCountry_eq
  · rcases hcountry with rfl | hnine
    · exact nomatch heq
    · rw [heq]
      exact dropCountry_of_byteLength hnine

end InvoiceFields.TaxId
