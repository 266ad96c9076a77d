import InvoiceFields.Proofs.Amount.Grouping
import InvoiceFields.Proofs.Amount.Reading

/-!
# The spellings of an amount

An amount is spelled with a comma or a point before its decimals, with its thousands grouped by the
other one or by a space, with padding anywhere, and with currencies around it. All spellings of one
number are read as the same decimal, which has its sign, its digits and as many fraction digits as
are written (`exists_normalize?_spellings`).
-/

namespace InvoiceFields.Amount

open Text (isAsciiDigit digitsValue)

variable {a b cs ds sign spelling front before body after : List Char} {c s : Char}

/-! ### Spellings -/

/-- The spellings of a number by the digits before and behind its decimal point. -/
def spellings (a b : List Char) : List (List Char) :=
  [a ++ ',' :: b, a ++ '.' :: b, groupedBy '.' a ++ ',' :: b, groupedBy ',' a ++ '.' :: b,
    groupedBy ' ' a ++ ',' :: b, groupedBy '\u00a0' a ++ ',' :: b,
    groupedBy '\u202f' a ++ ',' :: b]

/-- A text with padding put in anywhere. -/
inductive Padded : List Char → List Char → Prop
  | nil : Padded [] []
  | keep {c : Char} {cs ds : List Char} (h : Padded cs ds) : Padded (c :: cs) (c :: ds)
  | put {c : Char} {cs ds : List Char} (hc : isPadding c = true) (h : Padded cs ds) :
      Padded cs (c :: ds)

/-- What is put in does not count. -/
theorem Padded.kept_eq (h : Padded cs ds) : kept ds = kept cs := by
  induction h with
  | nil => rfl
  | @keep c cs ds _ ih =>
    rw [← List.singleton_append, kept_append, ih, ← kept_append, List.singleton_append]
  | @put c cs ds hc _ ih =>
    rw [← List.singleton_append, kept_append, kept_eq_nil (List.forall_mem_singleton.mpr hc), ih,
      List.nil_append]

theorem Padded.forall_mem (h : Padded cs ds) : ∀ c ∈ ds, isPadding c = true ∨ c ∈ cs := by
  induction h with
  | nil => exact List.forall_mem_nil _
  | keep _ ih =>
    refine List.forall_mem_cons.mpr ⟨.inr List.mem_cons_self, fun c hc => ?_⟩
    exact (ih c hc).imp_right (List.mem_cons_of_mem _)
  | put hc _ ih => exact List.forall_mem_cons.mpr ⟨.inl hc, ih⟩

theorem padded_self (cs : List Char) : Padded cs cs := by
  induction cs with
  | nil => exact .nil
  | cons c cs ih => exact .keep ih

/-- Digits that are written with margins only between them, in front of another separator. -/
structure Spelled (ds front : List Char) (s : Char) : Prop where
  filter_eq : (front.filter fun c => !isMargin c) = ds
  not_mem : s ∉ front
  separates : isSeparator s = true
  not_letter : ∀ c ∈ front, c ∉ currencyLetters

theorem not_isMargin_of_isAsciiDigit (h : isAsciiDigit c = true) : (!isMargin c) = true := by
  rw [isMargin, isPadding_of_isDecimalDigit (Text.isDecimalDigit_of_isAsciiDigit h),
    isSeparator_of_isAsciiDigit h]
  rfl

/-- Between the digits any margins may stand that are not the separator. -/
theorem spelled_of_forall_mem (ha : ∀ c ∈ a, isAsciiDigit c = true) (hs : isSeparator s = true)
    (hfilter : (front.filter fun c => !isMargin c) = a)
    (hfront : ∀ c ∈ front, c ∈ a ∨ isMargin c = true ∧ c ≠ s) : Spelled a front s := by
  refine ⟨hfilter, fun hmem => ?_, hs, fun c hc => ?_⟩
  · rcases hfront s hmem with hmem | ⟨-, hne⟩
    · exact not_mem_of_forall_eq_false (fun c hc => isSeparator_of_isAsciiDigit (ha c hc)) hs hmem
    · exact hne rfl
  · rcases hfront c hc with hc | ⟨hmargin, -⟩
    · exact not_mem_currencyLetters_of_isDecimalDigit
        (Text.isDecimalDigit_of_isAsciiDigit (ha c hc))
    · exact not_mem_currencyLetters_of_isMargin hmargin

/-- Digits are written in groups with marks that are no such separator. -/
theorem spelled_groupedBy {g : Char} (ha : ∀ c ∈ a, isAsciiDigit c = true)
    (hg : isMargin g = true) (hs : isSeparator s = true) (hne : g ≠ s) :
    Spelled a (groupedBy g a) s := by
  refine spelled_of_forall_mem ha hs ?_ fun c hc => ?_
  · exact filter_groupedBy (by rw [hg]; rfl) fun c hc => not_isMargin_of_isAsciiDigit (ha c hc)
  · rcases mem_groupedBy hc with rfl | hc
    · exact .inr ⟨hg, hne⟩
    · exact .inl hc

/-- Digits are written without groups. -/
theorem spelled_self (ha : ∀ c ∈ a, isAsciiDigit c = true) (hs : isSeparator s = true) :
    Spelled a a s := by
  refine spelled_of_forall_mem ha hs ?_ fun c hc => .inl hc
  exact List.filter_eq_self.mpr fun c hc => not_isMargin_of_isAsciiDigit (ha c hc)

theorem exists_spelled (ha : ∀ c ∈ a, isAsciiDigit c = true) (h : spelling ∈ spellings a b) :
    ∃ front s, spelling = front ++ s :: b ∧ Spelled a front s := by
  simp only [spellings, List.mem_cons, List.not_mem_nil, or_false] at h
  rcases h with rfl | rfl | rfl | rfl | rfl | rfl | rfl
  · exact ⟨_, _, rfl, spelled_self ha rfl⟩
  · exact ⟨_, _, rfl, spelled_self ha rfl⟩
  all_goals exact ⟨_, _, rfl, spelled_groupedBy ha (by decide) rfl (by decide)⟩

/-! ### Reading -/

/-- A spelling is read like its digits with a point. -/
theorem Spelled.normalizeChars?_eq (h : Spelled a front s) (hsign : sign ∈ [[], ['+'], ['-']])
    (hb : b ≠ []) (hdigits : ∀ c ∈ b, isAsciiDigit c = true)
    (hbody : Padded (sign ++ (front ++ s :: b)) body) (hbefore : Fringe isPadding before)
    (hafter : Fringe isMargin after) :
    normalizeChars? (before ++ body ++ after) = Decimal.readChars? (sign ++ (a ++ '.' :: b)) := by
  have hsigns : ∀ c ∈ sign, isPadding c = false ∧ c ∉ currencyLetters :=
    Decimal.forall_mem_sign hsign (by decide) (by decide +kernel)
  have hpadding : ∀ c ∈ b, isPadding c = false := fun c hc =>
    isPadding_of_isDecimalDigit (Text.isDecimalDigit_of_isAsciiDigit (hdigits c hc))
  have hkept : kept body = sign ++ (kept front ++ s :: b) := by
    rw [hbody.kept_eq, kept_append, kept_append, kept_eq_self fun c hc => (hsigns c hc).1,
      kept_eq_self (List.forall_mem_cons.mpr ⟨isPadding_of_isSeparator h.separates, hpadding⟩)]
  have hfront : ((kept front).filter fun c => !isSeparator c) = a := by
    rw [kept, List.filter_filter, ← h.filter_eq]
    refine List.filter_congr fun c _ => ?_
    rw [isMargin, Bool.not_or, Bool.and_comm]
  have hletters : ∀ c ∈ body, c ∉ currencyLetters := by
    intro c hc
    rcases hbody.forall_mem c hc with hpad | hc
    · exact not_mem_currencyLetters_of_isPadding hpad
    · simp only [List.mem_append, List.mem_cons] at hc
      rcases hc with hc | hc | rfl | hc
      · exact (hsigns c hc).2
      · exact h.not_letter c hc
      · exact not_mem_currencyLetters_of_isMargin (by rw [isMargin, h.separates, Bool.or_true])
      · exact not_mem_currencyLetters_of_isDecimalDigit
          (Text.isDecimalDigit_of_isAsciiDigit (hdigits c hc))
  -- the decimals end in a digit
  have hlast : (kept body).getLast? = some (b.getLast hb) := by
    rw [hkept, List.getLast?_append, List.getLast?_append, List.getLast?_cons,
      List.getLast?_eq_some_getLast hb, Option.some_or, Option.some_or]
    rfl
  have hend := hdigits _ (List.getLast_mem hb)
  have hread := Amount.normalizeChars?_eq hbefore hletters hafter
    (fun c hc => by
      obtain rfl := Option.some.inj (hlast.symm.trans hc)
      exact isSeparator_of_isAsciiDigit hend)
    ⟨_, List.mem_of_getLast? hlast, hend⟩
  have honce : s ∉ kept front := fun hmem => h.not_mem (List.mem_of_mem_filter hmem)
  rw [hread, hkept, canonical_signed hsign h.separates honce
    (fun c hc => isSeparator_of_isAsciiDigit (hdigits c hc)), hfront]

/-- **Spellings.** All spellings of a number of at most 28 digits, with padding put in anywhere and
currencies around them, are read as the decimal of its sign and its digits. -/
theorem exists_normalize?_spellings (hsign : sign ∈ [[], ['+'], ['-']]) (ha : a ≠ []) (hb : b ≠ [])
    (hdigits : ∀ c ∈ a ++ b, isAsciiDigit c = true) (hlength : a.length + b.length ≤ 28) :
    ∃ d : Decimal, d.coefficient = Decimal.signed (decide (sign = ['-'])) (digitsValue (a ++ b)) ∧
      d.scale = b.length ∧
      ∀ spelling ∈ spellings a b, ∀ body before after, Padded (sign ++ spelling) body →
        Fringe isPadding before → Fringe isMargin after →
          normalize? (String.ofList (before ++ body ++ after)) = some d := by
  obtain ⟨hwhole, hfraction⟩ := List.forall_mem_append.mp hdigits
  obtain ⟨d, hread, hcoefficient, hscale⟩ :=
    Decimal.exists_readChars?_pointed hsign ha hwhole hfraction hlength
  refine ⟨d, hcoefficient, hscale, ?_⟩
  intro spelling hspelling body before after hbody hbefore hafter
  obtain ⟨front, s, rfl, hspelled⟩ := exists_spelled hwhole hspelling
  rw [normalize?, String.toList_ofList,
    hspelled.normalizeChars?_eq hsign hb hfraction hbody hbefore hafter]
  exact hread

theorem exists_normalize?_spellings_grouped :
    ∃ d : Decimal, d.coefficient = -123456750 ∧ d.scale = 2 ∧
      normalize? "EUR -1.234 .567,50 €." = some d := by
  have hdigits : ∀ c ∈ "1234567".toList ++ "50".toList, isAsciiDigit c = true := by decide
  obtain ⟨d, hcoefficient, hscale, hall⟩ :=
    exists_normalize?_spellings (by decide : ['-'] ∈ [[], ['+'], ['-']]) (by decide) (by decide)
      hdigits (by decide)
  have hspelling : "1.234.567,50".toList ∈ spellings "1234567".toList "50".toList := by decide
  have hbody : Padded (['-'] ++ "1.234.567,50".toList) "-1.234 .567,50".toList :=
    .keep (.keep (.keep (.keep (.keep (.keep (.put (by decide) (padded_self _)))))))
  have hspells : Pattern.Spells "eur".toList "EUR".toList :=
    .cons (by decide) (.cons (by decide) (.cons (by decide) .nil))
  have hword : IsCurrencyWord "EUR".toList := ⟨"eur", by decide, hspells⟩
  have hbefore : Fringe isPadding ("EUR".toList ++ [' ']) := .word hword (.char (by decide) .nil)
  have hafter : Fringe isMargin " €.".toList := fringe_of_forall (by decide)
  have htext : "EUR -1.234 .567,50 €." =
      String.ofList ("EUR".toList ++ [' '] ++ "-1.234 .567,50".toList ++ " €.".toList) := by
    decide
  have hread := hall _ hspelling _ _ _ hbody hbefore hafter
  rw [← htext] at hread
  exact ⟨d, hcoefficient, hscale, hread⟩

end InvoiceFields.Amount
