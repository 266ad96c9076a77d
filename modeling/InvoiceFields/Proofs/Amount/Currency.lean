import InvoiceFields.Amount
import InvoiceFields.Proofs.Pattern.Preference

/-!
# Currencies around a number

Currency words are erased before a number is read, and blanks and decoration are dropped. A text
that is made up of such words and of characters of a kind is a `Fringe`; what is left of a fringe
around a number are the characters alone (`exists_erase_fringes`). The currency mark behind a number
on a line is one (`exists_mark`).
-/

namespace InvoiceFields.Amount

open Pattern (Place Prefers Spells isCaseOf currencyWord mem_run_word mem_run_one mem_run_seq
  mem_run_alt mem_run_empty prefers_one prefers_word prefers_optional_self run_one_eq_nil
  run_seq_eq_nil run_alt_eq_nil eraseFrom_append eraseFrom_of_prefers)

variable {a b : Place} {p q : Char → Bool} {c : Char} {cs ds w before body after rest : List Char}

/-! ### Characters -/

/-- What is dropped wherever it stands: blanks and decoration. -/
def isPadding (c : Char) : Bool := Text.isBlank c || decoration.contains c

/-- What may stand behind a number: padding, and separators that mark no decimals. -/
def isMargin (c : Char) : Bool := isPadding c || isSeparator c

/-- The letters of currency words in all their forms. -/
def currencyLetters : List Char := "eurosd".toList.flatMap fun l => l :: Pattern.otherForms l

theorem isCaseOf_iff {l : Char} : isCaseOf l c = true ↔ c ∈ l :: Pattern.otherForms l := by
  rw [isCaseOf, Bool.or_eq_true, beq_iff_eq, List.contains_iff_mem, List.mem_cons]

theorem mem_currencyLetters {l : Char} (hl : l ∈ "eurosd".toList) (h : isCaseOf l c = true) :
    c ∈ currencyLetters :=
  List.mem_flatMap.mpr ⟨l, hl, isCaseOf_iff.mp h⟩

/-- A character of a kind is not among characters that are not of it. -/
theorem not_mem_of_forall_eq_false (hcs : ∀ d ∈ cs, p d = false) (h : p c = true) : c ∉ cs := by
  intro hc
  rw [hcs c hc] at h
  exact nomatch h

/-- No letter of a currency is dropped with the padding. -/
theorem not_mem_currencyLetters_of_isMargin (h : isMargin c = true) : c ∉ currencyLetters := by
  have hall : ∀ c ∈ currencyLetters, isMargin c = false := by decide
  exact not_mem_of_forall_eq_false hall h

theorem not_mem_currencyLetters_of_isPadding (h : isPadding c = true) : c ∉ currencyLetters :=
  not_mem_currencyLetters_of_isMargin (by rw [isMargin, h, Bool.true_or])

/-! ### Words -/

/-- The words of the currencies in any case. -/
def IsCurrencyWord (w : List Char) : Prop :=
  ∃ s ∈ ["euro", "euros", "eur", "usd"], Spells s.toList w

/-- Whether a character goes on with a currency word that could end in front of it. -/
def goesOn (c : Char) : Bool := isCaseOf 'o' c || isCaseOf 's' c

theorem goesOn_eq_false (h : c ∉ currencyLetters) : goesOn c = false := by
  rw [goesOn, Bool.or_eq_false_iff]
  exact ⟨Bool.eq_false_iff.mpr fun ho => h (mem_currencyLetters (by decide) ho),
    Bool.eq_false_iff.mpr fun hs => h (mem_currencyLetters (by decide) hs)⟩

/-- A currency word begins with `e` or `u`, and goes on with no other one. -/
theorem IsCurrencyWord.exists_cons (h : IsCurrencyWord w) :
    ∃ c cs, w = c :: cs ∧ goesOn c = false := by
  have hall : ∀ l ∈ ['e', 'u'], ∀ c ∈ l :: Pattern.otherForms l, goesOn c = false := by decide
  have hfirst : ∀ s ∈ ["euro", "euros", "eur", "usd"],
      ∃ l ∈ ['e', 'u'], s.toList.head? = some l := by decide
  obtain ⟨s, hs, hspells⟩ := h
  obtain ⟨l, hl, hhead⟩ := hfirst s hs
  obtain ⟨ls, hls⟩ := List.head?_eq_some_iff.mp hhead
  rw [hls] at hspells
  obtain ⟨c, cs, hc, -, rfl⟩ := List.forall₂_cons_left_iff.mp hspells
  exact ⟨c, cs, rfl, hall l hl c (isCaseOf_iff.mp hc)⟩

/-- A currency word is matched whole. -/
theorem IsCurrencyWord.prefers (hw : IsCurrencyWord w)
    (hend : ∀ c, rest.head? = some c → goesOn c = false) (hrest : a.rest = w ++ rest) :
    currencyWord.Prefers a (a.past w rest) := by
  obtain ⟨s, hs, hspells⟩ := hw
  simp only [List.mem_cons, List.not_mem_nil, or_false] at hs
  rcases hs with rfl | rfl | rfl | rfl
  · refine Prefers.alt_left (Prefers.seq (prefers_word hspells hrest) ?_)
    exact prefers_optional_self (run_one_eq_nil fun c hc =>
      (Bool.or_eq_false_iff.mp (hend c hc)).2)
  · -- the last letter of the plural is the optional one
    obtain ⟨cs, ds, rfl, heuro, hs⟩ := Spells.exists_append
      (show Spells ("euro".toList ++ ['s']) w from hspells)
    obtain ⟨c, _, hc, hnil, rfl⟩ := List.forall₂_cons_left_iff.mp hs
    obtain rfl := List.forall₂_nil_left_iff.mp hnil
    rw [List.append_assoc] at hrest
    exact Prefers.alt_left ((prefers_word heuro hrest).seq_past (prefers_one rfl hc).optional)
  · -- behind the three letters stands no fourth one
    refine Prefers.alt_right (prefers_word hspells hrest).alt_left (run_seq_eq_nil ?_)
    refine List.eq_nil_iff_forall_not_mem.mpr fun b hb => ?_
    obtain ⟨cs, rest', hrest', heuro, -⟩ := mem_run_word.mp hb
    obtain ⟨eur, ds, rfl, heur, ho⟩ := Spells.exists_append
      (show Spells ("eur".toList ++ ['o']) cs from heuro)
    obtain ⟨o, _, hcase, -, rfl⟩ := List.forall₂_cons_left_iff.mp ho
    rw [hrest, List.append_assoc] at hrest'
    obtain ⟨-, rfl⟩ := List.append_inj hrest' (hspells.length_eq.symm.trans heur.length_eq)
    have hgoes := hend o rfl
    rw [goesOn, hcase, Bool.true_or] at hgoes
    exact nomatch hgoes
  · have hall : ∀ c ∈ 'u' :: Pattern.otherForms 'u', isCaseOf 'e' c = false := by decide
    have hfirst : ∀ c, a.rest.head? = some c → isCaseOf 'e' c = false := by
      obtain ⟨u, cs, hu, -, rfl⟩ := List.forall₂_cons_left_iff.mp hspells
      rw [hrest]
      rintro _ ⟨⟩
      exact hall u (isCaseOf_iff.mp hu)
    refine Prefers.alt_right (Prefers.alt_right (prefers_word hspells hrest) ?_) ?_
    · exact run_seq_eq_nil (run_one_eq_nil hfirst)
    · exact run_seq_eq_nil (run_seq_eq_nil (run_one_eq_nil hfirst))

/-- No currency word begins with a character that is not in one. -/
theorem run_currencyWord_eq_nil (h : ∀ c, a.rest.head? = some c → c ∉ currencyLetters) :
    currencyWord.run a = [] := by
  have hletter : ∀ l ∈ "eurosd".toList, ∀ c, a.rest.head? = some c → isCaseOf l c = false :=
    fun l hl c hc => Bool.eq_false_iff.mpr fun hcase => h c hc (mem_currencyLetters hl hcase)
  have he := run_one_eq_nil (hletter 'e' (by decide))
  have hu := run_one_eq_nil (hletter 'u' (by decide))
  refine run_alt_eq_nil (run_seq_eq_nil (run_seq_eq_nil he)) ?_
  exact run_alt_eq_nil (run_seq_eq_nil he) (run_seq_eq_nil hu)

/-! ### Fringes -/

/-- A text of currency words and of characters of a kind. -/
inductive Fringe (p : Char → Bool) : List Char → Prop
  | nil : Fringe p []
  | char {c : Char} {cs : List Char} (hc : p c = true) (hcs : Fringe p cs) : Fringe p (c :: cs)
  | word {w cs : List Char} (hw : IsCurrencyWord w) (hcs : Fringe p cs) : Fringe p (w ++ cs)

section Fringe

variable (hp : ∀ c, p c = true → c ∉ currencyLetters)
include hp

/-- No currency word goes on into a fringe. -/
theorem Fringe.goesOn_eq_false (h : Fringe p cs)
    (hend : ∀ c, rest.head? = some c → goesOn c = false) :
    ∀ c, (cs ++ rest).head? = some c → goesOn c = false := by
  cases h with
  | nil => exact hend
  | char hc =>
    rintro _ ⟨⟩
    exact Amount.goesOn_eq_false (hp _ hc)
  | word hw =>
    obtain ⟨c, cs, rfl, hc⟩ := hw.exists_cons
    rintro _ ⟨⟩
    exact hc

/-- What is left of a fringe are the characters between its words. -/
theorem Fringe.exists_eraseFrom (h : Fringe p cs)
    (hend : ∀ c, rest.head? = some c → goesOn c = false) (hgroups : a.groups = [])
    (hrest : a.rest = cs ++ rest) :
    ∃ ds, (∀ c ∈ ds, p c = true) ∧
      currencyWord.eraseFrom a = ds ++ currencyWord.eraseFrom (a.past cs rest) := by
  induction h generalizing a with
  | nil =>
    obtain rfl : a.rest = rest := hrest
    exact ⟨[], List.forall_mem_nil _, rfl⟩
  | @char c cs hc _ ih =>
    obtain ⟨ds, hds, heq⟩ := ih (a := a.past [c] (cs ++ rest)) hgroups rfl
    refine ⟨c :: ds, List.forall_mem_cons.mpr ⟨hc, hds⟩, ?_⟩
    have hstep : currencyWord.eraseFrom a =
        [c] ++ currencyWord.eraseFrom (a.past [c] (cs ++ rest)) :=
      eraseFrom_append (List.forall_mem_singleton.mpr fun m hm =>
        run_currencyWord_eq_nil fun c' hc' => by
          obtain rfl : c = c' := Option.some.inj (hm.symm.trans hc')
          exact hp c hc) hgroups hrest
    rw [hstep, heq, Place.past_past]
    rfl
  | @word w cs hw hcs ih =>
    rw [List.append_assoc] at hrest
    obtain ⟨ds, hds, heq⟩ := ih (a := a.past w (cs ++ rest)) hgroups rfl
    refine ⟨ds, hds, ?_⟩
    have hprefers := hw.prefers (hcs.goesOn_eq_false hp hend) hrest
    rw [eraseFrom_of_prefers hgroups hprefers ?_, heq, Place.past_past]
    obtain ⟨c, cs, rfl, -⟩ := hw.exists_cons
    rw [hrest, List.length_append]
    show (_ ++ rest).length < _
    simp

/-- Of the fringes around a text nothing but characters is left when the words are erased. -/
theorem exists_erase_fringes (hq : ∀ c, q c = true → c ∉ currencyLetters)
    (hbefore : Fringe p before) (hbody : ∀ c ∈ body, c ∉ currencyLetters)
    (hafter : Fringe q after) :
    ∃ left right, (∀ c ∈ left, p c = true) ∧ (∀ c ∈ right, q c = true) ∧
      currencyWord.erase (before ++ body ++ after) = left ++ body ++ right := by
  have hend : ∀ c, ([] : List Char).head? = some c → goesOn c = false := fun _ h => nomatch h
  have hnext : ∀ c, (body ++ after).head? = some c → goesOn c = false := by
    cases body with
    | nil =>
      rw [List.nil_append, ← List.append_nil after]
      exact hafter.goesOn_eq_false hq hend
    | cons c body =>
      rintro _ ⟨⟩
      exact Amount.goesOn_eq_false (hbody c List.mem_cons_self)
  obtain ⟨left, hleft, heq⟩ := hbefore.exists_eraseFrom hp hnext
    (a := .ofChars (before ++ body ++ after)) rfl (List.append_assoc ..)
  generalize hm : (Place.ofChars (before ++ body ++ after)).past before (body ++ after) = m at heq
  have hgroups : m.groups = [] := by
    rw [← hm]
    rfl
  have hkeep : currencyWord.eraseFrom m = body ++ currencyWord.eraseFrom (m.past body after) :=
    eraseFrom_append (fun c hc m hm => run_currencyWord_eq_nil fun c' hc' => by
      obtain rfl : c = c' := Option.some.inj (hm.symm.trans hc')
      exact hbody c hc) hgroups (by rw [← hm]; rfl)
  obtain ⟨right, hright, heq'⟩ := hafter.exists_eraseFrom hq hend
    (a := m.past body after) hgroups (List.append_nil after).symm
  refine ⟨left, right, hleft, hright, ?_⟩
  rw [Pattern.erase, heq, hkeep, heq', Pattern.eraseFrom_eq_nil rfl, List.append_nil,
    List.append_assoc]

end Fringe

/-- The letters of a word are those of the currencies. -/
theorem IsCurrencyWord.forall_mem (h : IsCurrencyWord w) : ∀ c ∈ w, c ∈ currencyLetters := by
  have hall : ∀ s ∈ ["euro", "euros", "eur", "usd"], ∀ l ∈ s.toList, l ∈ "eurosd".toList := by
    decide
  obtain ⟨s, hs, hspells⟩ := h
  intro c hc
  obtain ⟨l, hl, hcase⟩ := hspells.exists_letter c hc
  exact mem_currencyLetters (hall s hs l hl) hcase

theorem Fringe.forall_mem (h : Fringe p cs) : ∀ c ∈ cs, p c = true ∨ c ∈ currencyLetters := by
  induction h with
  | nil => exact List.forall_mem_nil _
  | char hc _ ih => exact List.forall_mem_cons.mpr ⟨.inl hc, ih⟩
  | word hw _ ih =>
    exact List.forall_mem_append.mpr ⟨fun c hc => .inr (hw.forall_mem c hc), ih⟩

theorem Fringe.mono (h : Fringe p cs) (hpq : ∀ c, p c = true → q c = true) : Fringe q cs := by
  induction h with
  | nil => exact .nil
  | char hc _ ih => exact .char (hpq _ hc) ih
  | word hw _ ih => exact .word hw ih

theorem fringe_of_forall (h : ∀ c ∈ cs, p c = true) : Fringe p cs := by
  induction cs with
  | nil => exact .nil
  | cons c cs ih =>
    obtain ⟨hc, hcs⟩ := List.forall_mem_cons.mp h
    exact .char hc (ih hcs)

theorem IsCurrencyWord.fringe (h : IsCurrencyWord w) : Fringe p w := by
  rw [← List.append_nil w]
  exact .word h .nil

theorem Fringe.append (hcs : Fringe p cs) (hds : Fringe p ds) : Fringe p (cs ++ ds) := by
  induction hcs with
  | nil => exact hds
  | char hc _ ih => exact .char hc ih
  | word hw _ ih =>
    rw [List.append_assoc]
    exact .word hw ih

/-! ### The mark behind a number -/

/-- A currency symbol or word. -/
def symbolPattern : Pattern :=
  .choice [.char '€', .seq (.word "euro") (.optional (.anyCase 's')), .word "eur", .char '$',
    .word "usd"]

/-- A currency behind blanks, if there is one. -/
def markPattern : Pattern := .optional (.seq (.many .blank) symbolPattern)

/-- What is taken for a currency is padding or a word. -/
private theorem exists_symbol (h : b ∈ symbolPattern.run a) :
    ∃ s rest, a.rest = s ++ rest ∧ Fringe isPadding s ∧ b = a.past s rest := by
  have hchar : ∀ {c}, isPadding c = true → b ∈ (Pattern.char c).run a →
      ∃ s rest, a.rest = s ++ rest ∧ Fringe isPadding s ∧ b = a.past s rest := by
    intro c hc hb
    obtain ⟨_, rest, hrest, heq, rfl⟩ := mem_run_one.mp hb
    obtain rfl := eq_of_beq heq
    exact ⟨[_], rest, hrest, .char hc .nil, rfl⟩
  have hword : ∀ {s}, s ∈ ["euro", "euros", "eur", "usd"] → b ∈ (Pattern.word s).run a →
      ∃ s rest, a.rest = s ++ rest ∧ Fringe isPadding s ∧ b = a.past s rest := by
    intro s hs hb
    obtain ⟨w, rest, hrest, hspells, rfl⟩ := mem_run_word.mp hb
    exact ⟨w, rest, hrest, IsCurrencyWord.fringe ⟨s, hs, hspells⟩, rfl⟩
  rcases mem_run_alt.mp h with h | h
  · exact hchar (by decide) h
  rcases mem_run_alt.mp h with h | h
  · obtain ⟨m, hm, h⟩ := mem_run_seq.mp h
    obtain ⟨w, rest, hrest, hspells, rfl⟩ := mem_run_word.mp hm
    rcases mem_run_alt.mp h with h | h
    · obtain ⟨c, rest', hrest', hc, rfl⟩ := mem_run_one.mp h
      obtain rfl : rest = c :: rest' := hrest'
      have hplural : Spells "euros".toList (w ++ [c]) := List.rel_append hspells (.cons hc .nil)
      refine ⟨w ++ [c], rest', by rw [hrest, List.append_assoc]; rfl,
        IsCurrencyWord.fringe ⟨"euros", by decide, hplural⟩, Place.past_past ..⟩
    · rw [mem_run_empty.mp h]
      exact ⟨w, rest, hrest, IsCurrencyWord.fringe ⟨"euro", by decide, hspells⟩, rfl⟩
  rcases mem_run_alt.mp h with h | h
  · exact hword (by decide) h
  rcases mem_run_alt.mp h with h | h
  · exact hchar (by decide) h
  · exact hword (by decide) h

/-- The currency mark behind a number is a fringe. -/
theorem exists_mark (h : b ∈ markPattern.run a) :
    ∃ mark rest, a.rest = mark ++ rest ∧ Fringe isPadding mark ∧ b = a.past mark rest := by
  rcases mem_run_alt.mp h with h | h
  · obtain ⟨m, hm, h⟩ := mem_run_seq.mp h
    obtain ⟨blanks, rest, hrest, hblanks, rfl⟩ := Pattern.reads_of_mem_run_many_one hm
    obtain ⟨s, rest', hrest', hs, rfl⟩ := exists_symbol h
    obtain rfl : rest = s ++ rest' := hrest'
    refine ⟨blanks ++ s, rest', by rw [hrest, List.append_assoc], ?_, Place.past_past ..⟩
    refine (fringe_of_forall fun c hc => ?_).append hs
    rw [isPadding, hblanks c hc, Bool.true_or]
  · rw [mem_run_empty.mp h]
    exact ⟨[], a.rest, rfl, .nil, rfl⟩

end InvoiceFields.Amount
