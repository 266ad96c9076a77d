import InvoiceFields.Text.Blank
import InvoiceFields.Text.Case

/-!
# Parts of a text in lower case

Lower-casing goes through a text character by character, but a capital sigma becomes the final form
at the end of a word. What a part of a text becomes may therefore depend on what stands around it
(`lowerBetween`). It does not if the part settles its capital sigmas itself, and then it is found
in the text in lower case, too (`lowerChars_infix`). A part that leaves a capital sigma open stands
in some text in which it is not found in lower case (`exists_lowerChars_not_infix`).
-/

namespace InvoiceFields.Text

variable {a b before behind cs m needle text : List Char} {c : Char}

/-! ### Searching -/

/-- A text is found where it is a piece of another one. -/
theorem occursIn_iff_infix : occursIn needle cs = true ↔ needle <:+: cs := by
  induction cs with
  | nil => simp [occursIn]
  | cons c cs ih =>
    rw [occursIn, Bool.or_eq_true, ih, List.isPrefixOf_iff_prefix, List.infix_cons_iff]

/-! ### Characters between others -/

/-- What a character becomes, given what stands before it, nearest first, and behind it. -/
def lowerAt (before : List Char) (c : Char) (behind : List Char) : List Char :=
  if c = 'Σ' then
    if casedAfterIgnorable before && !casedAfterIgnorable behind then ['ς'] else ['σ']
  else lowerChar c

/-- What a part of a text becomes, given what stands before it, nearest first, and behind it. -/
def lowerBetween (before behind : List Char) : List Char → List Char
  | [] => []
  | c :: cs => lowerAt before c (cs ++ behind) ++ lowerBetween (c :: before) behind cs

theorem lowerAfter_cons (before : List Char) (c : Char) (cs : List Char) :
    lowerAfter before (c :: cs) = lowerAt before c cs ++ lowerAfter (c :: before) cs := rfl

theorem lowerAfter_append (before a b : List Char) :
    lowerAfter before (a ++ b) = lowerBetween before b a ++ lowerAfter (a.reverse ++ before) b := by
  induction a generalizing before with
  | nil => rfl
  | cons c a ih => simp [lowerBetween, lowerAfter_cons, ih]

theorem lowerBetween_append (before behind a b : List Char) :
    lowerBetween before behind (a ++ b) =
      lowerBetween before (b ++ behind) a ++ lowerBetween (a.reverse ++ before) behind b := by
  induction a generalizing before with
  | nil => rfl
  | cons c a ih => simp [lowerBetween, ih]

/-- Where nothing stands around a text, it is lower-cased on its own. -/
theorem lowerBetween_nil (cs : List Char) : lowerBetween [] [] cs = lowerChars cs := by
  have h := lowerAfter_append [] cs []
  rw [List.append_nil, lowerAfter, List.append_nil] at h
  exact h.symm

theorem lowerChar_ne_nil (c : Char) : lowerChar c ≠ [] := by
  unfold lowerChar
  split
  · simp
  · split
    · simp
    · split <;> simp

theorem lowerAt_ne_nil (before : List Char) (c : Char) (behind : List Char) :
    lowerAt before c behind ≠ [] := by
  unfold lowerAt
  split
  · split <;> simp
  · exact lowerChar_ne_nil c

/-- Lower-casing leaves nothing out. -/
theorem lowerChars_eq_nil_iff : lowerChars cs = [] ↔ cs = [] := by
  cases cs with
  | nil => simp [lowerChars, lowerAfter]
  | cons c cs => simp [lowerChars, lowerAfter_cons, lowerAt_ne_nil]

/-- How many characters a character becomes does not depend on what stands around it. -/
theorem length_lowerAt (before behind before' behind' : List Char) (c : Char) :
    (lowerAt before c behind).length = (lowerAt before' c behind').length := by
  by_cases hsigma : c = 'Σ'
  · simp only [lowerAt, hsigma, if_true, apply_ite List.length, List.length_singleton, ite_self]
  · simp only [lowerAt, hsigma, if_false]

theorem length_lowerBetween (before behind before' behind' cs : List Char) :
    (lowerBetween before behind cs).length = (lowerBetween before' behind' cs).length := by
  induction cs generalizing before before' with
  | nil => rfl
  | cons c cs ih =>
    rw [lowerBetween, lowerBetween, List.length_append, List.length_append, ih (c :: before)]
    rw [length_lowerAt]

/-! ### Capital sigmas -/

/-- Whether the next character that counts for the end of a word has a case, if there is one. -/
def nextCased? (cs : List Char) : Option Bool :=
  (cs.dropWhile isCaseIgnorable).head?.map isCased

theorem casedAfterIgnorable_eq (cs : List Char) :
    casedAfterIgnorable cs = (nextCased? cs).getD false := by
  rw [casedAfterIgnorable, nextCased?]
  cases cs.dropWhile isCaseIgnorable <;> rfl

theorem nextCased?_append (a b : List Char) :
    nextCased? (a ++ b) = (nextCased? a).or (nextCased? b) := by
  rw [nextCased?, List.dropWhile_append, nextCased?, nextCased?]
  cases a.dropWhile isCaseIgnorable <;> simp

/-- Whether what stands before a capital sigma, nearest first, and behind it decides its form,
whatever stands around. In front of it, nothing that has a case must be missing; if nothing that
counts stands there at all, a character that has a case must follow. -/
def settlesSigma (before behind : List Char) : Bool :=
  match nextCased? before with
  | some true => (nextCased? behind).isSome
  | some false => true
  | none => nextCased? behind == some true

theorem lowerAt_of_settlesSigma (h : settlesSigma before behind = true) :
    lowerAt (before ++ a) 'Σ' (behind ++ b) = lowerAt before 'Σ' behind := by
  simp only [lowerAt, casedAfterIgnorable_eq, nextCased?_append]
  unfold settlesSigma at h
  split at h
  · obtain ⟨next, hnext⟩ := Option.isSome_iff_exists.mp h
    simp_all
  · simp_all
  · simp_all

/-- The capital sigmas of a part are settled by the part and what stands before it, nearest
first. -/
def SettledAfter (before cs : List Char) : Prop :=
  ∀ front behind, cs = front ++ 'Σ' :: behind → settlesSigma (front.reverse ++ before) behind = true

theorem settledAfter_nil : SettledAfter before [] := by
  intro front behind h
  simp at h

theorem settledAfter_cons : SettledAfter before (c :: cs) ↔
    (c = 'Σ' → settlesSigma before cs = true) ∧ SettledAfter (c :: before) cs := by
  constructor
  · intro h
    refine ⟨fun hc => h [] cs (by rw [hc]; rfl), fun front behind hcs => ?_⟩
    simpa using h (c :: front) behind (by rw [hcs]; rfl)
  · rintro ⟨hc, hcs⟩ front behind h
    cases front with
    | nil =>
      obtain ⟨rfl, rfl⟩ := List.cons.inj h
      exact hc rfl
    | cons d front =>
      obtain ⟨rfl, rfl⟩ := List.cons.inj h
      simpa using hcs front behind rfl

instance decidableSettledAfter : (before cs : List Char) → Decidable (SettledAfter before cs)
  | _, [] => isTrue settledAfter_nil
  | before, c :: cs =>
    have := decidableSettledAfter (c :: before) cs
    decidable_of_iff _ settledAfter_cons.symm

/-- A text settles the forms of its capital sigmas. -/
def SigmasSettled (cs : List Char) : Prop := SettledAfter [] cs

instance (cs : List Char) : Decidable (SigmasSettled cs) :=
  inferInstanceAs (Decidable (SettledAfter [] cs))

/-- A part whose capital sigmas are settled becomes the same wherever it stands. -/
theorem lowerBetween_of_settledAfter (h : SettledAfter before cs) :
    lowerBetween (before ++ a) b cs = lowerBetween before [] cs := by
  induction cs generalizing before with
  | nil => rfl
  | cons c cs ih =>
    obtain ⟨hc, hcs⟩ := settledAfter_cons.mp h
    have hrest : lowerBetween (c :: (before ++ a)) b cs = lowerBetween (c :: before) [] cs := ih hcs
    rw [lowerBetween, lowerBetween, hrest, List.append_nil]
    by_cases hsigma : c = 'Σ'
    · subst hsigma
      rw [lowerAt_of_settlesSigma (hc rfl)]
    · simp [lowerAt, hsigma]

/-! ### Parts of a text -/

/-- A part that becomes the same where it stands as on its own is a part of the text in lower
case. -/
theorem lowerChars_infix_of_eq (h : lowerBetween a.reverse b m = lowerChars m) :
    lowerChars m <:+: lowerChars (a ++ m ++ b) := by
  refine ⟨lowerBetween [] (m ++ b) a, lowerAfter (m.reverse ++ a.reverse) b, ?_⟩
  rw [lowerChars, lowerChars, List.append_assoc, List.append_assoc, lowerAfter_append [] a,
    List.append_nil, lowerAfter_append _ m, h, lowerChars]

/-- A part whose capital sigmas are settled is a part of the text in lower case. -/
theorem lowerChars_infix (h : SigmasSettled m) (hpart : m <:+: text) :
    lowerChars m <:+: lowerChars text := by
  obtain ⟨a, b, rfl⟩ := hpart
  refine lowerChars_infix_of_eq ?_
  rw [← lowerBetween_nil]
  exact lowerBetween_of_settledAfter h

/-- A text that is as long as another one, and a part of that one with a further character at its
end, is that one or ends in the character. -/
theorem eq_or_getLast?_of_infix_concat (hlength : a.length = b.length) (h : a <:+: b ++ [c]) :
    a = b ∨ a.getLast? = some c := by
  rcases List.infix_concat_iff.mp h with h | h
  · rcases List.suffix_concat_iff.mp h with rfl | ⟨t, rfl, -⟩
    · exact .inl (List.eq_nil_of_length_eq_zero hlength.symm).symm
    · exact .inr List.getLast?_concat
  · exact .inl (h.eq_of_length hlength)

/-- A text that is as long as another one, and a part of that one with a further character in
front, is that one or begins with the character. -/
theorem eq_or_head?_of_infix_cons (hlength : a.length = b.length) (h : a <:+: c :: b) :
    a = b ∨ a.head? = some c := by
  rcases List.infix_cons_iff.mp h with h | h
  · rcases List.prefix_cons_iff.mp h with rfl | ⟨t, rfl, -⟩
    · exact .inl (List.eq_nil_of_length_eq_zero hlength.symm).symm
    · exact .inr rfl
  · exact .inl (h.eq_of_length hlength)

/-- A part with a capital sigma that takes another form between some texts becomes something else
between them. -/
theorem lowerBetween_ne {front : List Char}
    (h : lowerAt (front.reverse ++ a) 'Σ' (cs ++ b) ≠ lowerAt front.reverse 'Σ' cs) :
    lowerBetween a b (front ++ 'Σ' :: cs) ≠ lowerChars (front ++ 'Σ' :: cs) := by
  intro heq
  rw [← lowerBetween_nil, lowerBetween_append, lowerBetween_append, lowerBetween, lowerBetween,
    List.append_nil, List.append_nil, List.append_nil] at heq
  have hrest := (List.append_inj heq (length_lowerBetween _ _ _ _ front)).2
  exact h (List.append_inj hrest (length_lowerAt _ _ _ _ 'Σ')).1

/-- Of two capitals one becomes another character than a given one. -/
theorem exists_capital_lower_ne (found : Option Char) :
    ∃ u l, u ≠ 'Σ' ∧ lowerChar u = [l] ∧ nextCased? [u] = some true ∧ found ≠ some l := by
  by_cases hfound : found = some 'a'
  · exact ⟨'B', 'b', by decide, by decide, by decide +kernel, by simp [hfound]⟩
  · exact ⟨'A', 'a', by decide, by decide, by decide +kernel, hfound⟩

/-- A capital behind a part puts a capital sigma that a word ends with into the word. -/
theorem exists_behind_not_infix {front : List Char}
    (hbefore : nextCased? front.reverse = some true) (hbehind : nextCased? behind = none) :
    ∃ u, ¬ lowerChars (front ++ 'Σ' :: behind) <:+: lowerChars (front ++ 'Σ' :: behind ++ [u]) := by
  generalize hm : front ++ 'Σ' :: behind = m
  obtain ⟨u, l, hu, hl, hcased, hlast⟩ := exists_capital_lower_ne (lowerChars m).getLast?
  have hne : lowerBetween [] [u] m ≠ lowerChars m := by
    rw [← hm]
    refine lowerBetween_ne ?_
    simp [lowerAt, casedAfterIgnorable_eq, nextCased?_append, hbefore, hbehind, hcased]
  have hlength : (lowerChars m).length = (lowerBetween [] [u] m).length := by
    rw [← lowerBetween_nil]
    exact length_lowerBetween _ _ _ _ m
  have htext : lowerChars (m ++ [u]) = lowerBetween [] [u] m ++ [l] := by
    rw [lowerChars, lowerAfter_append, lowerAfter_cons, lowerAt, if_neg hu, hl]
    rfl
  refine ⟨u, fun hfound => ?_⟩
  rw [htext] at hfound
  rcases eq_or_getLast?_of_infix_concat hlength hfound with heq | heq
  · exact hne heq.symm
  · exact hlast heq

/-- A capital in front of a part makes a word of which the part's capital sigma is the end. -/
theorem exists_before_not_infix {front : List Char} (hbefore : nextCased? front.reverse = none)
    (hbehind : nextCased? behind ≠ some true) :
    ∃ u, ¬ lowerChars (front ++ 'Σ' :: behind) <:+: lowerChars (u :: (front ++ 'Σ' :: behind)) := by
  generalize hm : front ++ 'Σ' :: behind = m
  obtain ⟨u, l, hu, hl, hcased, hfirst⟩ := exists_capital_lower_ne (lowerChars m).head?
  have hne : lowerBetween [u] [] m ≠ lowerChars m := by
    rw [← hm]
    refine lowerBetween_ne ?_
    cases hnext : nextCased? behind with
    | none => simp [lowerAt, casedAfterIgnorable_eq, nextCased?_append, hbefore, hnext, hcased]
    | some cased =>
      obtain rfl : cased = false := by simpa [hnext] using hbehind
      simp [lowerAt, casedAfterIgnorable_eq, nextCased?_append, hbefore, hnext, hcased]
  have hlength : (lowerChars m).length = (lowerBetween [u] [] m).length := by
    rw [← lowerBetween_nil]
    exact length_lowerBetween _ _ _ _ m
  have htext : lowerChars (u :: m) = l :: lowerBetween [u] [] m := by
    have hrest := lowerAfter_append [u] m []
    rw [List.append_nil, lowerAfter, List.append_nil] at hrest
    rw [lowerChars, lowerAfter_cons, lowerAt, if_neg hu, hl, hrest]
    rfl
  refine ⟨u, fun hfound => ?_⟩
  rw [htext] at hfound
  rcases eq_or_head?_of_infix_cons hlength hfound with heq | heq
  · exact hne heq.symm
  · exact hfirst heq

/-- A part that leaves a capital sigma open is not found in lower case in some text in which it
stands. -/
theorem exists_lowerChars_not_infix (h : ¬ SigmasSettled m) :
    ∃ text, m <:+: text ∧ ¬ lowerChars m <:+: lowerChars text := by
  simp only [SigmasSettled, SettledAfter, Classical.not_forall, List.append_nil, exists_prop] at h
  obtain ⟨front, behind, rfl, hopen⟩ := h
  unfold settlesSigma at hopen
  split at hopen
  case h_1 hbefore =>
    obtain ⟨u, hu⟩ := exists_behind_not_infix hbefore (by simpa using hopen)
    exact ⟨_, List.infix_append [] _ [u], hu⟩
  case h_2 => simp at hopen
  case h_3 hbefore =>
    obtain ⟨u, hu⟩ := exists_before_not_infix hbefore (by simpa using hopen)
    exact ⟨_, List.infix_cons (List.infix_refl _), hu⟩

/-- A part is found in lower case wherever it stands exactly if its capital sigmas are settled. -/
theorem forall_lowerChars_infix_iff :
    (∀ text, m <:+: text → lowerChars m <:+: lowerChars text) ↔ SigmasSettled m := by
  constructor
  · intro hall
    refine Classical.byContradiction fun hopen => ?_
    obtain ⟨text, hpart, hnot⟩ := exists_lowerChars_not_infix hopen
    exact hnot (hall text hpart)
  · intro hsettled text hpart
    exact lowerChars_infix hsettled hpart

end InvoiceFields.Text
