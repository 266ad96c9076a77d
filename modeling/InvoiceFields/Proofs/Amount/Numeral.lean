import InvoiceFields.Amount
import InvoiceFields.Proofs.Pattern.Preference
import InvoiceFields.Proofs.Text.Trimming

/-!
# The numeral of an amount

The pattern of amounts takes a numeral and then a currency mark, if there is one. What the numeral
is depends on the text behind it: groups of three digits and decimals are taken as long as they go
on, and a plain run of digits is taken whole. `Numeral rest cs` says that `cs` is the numeral in
front of `rest`. A text that begins with a digit, behind a sign or not, has exactly one
(`exists_numeral`, `Numeral.unique`), and it is the one that the pattern prefers
(`prefers_numeralPattern_iff`).
-/

namespace InvoiceFields.Amount

open Pattern (Place Prefers)
open Text (isDecimalDigit)

variable {a b : Place} {cs ds gs whole rest rest' : List Char} {c d mark : Char}

/-! ### Characters -/

/-- The signs of a number. -/
def isSign (c : Char) : Bool := "-+".toList.contains c

/-- The marks in front of a group of three digits. -/
def isGroupMark (c : Char) : Bool := ".,\u00a0\u202f".toList.contains c

/-- The marks in front of the decimals. -/
def isDecimalMark (c : Char) : Bool := ".,".toList.contains c

/-- A text of nothing but digits. -/
def IsDigits (ds : List Char) : Prop := ∀ d ∈ ds, isDecimalDigit d = true

theorem not_isDecimalDigit_of_isGroupMark (h : isGroupMark c = true) :
    isDecimalDigit c = false := by
  have hall : ∀ c ∈ ".,\u00a0\u202f".toList, isDecimalDigit c = false := by decide
  exact hall c (List.contains_iff_mem.mp h)

theorem not_isDecimalDigit_of_isSign (h : isSign c = true) : isDecimalDigit c = false := by
  have hall : ∀ c ∈ "-+".toList, isDecimalDigit c = false := by decide
  exact hall c (List.contains_iff_mem.mp h)

/-- What may stand in front of the decimals may also stand in front of a group. -/
theorem isGroupMark_of_isDecimalMark (h : isDecimalMark c = true) : isGroupMark c = true := by
  have hall : ∀ c ∈ ".,".toList, isGroupMark c = true := by decide
  exact hall c (List.contains_iff_mem.mp h)

/-! ### Beginnings -/

/-- A text that begins with a digit. -/
def OpensDigit (cs : List Char) : Prop := ∃ d, cs.head? = some d ∧ isDecimalDigit d = true

/-- A text that begins with a mark and three digits. -/
def OpensGroup (cs : List Char) : Prop :=
  ∃ mark ds rest, cs = mark :: ds ++ rest ∧ isGroupMark mark = true ∧ ds.length = 3 ∧ IsDigits ds

/-- A text that begins with a mark and a digit. -/
def OpensDecimals (cs : List Char) : Prop :=
  ∃ mark d rest, cs = mark :: d :: rest ∧ isDecimalMark mark = true ∧ isDecimalDigit d = true

theorem not_opensDigit : ¬ OpensDigit cs ↔ ∀ d, cs.head? = some d → isDecimalDigit d = false := by
  simp only [OpensDigit, not_exists, not_and, Bool.not_eq_true]

theorem opensDigit_cons : OpensDigit (c :: cs) ↔ isDecimalDigit c = true := by
  simp [OpensDigit]

theorem not_opensDigit_of_isGroupMark (h : isGroupMark mark = true) :
    ¬ OpensDigit (mark :: cs) := by
  rw [opensDigit_cons, not_isDecimalDigit_of_isGroupMark h]
  exact Bool.false_ne_true

theorem OpensGroup.not_opensDigit (h : OpensGroup cs) : ¬ OpensDigit cs := by
  obtain ⟨mark, ds, rest, rfl, hmark, -⟩ := h
  exact not_opensDigit_of_isGroupMark hmark

/-- A digit opens no group. -/
theorem OpensDigit.not_opensGroup (h : OpensDigit cs) : ¬ OpensGroup cs :=
  fun hgroup => hgroup.not_opensDigit h

/-- A digit opens no decimals. -/
theorem OpensDigit.not_opensDecimals (h : OpensDigit cs) : ¬ OpensDecimals cs := by
  rintro ⟨mark, d, rest, rfl, hmark, -⟩
  exact not_opensDigit_of_isGroupMark (isGroupMark_of_isDecimalMark hmark) h

/-- The digits at the beginning of a text end where it goes on without one. -/
theorem digits_unique (hcs : IsDigits cs) (hds : IsDigits ds) (hrest : ¬ OpensDigit rest)
    (hrest' : ¬ OpensDigit rest') (h : cs ++ rest = ds ++ rest') : cs = ds ∧ rest = rest' :=
  Text.run_unique hcs hds (not_opensDigit.mp hrest) (not_opensDigit.mp hrest') h

/-! ### Numerals -/

/-- Groups of three digits, each behind a mark. -/
inductive Grouped : List Char → Prop
  | nil : Grouped []
  | cons {mark : Char} {ds gs : List Char} (hmark : isGroupMark mark = true)
      (hlength : ds.length = 3) (hdigits : IsDigits ds) (hgroups : Grouped gs) :
      Grouped (mark :: ds ++ gs)

/-- The number in front of the decimals: groups behind at most three digits, as many as there are,
or all digits. -/
inductive Whole (rest : List Char) : List Char → Prop
  | grouped {ds gs : List Char} (hne : ds ≠ []) (hlength : ds.length ≤ 3)
      (hdigits : IsDigits ds) (hgroups : Grouped gs) (hsome : gs ≠ [])
      (hend : ¬ OpensGroup rest) : Whole rest (ds ++ gs)
  | plain {ds : List Char} (hne : ds ≠ []) (hdigits : IsDigits ds) (hend : ¬ OpensDigit rest)
      (hlong : OpensGroup rest → 3 < ds.length) : Whole rest ds

/-- The decimals, of which there are at most two. -/
inductive Decimals (rest : List Char) : List Char → Prop
  | none (hend : ¬ OpensDecimals rest) : Decimals rest []
  | one {mark c : Char} (hmark : isDecimalMark mark = true) (hc : isDecimalDigit c = true)
      (hend : ¬ OpensDigit rest) : Decimals rest [mark, c]
  | two {mark c d : Char} (hmark : isDecimalMark mark = true) (hc : isDecimalDigit c = true)
      (hd : isDecimalDigit d = true) : Decimals rest [mark, c, d]

/-- No sign or one. -/
def IsSigning (cs : List Char) : Prop := cs = [] ∨ ∃ c, isSign c = true ∧ cs = [c]

/-- The numeral that stands in front of `rest`. -/
inductive Numeral (rest : List Char) : List Char → Prop
  | mk {sign whole decimals : List Char} (hsign : IsSigning sign)
      (hwhole : Whole (decimals ++ rest) whole) (hdecimals : Decimals rest decimals) :
      Numeral rest (sign ++ whole ++ decimals)

theorem IsDigits.opensDigit (hds : IsDigits ds) (hne : ds ≠ []) : OpensDigit (ds ++ rest) := by
  obtain ⟨d, ds, rfl⟩ := List.exists_cons_of_ne_nil hne
  exact opensDigit_cons.mpr (hds d List.mem_cons_self)

theorem Whole.opensDigit (h : Whole rest whole) : OpensDigit (whole ++ rest') := by
  cases h with
  | grouped hne _ hdigits =>
    rw [List.append_assoc]
    exact hdigits.opensDigit hne
  | plain hne hdigits => exact hdigits.opensDigit hne

/-! ### The last digit -/

/-- A text that ends in a digit. -/
def ClosesDigit (cs : List Char) : Prop := ∃ d, cs.getLast? = some d ∧ isDecimalDigit d = true

theorem ClosesDigit.append (h : ClosesDigit ds) (cs : List Char) : ClosesDigit (cs ++ ds) := by
  obtain ⟨d, hlast, hd⟩ := h
  exact ⟨d, by rw [List.getLast?_append, hlast, Option.some_or], hd⟩

theorem IsDigits.closesDigit (hds : IsDigits ds) (hne : ds ≠ []) : ClosesDigit ds :=
  ⟨ds.getLast hne, List.getLast?_eq_some_getLast hne, hds _ (List.getLast_mem hne)⟩

theorem Grouped.closesDigit (h : Grouped gs) (hsome : gs ≠ []) : ClosesDigit gs := by
  induction h with
  | nil => exact absurd rfl hsome
  | @cons mark ds gs hmark hlength hdigits _ ih =>
    -- the last group ends the text
    rcases eq_or_ne gs [] with rfl | hne
    · rw [List.append_nil]
      exact (hdigits.closesDigit (List.ne_nil_of_length_pos (by omega))).append [mark]
    · exact (ih hne).append _

theorem Whole.closesDigit (h : Whole rest whole) : ClosesDigit whole := by
  cases h with
  | grouped _ _ _ hgroups hsome => exact (hgroups.closesDigit hsome).append _
  | plain hne hdigits => exact hdigits.closesDigit hne

/-- A numeral ends in a digit. -/
theorem Numeral.closesDigit (h : Numeral rest cs) : ClosesDigit cs := by
  obtain ⟨_, hwhole, hdecimals⟩ := h
  cases hdecimals with
  | none =>
    rw [List.append_nil]
    exact hwhole.closesDigit.append _
  | one _ hc => exact ClosesDigit.append ⟨_, rfl, hc⟩ _
  | two _ _ hd => exact ClosesDigit.append ⟨_, rfl, hd⟩ _

/-! ### The characters of a numeral -/

theorem Grouped.forall_mem (h : Grouped gs) :
    ∀ c ∈ gs, isDecimalDigit c = true ∨ isGroupMark c = true := by
  induction h with
  | nil => exact List.forall_mem_nil _
  | cons hmark _ hdigits _ ih =>
    refine List.forall_mem_append.mpr ⟨List.forall_mem_cons.mpr ⟨.inr hmark, ?_⟩, ih⟩
    exact fun d hd => .inl (hdigits d hd)

theorem Whole.forall_mem (h : Whole rest whole) :
    ∀ c ∈ whole, isDecimalDigit c = true ∨ isGroupMark c = true := by
  cases h with
  | grouped _ _ hdigits hgroups =>
    exact List.forall_mem_append.mpr ⟨fun d hd => .inl (hdigits d hd), hgroups.forall_mem⟩
  | plain _ hdigits => exact fun d hd => .inl (hdigits d hd)

theorem Decimals.forall_mem {decimals : List Char} (h : Decimals rest decimals) :
    ∀ c ∈ decimals, isDecimalDigit c = true ∨ isGroupMark c = true := by
  cases h with
  | none => exact List.forall_mem_nil _
  | one hmark hc =>
    simp only [List.forall_mem_cons]
    exact ⟨.inr (isGroupMark_of_isDecimalMark hmark), .inl hc, List.forall_mem_nil _⟩
  | two hmark hc hd =>
    simp only [List.forall_mem_cons]
    exact ⟨.inr (isGroupMark_of_isDecimalMark hmark), .inl hc, .inl hd, List.forall_mem_nil _⟩

/-- Behind the sign of a numeral stands a digit, and then digits and marks. -/
theorem Numeral.exists_cons (h : Numeral rest cs) :
    ∃ sign d tail, cs = sign ++ d :: tail ∧ IsSigning sign ∧ isDecimalDigit d = true ∧
      ∀ c ∈ tail, isDecimalDigit c = true ∨ isGroupMark c = true := by
  obtain @⟨sign, whole, decimals, hsign, hwhole, hdecimals⟩ := h
  have hall : ∀ c ∈ whole ++ decimals, isDecimalDigit c = true ∨ isGroupMark c = true :=
    List.forall_mem_append.mpr ⟨hwhole.forall_mem, hdecimals.forall_mem⟩
  obtain ⟨d, hhead, hd⟩ : OpensDigit (whole ++ decimals) := hwhole.opensDigit
  obtain ⟨tail, htail⟩ := List.head?_eq_some_iff.mp hhead
  rw [htail] at hall
  exact ⟨sign, d, tail, by rw [List.append_assoc, htail], hsign, hd,
    (List.forall_mem_cons.mp hall).2⟩

/-! ### Texts that begin with a numeral -/

/-- Every text begins with all the groups that it begins with. -/
private theorem exists_grouped (cs : List Char) :
    ∃ gs rest, cs = gs ++ rest ∧ Grouped gs ∧ ¬ OpensGroup rest := by
  induction hn : cs.length using Nat.strongRecOn generalizing cs with
  | ind n ih =>
    by_cases h : OpensGroup cs
    · obtain ⟨mark, ds, rest, rfl, hmark, hlength, hdigits⟩ := h
      have hlt : rest.length < n := by
        rw [← hn, List.length_append, List.length_cons]
        omega
      obtain ⟨gs, rest', rfl, hgroups, hend⟩ := ih rest.length hlt rest rfl
      exact ⟨mark :: ds ++ gs, rest', (List.append_assoc ..).symm,
        .cons hmark hlength hdigits hgroups, hend⟩
    · exact ⟨[], cs, rfl, .nil, h⟩

private theorem exists_whole (h : OpensDigit cs) :
    ∃ whole rest, cs = whole ++ rest ∧ Whole rest whole := by
  have hsplit := List.takeWhile_append_dropWhile (p := isDecimalDigit) (l := cs)
  have hdigits : IsDigits (cs.takeWhile isDecimalDigit) :=
    List.all_eq_true.mp List.all_takeWhile
  have hend : ¬ OpensDigit (cs.dropWhile isDecimalDigit) :=
    not_opensDigit.mpr fun d hd => Text.not_of_head?_dropWhile hd
  generalize cs.takeWhile isDecimalDigit = ds at hsplit hdigits
  generalize cs.dropWhile isDecimalDigit = rest at hsplit hend
  subst hsplit
  have hne : ds ≠ [] := by
    rintro rfl
    exact hend h
  by_cases hopens : OpensGroup rest ∧ ds.length ≤ 3
  · obtain ⟨gs, rest, rfl, hgroups, hlast⟩ := exists_grouped rest
    refine ⟨ds ++ gs, rest, (List.append_assoc ..).symm,
      .grouped hne hopens.2 hdigits hgroups ?_ hlast⟩
    rintro rfl
    exact hlast hopens.1
  · exact ⟨ds, rest, rfl, .plain hne hdigits hend fun hgroup =>
      Nat.lt_of_not_le fun hle => hopens ⟨hgroup, hle⟩⟩

private theorem exists_decimals (cs : List Char) :
    ∃ decimals rest, cs = decimals ++ rest ∧ Decimals rest decimals := by
  by_cases h : OpensDecimals cs
  · obtain ⟨mark, c, rest, rfl, hmark, hc⟩ := h
    by_cases hopens : OpensDigit rest
    · obtain ⟨d, hhead, hd⟩ := hopens
      obtain ⟨rest, rfl⟩ := List.head?_eq_some_iff.mp hhead
      exact ⟨[mark, c, d], rest, rfl, .two hmark hc hd⟩
    · exact ⟨[mark, c], rest, rfl, .one hmark hc hopens⟩
  · exact ⟨[], cs, rfl, .none h⟩

/-- A text that begins with a digit, behind a sign or not, begins with a numeral. -/
theorem exists_numeral {sign : List Char} (hsign : IsSigning sign) (h : OpensDigit cs) :
    ∃ numeral rest, sign ++ cs = numeral ++ rest ∧ Numeral rest numeral := by
  obtain ⟨whole, rest, rfl, hwhole⟩ := exists_whole h
  obtain ⟨decimals, rest, rfl, hdecimals⟩ := exists_decimals rest
  exact ⟨sign ++ whole ++ decimals, rest, by simp only [List.append_assoc],
    .mk hsign hwhole hdecimals⟩

/-! ### Its pattern -/

section Run

open Pattern (mem_run_seq mem_run_one mem_run_times_one mem_run_alt mem_run_upTo_one
  prefers_one prefers_one_seq prefers_many_one prefers_many_self prefers_optional_self
  prefers_times_one prefers_upTo_one run_one_eq_nil)

/-- A mark and three digits. -/
def groupPattern : Pattern := .seq (.anyOf ".,\u00a0\u202f") (.times .digit 3)

/-- One to three digits and groups. -/
def groupedPattern : Pattern :=
  .sequence [.digit, .upTo .digit 2, .some groupPattern]

/-- A mark and one or two digits. -/
def decimalsPattern : Pattern := .sequence [.anyOf ".,", .digit, .upTo .digit 1]

/-- The pattern of amounts without the currency. -/
def numeralPattern : Pattern :=
  .sequence [.optional (.anyOf "-+"), .alt groupedPattern (.some .digit),
    .optional decimalsPattern]

theorem mem_run_groupPattern : b ∈ groupPattern.run a ↔
    ∃ mark ds rest, a.rest = mark :: ds ++ rest ∧ isGroupMark mark = true ∧ ds.length = 3 ∧
      IsDigits ds ∧ b = a.past (mark :: ds) rest := by
  simp only [groupPattern, Pattern.anyOf, Pattern.digit, mem_run_seq, mem_run_one,
    mem_run_times_one]
  constructor
  · rintro ⟨_, ⟨mark, rest, hrest, hmark, rfl⟩, ds, rest', hrest', hlength, hds, rfl⟩
    obtain rfl : rest = ds ++ rest' := hrest'
    exact ⟨mark, ds, rest', hrest, hmark, hlength, hds, Place.past_past a [mark] ds _ _⟩
  · rintro ⟨mark, ds, rest, hrest, hmark, hlength, hds, rfl⟩
    exact ⟨_, ⟨mark, ds ++ rest, hrest, hmark, rfl⟩, ds, rest, rfl, hlength, hds,
      (Place.past_past a [mark] ds _ _).symm⟩

/-- There is no group where none begins. -/
theorem run_groupPattern_eq_nil (h : ¬ OpensGroup a.rest) : groupPattern.run a = [] := by
  refine List.eq_nil_iff_forall_not_mem.mpr fun b hb => h ?_
  obtain ⟨mark, ds, rest, hrest, hmark, hlength, hds, -⟩ := mem_run_groupPattern.mp hb
  exact ⟨mark, ds, rest, hrest, hmark, hlength, hds⟩

theorem prefers_groupPattern (hmark : isGroupMark mark = true) (hlength : ds.length = 3)
    (hds : IsDigits ds) (hrest : a.rest = mark :: ds ++ rest) :
    groupPattern.Prefers a (a.past (mark :: ds) rest) := by
  refine prefers_one_seq hrest hmark ?_
  rw [← hlength]
  exact prefers_times_one hds rfl

/-- All groups of a text are taken. -/
theorem Grouped.prefers_many (hgroups : Grouped gs) (hend : ¬ OpensGroup rest)
    (hrest : a.rest = gs ++ rest) : (Pattern.many groupPattern).Prefers a (a.past gs rest) := by
  induction hgroups generalizing a with
  | nil =>
    obtain rfl : a.rest = rest := hrest
    exact prefers_many_self (run_groupPattern_eq_nil hend)
  | @cons mark ds gs hmark hlength hds _ ih =>
    rw [List.append_assoc] at hrest
    rw [← Place.past_past a (mark :: ds) gs (gs ++ rest) rest]
    refine (prefers_groupPattern hmark hlength hds hrest).many ?_ (ih rfl)
    rw [hrest, List.length_append, List.length_cons]
    show (gs ++ rest).length < _
    omega

theorem Grouped.prefers_some (hgroups : Grouped gs) (hsome : gs ≠ []) (hend : ¬ OpensGroup rest)
    (hrest : a.rest = gs ++ rest) : (Pattern.some groupPattern).Prefers a (a.past gs rest) := by
  cases hgroups with
  | nil => exact absurd rfl hsome
  | @cons mark ds gs hmark hlength hds hgroups =>
    rw [List.append_assoc] at hrest
    exact (prefers_groupPattern hmark hlength hds hrest).seq_past (hgroups.prefers_many hend rfl)

/-- A long run of digits, or one that no group follows, is not grouped. -/
theorem run_groupedPattern_eq_nil (hds : IsDigits ds) (hend : ¬ OpensDigit rest)
    (hlong : OpensGroup rest → 3 < ds.length) (hrest : a.rest = ds ++ rest) :
    groupedPattern.run a = [] := by
  refine List.eq_nil_iff_forall_not_mem.mpr fun b hb => ?_
  obtain ⟨_, hfirst, hb⟩ := mem_run_seq.mp hb
  obtain ⟨_, hmore, hb⟩ := mem_run_seq.mp hb
  obtain ⟨_, hgroup, -⟩ := mem_run_seq.mp hb
  obtain ⟨d, rest₁, hrest₁, hd, rfl⟩ := mem_run_one.mp hfirst
  obtain ⟨ds', rest₂, hrest₂, hlength, hds', rfl⟩ := mem_run_upTo_one hmore
  obtain rfl : rest₁ = ds' ++ rest₂ := hrest₂
  obtain ⟨mark, ds'', rest₃, hrest₃, hmark, hthree, hds'', -⟩ := mem_run_groupPattern.mp hgroup
  have hopens : OpensGroup rest₂ := ⟨mark, ds'', rest₃, hrest₃, hmark, hthree, hds''⟩
  -- the digits in front of the group are all the digits there are
  have hdigits : IsDigits (d :: ds') := List.forall_mem_cons.mpr ⟨hd, hds'⟩
  obtain ⟨rfl, rfl⟩ := digits_unique hds hdigits hend hopens.not_opensDigit
    (hrest.symm.trans hrest₁)
  exact absurd (hlong hopens) (by rw [List.length_cons]; omega)

theorem Whole.prefers (h : Whole rest whole) (hrest : a.rest = whole ++ rest) :
    (Pattern.alt groupedPattern (.some .digit)).Prefers a (a.past whole rest) := by
  cases h with
  | @grouped ds gs hne hlength hds hgroups hsome hend =>
    obtain ⟨d, ds, rfl⟩ := List.exists_cons_of_ne_nil hne
    obtain ⟨hd, hds⟩ := List.forall_mem_cons.mp hds
    rw [List.cons_append] at hrest ⊢
    -- the digits end where the first group begins
    have hmark : ¬ OpensDigit (gs ++ rest) := by
      cases hgroups with
      | nil => exact absurd rfl hsome
      | cons hmark => exact not_opensDigit_of_isGroupMark hmark
    refine (prefers_one_seq hrest hd (Prefers.seq_past ?_ ?_)).alt_left
    · rw [List.append_assoc]
      exact prefers_upTo_one hds (Nat.le_of_succ_le_succ hlength)
        (.inr (not_opensDigit.mp hmark)) rfl
    · exact hgroups.prefers_some hsome hend rfl
  | plain hne hds hend hlong =>
    refine Prefers.alt_right ?_ (run_groupedPattern_eq_nil hds hend hlong hrest)
    obtain ⟨d, ds, rfl⟩ := List.exists_cons_of_ne_nil hne
    obtain ⟨hd, hds⟩ := List.forall_mem_cons.mp hds
    exact prefers_one_seq hrest hd (prefers_many_one hds (not_opensDigit.mp hend) rfl)

theorem Decimals.prefers {decimals : List Char} (h : Decimals rest decimals)
    (hrest : a.rest = decimals ++ rest) :
    (Pattern.optional decimalsPattern).Prefers a (a.past decimals rest) := by
  have hpart : ∀ {mark c : Char} {ds : List Char}, isDecimalMark mark = true →
      isDecimalDigit c = true → IsDigits ds → ds.length ≤ 1 →
      (ds.length = 1 ∨ ¬ OpensDigit rest) → a.rest = mark :: c :: ds ++ rest →
      (Pattern.optional decimalsPattern).Prefers a (a.past (mark :: c :: ds) rest) := by
    intro mark c ds hmark hc hds hlength hend hrest
    exact (prefers_one_seq hrest hmark (prefers_one_seq rfl hc
      (prefers_upTo_one hds hlength (hend.imp_right not_opensDigit.mp) rfl))).optional
  cases h with
  | none hend =>
    obtain rfl : a.rest = rest := hrest
    refine prefers_optional_self (List.eq_nil_iff_forall_not_mem.mpr fun b hb => hend ?_)
    obtain ⟨_, hfirst, hb⟩ := mem_run_seq.mp hb
    obtain ⟨_, hsecond, -⟩ := mem_run_seq.mp hb
    obtain ⟨mark, rest₁, hrest₁, hmark, rfl⟩ := mem_run_one.mp hfirst
    obtain ⟨c, rest₂, hrest₂, hc, -⟩ := mem_run_one.mp hsecond
    obtain rfl : rest₁ = c :: rest₂ := hrest₂
    exact ⟨mark, c, rest₂, hrest₁, hmark, hc⟩
  | one hmark hc hend =>
    exact hpart hmark hc (List.forall_mem_nil _) (Nat.zero_le _) (.inr hend) hrest
  | two hmark hc hd =>
    exact hpart hmark hc (List.forall_mem_singleton.mpr hd) (Nat.le_refl _) (.inl rfl) hrest

theorem IsSigning.prefers {sign : List Char} (hsign : IsSigning sign) (h : OpensDigit rest)
    (hrest : a.rest = sign ++ rest) :
    (Pattern.optional (.anyOf "-+")).Prefers a (a.past sign rest) := by
  rcases hsign with rfl | ⟨c, hc, rfl⟩
  · obtain rfl : a.rest = rest := hrest
    refine prefers_optional_self (run_one_eq_nil fun c hc => ?_)
    obtain ⟨d, hd, hdigit⟩ := h
    obtain rfl : d = c := Option.some.inj (hd.symm.trans hc)
    refine Bool.eq_false_iff.mpr fun hsign => ?_
    rw [not_isDecimalDigit_of_isSign hsign] at hdigit
    exact nomatch hdigit
  · exact (prefers_one hrest hc).optional

/-- The numeral in front of a text is the one that the pattern prefers. -/
theorem Numeral.prefers (h : Numeral rest cs) (hrest : a.rest = cs ++ rest) :
    numeralPattern.Prefers a (a.past cs rest) := by
  obtain ⟨hsign, hwhole, hdecimals⟩ := h
  rw [List.append_assoc] at hrest ⊢
  refine Prefers.seq_past ?_ ((hwhole.prefers ?_).seq_past (hdecimals.prefers rfl))
  · exact hsign.prefers (by rw [List.append_assoc]; exact hwhole.opensDigit) (by simpa using hrest)
  · exact List.append_assoc ..

/-- A match begins with a digit, behind a sign or not. -/
theorem exists_sign_of_mem_run (h : b ∈ numeralPattern.run a) :
    ∃ sign cs, a.rest = sign ++ cs ∧ IsSigning sign ∧ OpensDigit cs := by
  obtain ⟨m, hsign, h⟩ := mem_run_seq.mp h
  obtain ⟨m', hwhole, -⟩ := mem_run_seq.mp h
  -- both ways to go on begin with a digit
  have hdigit : OpensDigit m.rest := by
    rcases mem_run_alt.mp hwhole with hwhole | hwhole
    all_goals
      obtain ⟨_, hdigit, -⟩ := mem_run_seq.mp hwhole
      obtain ⟨d, rest, hrest, hd, -⟩ := mem_run_one.mp hdigit
      exact ⟨d, by rw [hrest]; rfl, hd⟩
  rcases mem_run_alt.mp hsign with hsign | hsign
  · obtain ⟨c, rest, hrest, hc, rfl⟩ := mem_run_one.mp hsign
    exact ⟨[c], rest, hrest, .inr ⟨c, hc, rfl⟩, hdigit⟩
  · rw [Pattern.mem_run_empty.mp hsign] at hdigit
    exact ⟨[], a.rest, rfl, .inl rfl, hdigit⟩

theorem prefers_numeralPattern_iff : numeralPattern.Prefers a b ↔
    ∃ cs rest, a.rest = cs ++ rest ∧ Numeral rest cs ∧ b = a.past cs rest := by
  constructor
  · intro h
    obtain ⟨sign, cs, hrest, hsign, hdigit⟩ := exists_sign_of_mem_run h.mem_run
    obtain ⟨numeral, rest, hsplit, hnumeral⟩ := exists_numeral hsign hdigit
    rw [hsplit] at hrest
    exact ⟨numeral, rest, hrest, hnumeral, h.unique (hnumeral.prefers hrest)⟩
  · rintro ⟨cs, rest, hrest, hnumeral, rfl⟩
    exact hnumeral.prefers hrest

/-- A text begins with one numeral at most. -/
theorem Numeral.unique (h : Numeral rest cs) (h' : Numeral rest' ds)
    (heq : cs ++ rest = ds ++ rest') : cs = ds ∧ rest = rest' := by
  have hplace := (h.prefers (a := .ofChars (cs ++ rest)) rfl).unique (h'.prefers heq)
  obtain rfl : rest = rest' := congrArg Place.rest hplace
  exact ⟨List.append_cancel_right heq, rfl⟩

end Run

end InvoiceFields.Amount
