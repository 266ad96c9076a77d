import InvoiceFields.Text.Blank
import Mathlib.Data.List.TakeWhile

/-!
# Trimming, cutting and replacing

A text is not changed by trimming when no blank stands at either end (`stripWhile_eq_self`). What is
left by trimming is such a text, so trimming twice is trimming once (`trimChars_trimChars`). A text
is cut at the first character of a kind, or at all of them (`splitWhere_append`). Where a character
is replaced by two neighbours of which it is the first, replacing these by the character gives the
text again (`replacePair_replaceChar`).
-/

namespace InvoiceFields.Text

variable {p : Char → Bool} {c : Char} {cs ds a b : List Char}

/-! ### Ends -/

theorem dropWhile_eq_self (h : ∀ c, cs.head? = some c → p c = false) : cs.dropWhile p = cs := by
  cases cs with
  | nil => rfl
  | cons c cs => rw [List.dropWhile_cons, h c rfl, if_neg Bool.false_ne_true]

theorem dropWhile_eq_nil (h : ∀ c ∈ cs, p c = true) : cs.dropWhile p = [] := by
  induction cs with
  | nil => rfl
  | cons c cs ih =>
    obtain ⟨hc, hcs⟩ := List.forall_mem_cons.mp h
    rw [List.dropWhile_cons, hc, if_pos rfl, ih hcs]

theorem not_of_head?_dropWhile (h : (cs.dropWhile p).head? = some c) : p c = false := by
  have hhead := List.head?_dropWhile_not p cs
  rw [h] at hhead
  exact hhead

/-- A text begins as its first part does. -/
theorem not_of_head?_append (hne : a ≠ []) (ha : ∀ c ∈ a, p c = false) :
    ∀ c, (a ++ b).head? = some c → p c = false := by
  intro c hc
  obtain ⟨d, a, rfl⟩ := List.exists_cons_of_ne_nil hne
  obtain rfl := Option.some.inj hc
  exact ha d List.mem_cons_self

/-- The characters of a kind at the beginning of a text end where it goes on without one. -/
theorem run_unique {rest rest' : List Char} (ha : ∀ c ∈ a, p c = true) (hb : ∀ c ∈ b, p c = true)
    (hrest : ∀ c, rest.head? = some c → p c = false)
    (hrest' : ∀ c, rest'.head? = some c → p c = false) (h : a ++ rest = b ++ rest') :
    a = b ∧ rest = rest' := by
  have htake : ∀ {a rest : List Char}, (∀ c ∈ a, p c = true) →
      (∀ c, rest.head? = some c → p c = false) → (a ++ rest).takeWhile p = a := by
    intro a rest ha hrest
    rw [List.takeWhile_append_of_pos ha]
    cases rest with
    | nil => rw [List.takeWhile_nil, List.append_nil]
    | cons c rest =>
      rw [List.takeWhile_cons, hrest c rfl, if_neg Bool.false_ne_true, List.append_nil]
  obtain rfl : a = b := by rw [← htake ha hrest, h, htake hb hrest']
  exact ⟨rfl, List.append_cancel_left h⟩

/-- A text with a character of a kind at each end lies within the part of a longer text that has
all of them. -/
theorem subset_of_append_eq {front back : List Char} (hfront : ∀ c ∈ front, p c = false)
    (hback : ∀ c ∈ back, p c = false) (hfirst : ∃ d t, ds = d :: t ∧ p d = true)
    (hlast : ∃ t d, ds = t ++ [d] ∧ p d = true) (h : front ++ (cs ++ back) = a ++ (ds ++ b)) :
    ∀ c ∈ ds, c ∈ cs := by
  -- what stands in front goes no further than that, or it would have a character of the kind
  obtain ⟨x, hx⟩ : ∃ x, cs ++ back = x ++ (ds ++ b) := by
    rcases List.append_eq_append_iff.mp h with ⟨x, -, hx⟩ | ⟨x, hsplit, hx⟩
    · exact ⟨x, hx⟩
    · cases x with
      | nil => exact ⟨[], hx.symm⟩
      | cons c x =>
        obtain ⟨d, t, rfl, hd⟩ := hfirst
        obtain ⟨rfl, -⟩ := List.cons.inj hx
        have hmem : d ∈ front := hsplit ▸ List.mem_append_right a List.mem_cons_self
        exact absurd hd (Bool.eq_false_iff.mp (hfront d hmem))
  rw [← List.append_assoc] at hx
  rcases List.append_eq_append_iff.mp hx with ⟨y, hsplit, hy⟩ | ⟨y, hsplit, -⟩
  · rcases List.eq_nil_or_concat y with rfl | ⟨y, e, rfl⟩
    · rw [List.append_nil] at hsplit
      exact fun c hc => hsplit ▸ List.mem_append_right x hc
    · obtain ⟨t, d, rfl, hd⟩ := hlast
      rw [List.concat_eq_append] at hsplit hy
      rw [← List.append_assoc, ← List.append_assoc] at hsplit
      obtain rfl : d = e := List.singleton_inj.mp (List.append_inj' hsplit rfl).2
      have hmem : d ∈ back := by simp [hy]
      exact absurd hd (Bool.eq_false_iff.mp (hback d hmem))
  · exact fun c hc => hsplit ▸ List.mem_append_left y (List.mem_append_right x hc)

/-- What is dropped at the end stops at a character that is not dropped. -/
theorem dropEndWhile_append (ha : ∀ c, a.getLast? = some c → p c = false) :
    dropEndWhile p (a ++ b) = a ++ dropEndWhile p b := by
  have hend : a.reverse.dropWhile p = a.reverse :=
    dropWhile_eq_self fun c hc => ha c (by rwa [List.head?_reverse] at hc)
  rw [dropEndWhile, dropEndWhile, List.reverse_append, List.dropWhile_append]
  split
  case isTrue h => rw [hend, List.isEmpty_iff.mp h, List.reverse_reverse, List.reverse_nil,
    List.append_nil]
  case isFalse => rw [List.reverse_append, List.reverse_reverse]

theorem dropEndWhile_eq_nil (h : ∀ c ∈ cs, p c = true) : dropEndWhile p cs = [] := by
  rw [dropEndWhile, dropWhile_eq_nil fun c hc => h c (List.mem_reverse.mp hc), List.reverse_nil]

/-- What is dropped at the end makes no difference there. -/
theorem dropEndWhile_append_of_pos (hb : ∀ c ∈ b, p c = true) :
    dropEndWhile p (a ++ b) = dropEndWhile p a := by
  rw [dropEndWhile, List.reverse_append, List.dropWhile_append_of_pos fun c hc =>
    hb c (List.mem_reverse.mp hc), dropEndWhile]

theorem dropEndWhile_eq_self (h : ∀ c, cs.getLast? = some c → p c = false) :
    dropEndWhile p cs = cs := by
  have hend := dropEndWhile_append (b := []) h
  rwa [List.append_nil, dropEndWhile_eq_nil (List.forall_mem_nil _), List.append_nil] at hend

theorem not_of_getLast?_dropEndWhile (h : (dropEndWhile p cs).getLast? = some c) : p c = false := by
  rw [dropEndWhile, List.getLast?_reverse] at h
  exact not_of_head?_dropWhile h

theorem dropEndWhile_prefix (p : Char → Bool) (cs : List Char) : dropEndWhile p cs <+: cs := by
  have hsuffix := List.dropWhile_suffix (l := cs.reverse) p
  rwa [← List.reverse_prefix, List.reverse_reverse] at hsuffix

/-- A text is not changed if neither end is dropped. -/
theorem stripWhile_eq_self (hhead : ∀ c, cs.head? = some c → p c = false)
    (hlast : ∀ c, cs.getLast? = some c → p c = false) : stripWhile p cs = cs := by
  rw [stripWhile, dropWhile_eq_self hhead, dropEndWhile_eq_self hlast]

/-- What is dropped around a text whose ends are not dropped is what stands around it. -/
theorem stripWhile_append (ha : ∀ c ∈ a, p c = true) (hne : cs ≠ [])
    (hhead : ∀ c, cs.head? = some c → p c = false) (hlast : ∀ c, cs.getLast? = some c → p c = false)
    (hb : ∀ c ∈ b, p c = true) : stripWhile p (a ++ (cs ++ b)) = cs := by
  have hfront : (cs ++ b).dropWhile p = cs ++ b := by
    obtain ⟨d, ds, rfl⟩ := List.exists_cons_of_ne_nil hne
    exact dropWhile_eq_self hhead
  rw [stripWhile, List.dropWhile_append_of_pos ha, hfront, dropEndWhile_append hlast,
    dropEndWhile_eq_nil hb, List.append_nil]

/-- What is left begins with a character that is not dropped. -/
theorem not_of_head?_stripWhile (h : (stripWhile p cs).head? = some c) : p c = false := by
  -- what is left is a prefix of what is left behind the blanks in front
  obtain ⟨rest, hrest⟩ := dropEndWhile_prefix p (cs.dropWhile p)
  have hhead : (cs.dropWhile p).head? = some c := by
    rw [← hrest, List.head?_append, ← stripWhile, h]
    rfl
  exact not_of_head?_dropWhile hhead

/-- What is left ends in a character that is not dropped. -/
theorem not_of_getLast?_stripWhile (h : (stripWhile p cs).getLast? = some c) : p c = false :=
  not_of_getLast?_dropEndWhile h

/-- Nothing is left exactly where everything is dropped. -/
theorem stripWhile_eq_nil_iff : stripWhile p cs = [] ↔ ∀ c ∈ cs, p c = true := by
  rw [stripWhile, dropEndWhile, List.reverse_eq_nil_iff, List.dropWhile_eq_nil_iff]
  constructor
  · intro h
    cases hkept : cs.dropWhile p with
    | nil => exact List.dropWhile_eq_nil_iff.mp hkept
    | cons c rest =>
      have hhead : (cs.dropWhile p).head? = some c := by rw [hkept, List.head?_cons]
      have hc : p c = false := not_of_head?_dropWhile hhead
      have hdropped : p c = true := h c (by simp [hkept])
      rw [hc] at hdropped
      exact absurd hdropped Bool.false_ne_true
  · intro h
    simp [dropWhile_eq_nil h]

/-- A text is blank exactly if nothing of it is left by trimming. -/
theorem blankOnly_eq_true_iff {s : String} : blankOnly s = true ↔ trimChars s.toList = [] := by
  rw [trimChars, stripWhile_eq_nil_iff, blankOnly, List.all_eq_true]

/-- Trimming twice is trimming once. -/
theorem trimChars_trimChars (cs : List Char) : trimChars (trimChars cs) = trimChars cs :=
  stripWhile_eq_self (fun _ => not_of_head?_stripWhile) fun _ => not_of_getLast?_stripWhile

/-- A text without blanks is not changed. -/
theorem trimChars_eq_self (h : ∀ c ∈ cs, isBlank c = false) : trimChars cs = cs :=
  stripWhile_eq_self (fun c hc => h c (List.mem_of_head? hc)) fun c hc =>
    h c (List.mem_of_getLast? hc)

/-! ### Cutting -/

/-- A text is cut at the first character of a kind. -/
theorem splitOnce?_append (ha : ∀ c ∈ a, p c = false) (hc : p c = true) :
    splitOnce? p (a ++ c :: b) = some (a, b) := by
  have hkept : ∀ d ∈ a, (!p d) = true := fun d hd => by rw [ha d hd]; rfl
  rw [splitOnce?, List.dropWhile_append_of_pos hkept, List.takeWhile_append_of_pos hkept,
    List.dropWhile_cons, List.takeWhile_cons, hc]
  simp

/-- A text without characters of a kind is not cut. -/
theorem splitOnce?_eq_none (h : ∀ c ∈ cs, p c = false) : splitOnce? p cs = none := by
  have hkept : ∀ c ∈ cs, (!p c) = true := fun c hc => by rw [h c hc]; rfl
  rw [splitOnce?, dropWhile_eq_nil hkept]

/-- Cutting a text is splitting a list. -/
theorem splitWhere_eq_splitOnP (p : Char → Bool) (cs : List Char) :
    splitWhere p cs = cs.splitOnP p := by
  induction cs with
  | nil => rfl
  | cons c cs ih =>
    rw [splitWhere, List.splitOnP_cons_eq_if_modifyHead, ih]
    split
    case isTrue => rfl
    case isFalse =>
      split
      case h_1 hnil => exact absurd hnil (List.splitOnP_ne_nil p cs)
      case h_2 piece pieces hpieces => rw [hpieces, List.modifyHead_cons]

theorem splitWhere_ne_nil : splitWhere p cs ≠ [] := by
  rw [splitWhere_eq_splitOnP]
  exact List.splitOnP_ne_nil p cs

theorem splitWhere_eq_singleton (h : ∀ c ∈ cs, p c = false) : splitWhere p cs = [cs] := by
  rw [splitWhere_eq_splitOnP, List.splitOnP_eq_singleton h]

/-- The pieces in front of a character of the kind, and those behind it. -/
theorem splitWhere_append (hc : p c = true) :
    splitWhere p (a ++ c :: b) = splitWhere p a ++ splitWhere p b := by
  simp only [splitWhere_eq_splitOnP, List.splitOnP_append_cons a b hc]

/-- Pieces that are joined are found again. -/
theorem splitWhere_flatMap {piece : List Char} {pieces : List (List Char)} (hc : p c = true)
    (hpieces : ∀ cs ∈ piece :: pieces, ∀ d ∈ cs, p d = false) :
    splitWhere p (piece ++ pieces.flatMap (c :: ·)) = piece :: pieces := by
  induction pieces generalizing piece with
  | nil => rw [List.flatMap_nil, List.append_nil, splitWhere_eq_singleton (hpieces _ (by simp))]
  | cons next pieces ih =>
    obtain ⟨hpiece, hnext⟩ := List.forall_mem_cons.mp hpieces
    rw [List.flatMap_cons, List.cons_append, splitWhere_append hc, splitWhere_eq_singleton hpiece,
      ih hnext, List.singleton_append]

/-- What stands between two characters of the kind that a text is cut at, or behind the last one,
is a piece of the text. -/
theorem mem_splitWhere {rest : List Char} (hc : p c = true) (hcs : ∀ d ∈ cs, p d = false)
    (hrest : ∀ d, rest.head? = some d → p d = true) :
    cs ∈ splitWhere p (a ++ c :: (cs ++ rest)) := by
  rw [splitWhere_append hc]
  refine List.mem_append_right _ ?_
  cases rest with
  | nil =>
    rw [List.append_nil, splitWhere_eq_singleton hcs]
    exact List.mem_singleton_self cs
  | cons d rest =>
    rw [splitWhere_append (hrest d rfl), splitWhere_eq_singleton hcs]
    exact List.mem_cons_self

/-! ### Replacing -/

section Replacing

variable {d e old new : Char} {news : List Char}

theorem replaceChar_cons_self (old : Char) (news cs : List Char) :
    replaceChar old news (old :: cs) = news ++ replaceChar old news cs := by
  rw [replaceChar, List.flatMap_cons, if_pos rfl, replaceChar]

theorem replaceChar_cons_of_ne (h : c ≠ old) :
    replaceChar old news (c :: cs) = c :: replaceChar old news cs := by
  rw [replaceChar, List.flatMap_cons, if_neg h, List.singleton_append, replaceChar]

theorem replaceChar_append (old : Char) (news cs ds : List Char) :
    replaceChar old news (cs ++ ds) = replaceChar old news cs ++ replaceChar old news ds :=
  List.flatMap_append

theorem replaceChar_eq_self (h : old ∉ cs) : replaceChar old news cs = cs := by
  induction cs with
  | nil => rfl
  | cons c cs ih =>
    obtain ⟨hc, hcs⟩ := List.ne_and_not_mem_of_not_mem_cons h
    rw [replaceChar_cons_of_ne hc.symm, ih hcs]

/-- A character that is replaced by others stands nowhere afterwards. -/
theorem not_mem_replaceChar (h : old ∉ news) (cs : List Char) : old ∉ replaceChar old news cs := by
  intro hmem
  obtain ⟨c, -, hc⟩ := List.mem_flatMap.mp hmem
  split at hc
  case isTrue => exact h hc
  case isFalse hne => exact hne (List.mem_singleton.mp hc).symm

theorem replacePair_cons_of_ne (h : c ≠ d) :
    replacePair d e new (c :: cs) = c :: replacePair d e new cs := by
  cases cs with
  | nil => rfl
  | cons next cs => exact if_neg fun hpair => h hpair.1

theorem replacePair_cons_cons (d e new : Char) (cs : List Char) :
    replacePair d e new (d :: e :: cs) = new :: replacePair d e new cs := if_pos ⟨rfl, rfl⟩

/-- A character that was replaced by itself and another one is put back. -/
theorem replacePair_replaceChar (d e : Char) (cs : List Char) :
    replacePair d e d (replaceChar d [d, e] cs) = cs := by
  induction cs with
  | nil => rfl
  | cons c cs ih =>
    by_cases hc : c = d
    · rw [hc, replaceChar_cons_self]
      exact (replacePair_cons_cons d e d _).trans (congrArg (d :: ·) ih)
    · rw [replaceChar_cons_of_ne hc, replacePair_cons_of_ne hc, ih]

end Replacing

end InvoiceFields.Text
