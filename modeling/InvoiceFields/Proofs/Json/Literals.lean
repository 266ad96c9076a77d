import InvoiceFields.Json.Token
import InvoiceFields.Proofs.Decimal.Numerals

/-!
# Literals that are written

A text and an integer of 64 bits are written as literals that stand for them: what a reader takes
from the start of such a literal and anything behind it is the text (`Token.first_quote`) or the
integer (`Token.first_write`) and what stands behind. A number has no end of its own, so nothing
that could continue it may follow (`Delimits`).
-/

namespace InvoiceFields.Json

/-! ### Strings -/

namespace StringLiteral

/-- A unit that stands for a character on its own: the character, or the number of a control
character. -/
private def CodeUnit.Means (c : Char) : CodeUnit → Prop
  | .char d => d = c
  | .code n => n = c.toNat ∧ n < 32

private theorem fourDigits?_control {n : Nat} (h : n < 32) :
    fourDigits? '0' '0' (hexDigit (n / 16)) (hexDigit (n % 16)) = some n := by
  have hall : ∀ n < 32, fourDigits? '0' '0' (hexDigit (n / 16)) (hexDigit (n % 16)) = some n := by
    decide
  exact hall n h

/-- A written character is scanned as one unit, which stands for it. -/
private theorem scan_escape (c : Char) (cs : List Char) :
    ∃ unit : CodeUnit, unit.Means c ∧
      scan (escape c ++ cs) = (unit :: (scan cs).1, (scan cs).2) := by
  unfold escape
  split
  case h_8 =>
    split
    case isTrue hcontrol =>
      have hlt : c.toNat < 32 := hcontrol
      refine ⟨.code c.toNat, ⟨rfl, hlt⟩, ?_⟩
      simp only [List.cons_append, List.nil_append, scan, fourDigits?_control hlt]
    case isFalse hquote hslash _ _ _ _ _ hprintable =>
      refine ⟨.char c, rfl, ?_⟩
      rw [List.singleton_append, scan.eq_def]
      split <;> simp_all
  all_goals exact ⟨.char _, rfl, rfl⟩

/-- A unit that stands for a character on its own is paired with no other. -/
private theorem pair_cons {c : Char} {ending : Option Fault} :
    ∀ {unit : CodeUnit} {units : List CodeUnit}, unit.Means c →
      pair ending (unit :: units) = (pair ending units).map (c :: ·)
  | .char d, units, h => by
    obtain rfl : d = c := h
    rw [pair]
  | .code n, units, h => by
    obtain ⟨rfl, hlt⟩ := h
    have htrailing : isTrailing c.toNat = false := decide_eq_false (by omega)
    have hleading : isLeading c.toNat = false := decide_eq_false (by omega)
    match units with
    | [] | .char _ :: _ | .code _ :: _ =>
      rw [pair.eq_def]
      simp only [htrailing, hleading, Char.ofNat_toNat, Bool.false_eq_true, if_false]

/-- What is written between quotes is scanned up to the closing quote and stands for the text. -/
private theorem scan_escape_all (rest : List Char) : ∀ cs : List Char, ∃ units,
    scan (cs.flatMap escape ++ '"' :: rest) = (units, .ok rest) ∧ pair none units = .ok cs
  | [] => ⟨[], rfl, rfl⟩
  | c :: cs => by
    obtain ⟨units, hscan, hpair⟩ := scan_escape_all rest cs
    obtain ⟨unit, hmeans, hfirst⟩ := scan_escape c (cs.flatMap escape ++ '"' :: rest)
    refine ⟨unit :: units, ?_, ?_⟩
    · rw [List.flatMap_cons, List.append_assoc, hfirst, hscan]
    · rw [pair_cons hmeans, hpair]
      rfl

end StringLiteral

/-- A written text is read as the text. -/
theorem Token.first_quote (s : String) (rest : List Char) :
    first '"' (s.toList.flatMap StringLiteral.escape ++ '"' :: rest) =
      (.string (.ok s) (.ok ()), rest) := by
  obtain ⟨units, hscan, hpair⟩ := StringLiteral.scan_escape_all rest s.toList
  have hcontent : StringLiteral.content (s.toList.flatMap StringLiteral.escape ++ '"' :: rest) =
      .ok s := by
    rw [StringLiteral.content, hscan]
    dsimp only
    rw [StringLiteral.faultOf, hpair, Except.map, String.ofList_toList]
  show stringToken _ = _
  rw [stringToken, hscan, hcontent]

/-! ### Integers -/

/-- A text that ends a number: nothing, or what may stand behind a value. -/
def Delimits : List Char → Prop
  | [] => True
  | c :: _ => c = ',' ∨ c = ']' ∨ c = '\x7d' ∨ c = '\n'

theorem Delimits.comma {cs : List Char} : Delimits (',' :: cs) := Or.inl rfl

theorem Delimits.bracket {cs : List Char} : Delimits (']' :: cs) := Or.inr (Or.inl rfl)

theorem Delimits.brace {cs : List Char} : Delimits ('\x7d' :: cs) :=
  Or.inr (Or.inr (Or.inl rfl))

theorem Delimits.lineBreak {cs : List Char} : Delimits ('\n' :: cs) :=
  Or.inr (Or.inr (Or.inr rfl))

/-- An integer of 64 bits: a signed one, or one without sign. -/
def Number.Fits : Number → Prop
  | .integer i => -(twoTo 63 : Int) ≤ i ∧ i < twoTo 64
  | .real _ => True

namespace NumberLiteral

variable {n : Nat} {rest : List Char}

/-- Digits are appended as long as the whole number has 64 bits. -/
private theorem accumulate_digits : ∀ {cs : List Char} {n : Nat},
    cs.foldl (fun n c => n * 10 + Text.digitValue c) n < twoTo 64 →
      accumulate n cs = (cs.foldl (fun n c => n * 10 + Text.digitValue c) n, 0)
  | [], _, _ => rfl
  | c :: cs, n, h => by
    rw [List.foldl_cons] at h
    have hlt : n * 10 + Text.digitValue c < twoTo 64 :=
      Nat.lt_of_le_of_lt (Text.le_foldl_digitValue cs _) h
    rw [accumulate, if_pos hlt, accumulate_digits h, List.foldl_cons]

/-- What ends a number goes on with nothing that belongs to one. -/
private theorem ends_of_delimits (h : Delimits rest) :
    rest.head?.any Text.isAsciiDigit = false ∧ fractionDigits rest = .ok ([], rest) ∧
      exponentPart rest = .ok (none, rest) := by
  match rest, h with
  | [], _ => exact ⟨rfl, rfl, rfl⟩
  | _ :: _, h => rcases h with rfl | rfl | rfl | rfl <;> exact ⟨rfl, rfl, rfl⟩

private theorem wholeDigits_digits (h : Delimits rest) :
    wholeDigits (Decimal.digits n ++ rest) = .ok (Decimal.digits n, rest) := by
  obtain ⟨hstop, -, -⟩ := ends_of_delimits h
  by_cases hn : n = 0
  · -- a zero stands alone
    subst hn
    show wholeDigits ('0' :: rest) = .ok (['0'], rest)
    rw [wholeDigits, hstop]
    rfl
  · obtain ⟨c, cs, hdigits⟩ := List.exists_cons_of_ne_nil (Decimal.digits_ne_nil n)
    have hall : ∀ d ∈ c :: cs, Text.isAsciiDigit d = true :=
      fun d hd => Decimal.isAsciiDigit_of_mem_digits (hdigits ▸ hd)
    have hzero : c ≠ '0' := by
      rintro rfl
      exact hn (Decimal.head?_digits.mp (by rw [hdigits]; rfl))
    have htake : rest.takeWhile Text.isAsciiDigit = [] ∧
        rest.dropWhile Text.isAsciiDigit = rest := by
      cases rest with
      | nil => exact ⟨rfl, rfl⟩
      | cons d rest =>
        have hd : Text.isAsciiDigit d = false := hstop
        rw [List.takeWhile_cons, List.dropWhile_cons, hd]
        exact ⟨rfl, rfl⟩
    have hwhole : wholeDigits (c :: cs ++ rest) = digits (c :: cs ++ rest) := by
      rw [List.cons_append, wholeDigits]
      exact fun _ heq => hzero (List.cons.inj heq).1
    rw [hdigits, hwhole, digits, List.takeWhile_append_of_pos hall,
      List.dropWhile_append_of_pos hall, htake.1, htake.2, List.append_nil]
    have hfirst : (c :: cs ++ rest).head?.any Text.isAsciiDigit = true :=
      hall c List.mem_cons_self
    rw [hfirst]
    rfl

/-- The digits of a number are scanned as a whole number. -/
private theorem scan_digits (negative : Bool) (h : Delimits rest) :
    scan negative (Decimal.digits n ++ rest) =
      .ok (⟨negative, Decimal.digits n, [], none, true⟩, rest) := by
  obtain ⟨-, hfraction, hexponent⟩ := ends_of_delimits h
  rw [scan, wholeDigits_digits h]
  simp only [bind, Except.bind, hfraction, hexponent]
  rfl

/-- Digits of a number that fits 64 bits, with a sign or without, stand for the integer. -/
private theorem number_digits (n : Nat) (negative : Bool) (hfits : n < twoTo 64)
    (hsign : negative = false ∨ 0 < n ∧ n ≤ twoTo 63) :
    Parts.number ⟨negative, Decimal.digits n, [], none, true⟩ =
      .ok (.integer (if negative then -(n : Int) else n)) := by
  have hvalue := Decimal.digitsValue_digits n
  rw [Text.digitsValue] at hvalue
  have haccumulate : accumulate 0 (Decimal.digits n) = (n, 0) := by
    rw [accumulate_digits (by omega), hvalue]
  rw [Parts.number, haccumulate]
  exact if_pos ⟨rfl, rfl, hsign⟩

end NumberLiteral

/-- A token that starts with a digit is a number. -/
private theorem Token.first_digit {c : Char} (cs : List Char) (h : Text.isAsciiDigit c = true) :
    isSpace c = false ∧ first c cs = numberToken false (c :: cs) := by
  obtain ⟨hlow, hhigh⟩ := Text.isAsciiDigit_iff.mp h
  have hne : ∀ d : Char, d.toNat < 48 ∨ 57 < d.toNat → c ≠ d := by
    rintro d hd rfl
    omega
  constructor
  · simp [isSpace, hne]
  · unfold first
    split
    case h_12 => rw [if_pos h]
    all_goals exact absurd rfl (hne _ (by decide))

/-- An integer of 64 bits that is written in front of the end of a number is read as the integer. -/
theorem Token.first_write {i : Int} {rest : List Char} (hfits : (Number.integer i).Fits)
    (h : Delimits rest) : ∃ c cs, Decimal.integerChars i ++ rest = c :: cs ∧ isSpace c = false ∧
      first c cs = (.number (.ok (.integer i)) (.ok ()), rest) := by
  obtain ⟨hlow, hhigh⟩ := hfits
  have hpowers : twoTo 64 = 2 * twoTo 63 := rfl
  rw [Decimal.integerChars]
  split
  case isTrue hneg =>
    refine ⟨'-', Decimal.digits i.natAbs ++ rest, rfl, rfl, ?_⟩
    have hnumber := NumberLiteral.number_digits i.natAbs true (by omega)
      (.inr ⟨by omega, by omega⟩)
    have hvalue : -(i.natAbs : Int) = i := by omega
    show numberToken true _ = _
    rw [numberToken, NumberLiteral.scan_digits true h]
    dsimp only
    rw [hnumber, if_pos rfl, hvalue]
  case isFalse hpos =>
    obtain ⟨c, cs, hdigits⟩ := List.exists_cons_of_ne_nil (Decimal.digits_ne_nil i.natAbs)
    have hc : Text.isAsciiDigit c = true :=
      Decimal.isAsciiDigit_of_mem_digits (hdigits ▸ List.mem_cons_self)
    obtain ⟨hspace, hfirst⟩ := first_digit (cs ++ rest) hc
    have hnumber := NumberLiteral.number_digits i.natAbs false (by omega)
      (.inl rfl)
    have hvalue : (i.natAbs : Int) = i := by omega
    refine ⟨c, cs ++ rest, by rw [hdigits]; rfl, hspace, ?_⟩
    rw [hfirst, ← List.cons_append, ← hdigits, numberToken, NumberLiteral.scan_digits false h]
    dsimp only
    rw [hnumber, if_neg Bool.false_ne_true, hvalue]

end InvoiceFields.Json
