import InvoiceFields.Proofs.Decimal.Rereading
import InvoiceFields.Proofs.Decimal.Value

/-!
# Numbers with a point

Digits with a point among them are read as the number of all the digits, and as many of them count
as behind the point as stand there (`exists_readChars?_pointed`). That needs room for the digits,
which 28 of them always have; of zeros at the end no more are kept than have room
(`exists_readDigits?_zeros`). A text with two points is no number (`readChars?_eq_none`).
-/

namespace InvoiceFields.Decimal

open Text (isAsciiDigit digitValue digitsValue)

variable {cs ds sign whole fraction : List Char} {c : Char} {n scale : Nat}

/-! ### Values of digits -/

theorem digitsValue_append (ds es : List Char) :
    digitsValue (ds ++ es) = digitsValue ds * tenTo es.length + digitsValue es := by
  have hfold : ∀ (es : List Char) (n : Nat),
      es.foldl (fun n c => n * 10 + digitValue c) n = n * tenTo es.length + digitsValue es := by
    intro es
    induction es with
    | nil => exact fun n => (Nat.mul_one n).symm
    | cons c es ih =>
      intro n
      have hpow : tenTo (es.length + 1) = tenTo es.length * 10 := rfl
      have hcons : digitsValue (c :: es) = digitValue c * tenTo es.length + digitsValue es := by
        rw [digitsValue, List.foldl_cons, ih, Nat.zero_mul, Nat.zero_add]
      rw [List.foldl_cons, ih, hcons, List.length_cons, hpow]
      ring
  rw [digitsValue, List.foldl_append, hfold]
  rfl

theorem digitsValue_lt (h : ∀ c ∈ ds, isAsciiDigit c = true) :
    digitsValue ds < tenTo ds.length := by
  induction ds with
  | nil => exact Nat.one_pos
  | cons c ds ih =>
    obtain ⟨hc, hds⟩ := List.forall_mem_cons.mp h
    obtain ⟨-, hhigh⟩ := Text.isAsciiDigit_iff.mp hc
    have hfirst : digitsValue [c] = c.toNat - 48 := Nat.zero_add _
    have hpow : tenTo (ds.length + 1) = tenTo ds.length * 10 := rfl
    have hle : digitsValue [c] * tenTo ds.length ≤ 9 * tenTo ds.length :=
      Nat.mul_le_mul_right _ (by omega)
    have hrest := ih hds
    rw [← List.singleton_append, digitsValue_append, List.length_append, List.length_singleton,
      Nat.add_comm 1, hpow]
    omega

/-- The digits at the end are a remainder. -/
theorem digitsValue_append_div {es : List Char} (h : ∀ c ∈ es, isAsciiDigit c = true) :
    digitsValue (ds ++ es) / tenTo es.length = digitsValue ds := by
  rw [digitsValue_append, Nat.mul_comm, Nat.mul_add_div (tenTo_pos _),
    Nat.div_eq_of_lt (digitsValue_lt h), Nat.add_zero]

/-- There is room for 28 digits. -/
theorem digitsValue_lt_of_length_le (h : ∀ c ∈ ds, isAsciiDigit c = true)
    (hlength : ds.length ≤ 28) : digitsValue ds < twoTo 96 :=
  calc digitsValue ds < tenTo ds.length := digitsValue_lt h
    _ ≤ tenTo 28 := Nat.pow_le_pow_right (by decide) hlength
    _ < twoTo 96 := by decide

/-! ### Reading -/

/-- What holds of both signs holds of every character of a sign. -/
theorem forall_mem_sign {p : Char → Prop} (hsign : sign ∈ [[], ['+'], ['-']]) (hplus : p '+')
    (hminus : p '-') : ∀ c ∈ sign, p c := by
  simp only [List.mem_cons, List.not_mem_nil, or_false] at hsign
  rcases hsign with rfl | rfl | rfl
  · exact nofun
  · exact List.forall_mem_singleton.mpr hplus
  · exact List.forall_mem_singleton.mpr hminus

/-- What is read behind a sign is signed. -/
theorem exists_readChars?_signed (hsign : sign ∈ [[], ['+'], ['-']])
    (hdigit : ∀ c, ds.head? = some c → isAsciiDigit c = true)
    (hexponent : ∀ c ∈ ds, (c != 'e' && c != 'E') = true)
    (hread : readDigits? false false 0 0 ds = some (n, scale)) (hn : n < twoTo 96)
    (hscale : scale ≤ 28) :
    ∃ d, readChars? (sign ++ ds) = some d ∧
      d.coefficient = signed (decide (sign = ['-'])) n ∧ d.scale = scale := by
  have hall : ∀ c ∈ sign ++ ds, (c != 'e' && c != 'E') = true :=
    List.forall_mem_append.mpr ⟨forall_mem_sign hsign rfl rfl, hexponent⟩
  obtain ⟨d, hd⟩ := exists_ofParts? (c := signed (decide (sign = ['-'])) n)
    (by rwa [natAbs_signed]) hscale
  obtain ⟨hcoefficient, hplaces⟩ := ofParts?_eq_some.mp hd
  refine ⟨d, ?_, hcoefficient, hplaces⟩
  rw [readChars?_eq_readPlain? hall, readPlain?, splitSign_append hsign hdigit]
  dsimp only
  rw [hread]
  exact hd

/-- A number with a point is read behind a sign as its digits are. -/
theorem exists_readChars?_of_readDigits? (hsign : sign ∈ [[], ['+'], ['-']]) (hne : whole ≠ [])
    (hwhole : ∀ c ∈ whole, isAsciiDigit c = true)
    (hfraction : ∀ c ∈ fraction, isAsciiDigit c = true)
    (hread : readDigits? false false 0 0 (whole ++ '.' :: fraction) = some (n, scale))
    (hn : n < twoTo 96) (hscale : scale ≤ 28) :
    ∃ d, readChars? (sign ++ (whole ++ '.' :: fraction)) = some d ∧
      d.coefficient = signed (decide (sign = ['-'])) n ∧ d.scale = scale := by
  refine exists_readChars?_signed hsign ?_ ?_ hread hn hscale
  · obtain ⟨c, whole, rfl⟩ := List.exists_cons_of_ne_nil hne
    rintro _ ⟨⟩
    exact hwhole c List.mem_cons_self
  · refine List.forall_mem_append.mpr ⟨fun c hc => not_exponent_of_isAsciiDigit (hwhole c hc), ?_⟩
    exact List.forall_mem_cons.mpr ⟨rfl, fun c hc => not_exponent_of_isAsciiDigit (hfraction c hc)⟩

/-- A number with a point of at most 28 digits is read with all of them. -/
theorem exists_readChars?_pointed (hsign : sign ∈ [[], ['+'], ['-']]) (hne : whole ≠ [])
    (hwhole : ∀ c ∈ whole, isAsciiDigit c = true)
    (hfraction : ∀ c ∈ fraction, isAsciiDigit c = true)
    (hlength : whole.length + fraction.length ≤ 28) :
    ∃ d, readChars? (sign ++ (whole ++ '.' :: fraction)) = some d ∧
      d.coefficient = signed (decide (sign = ['-'])) (digitsValue (whole ++ fraction)) ∧
      d.scale = fraction.length := by
  have hfits : digitsValue (whole ++ fraction) < twoTo 96 :=
    digitsValue_lt_of_length_le (List.forall_mem_append.mpr ⟨hwhole, hfraction⟩)
      (by rwa [List.length_append])
  have hread : readDigits? false false 0 0 (whole ++ '.' :: (fraction ++ [])) =
      some (digitsValue (whole ++ fraction), fraction.length) :=
    readDigits?_pointed hne hwhole hfraction hfits (by omega)
  rw [List.append_nil] at hread
  exact exists_readChars?_of_readDigits? hsign hne hwhole hfraction hread hfits (by omega)

/-- A number without a point of at most 28 digits is read with all of them. -/
theorem exists_readChars?_digits (hsign : sign ∈ [[], ['+'], ['-']]) (hne : whole ≠ [])
    (hwhole : ∀ c ∈ whole, isAsciiDigit c = true) (hlength : whole.length ≤ 28) :
    ∃ d, readChars? (sign ++ whole) = some d := by
  have hfits := digitsValue_lt_of_length_le hwhole hlength
  obtain ⟨d, hd, -⟩ := exists_readChars?_signed hsign
    (fun c hc => hwhole c (List.mem_of_mem_head? hc))
    (fun c hc => not_exponent_of_isAsciiDigit (hwhole c hc))
    (readDigits?_digits hne hwhole hfits) hfits (Nat.zero_le _)
  exact ⟨d, hd⟩

/-- Of zeros at the end as many are kept as have room. -/
theorem exists_readDigits?_zeros (hn : n < twoTo 96) (hscale : scale ≤ 28) (k : Nat) :
    ∃ j, readDigits? true true n scale (List.replicate k '0') = some (n * tenTo j, scale + j) ∧
      n * tenTo j < twoTo 96 ∧ scale + j ≤ 28 := by
  induction k generalizing n scale with
  | zero =>
    have hone : n * tenTo 0 = n := Nat.mul_one n
    rw [List.replicate_zero]
    exact ⟨0, by rw [hone]; rfl, by rwa [hone], hscale⟩
  | succ k ih =>
    have hzero : digitValue '0' = 0 := rfl
    rw [List.replicate_succ, readDigits?, if_pos (by decide), hzero]
    split
    case isTrue hroom =>
      obtain ⟨j, hread, hfits, hplaces⟩ := ih hroom.1 hroom.2
      have hpow : n * tenTo (j + 1) = n * 10 * tenTo j := by
        rw [tenTo_eq, tenTo_eq, pow_succ']
        ring
      refine ⟨j + 1, ?_, ?_, by omega⟩
      · rw [if_pos rfl, hread, hpow, Nat.succ_add_eq_add_succ]
        rfl
      · rwa [hpow]
    case isFalse =>
      -- what has no room is rounded away, and a zero changes nothing
      have hspare : (List.replicate k '0').all isSpare = true :=
        List.all_eq_true.mpr fun c hc => by rw [List.eq_of_mem_replicate hc]; rfl
      refine ⟨0, ?_, by simpa [tenTo_eq] using hn, hscale⟩
      rw [hspare, tenTo_eq, pow_zero, Nat.mul_one]
      rfl

/-! ### Two points -/

/-- Behind a point there is no other one. -/
private theorem readDigits?_eq_none_of_mem {started : Bool} (h : '.' ∈ cs) :
    readDigits? started true n scale cs = none := by
  induction cs generalizing started n scale with
  | nil => exact nomatch h
  | cons c cs ih =>
    rw [readDigits?]
    rcases List.mem_cons.mp h with rfl | h
    · rw [if_neg (by decide), if_neg (by decide), if_neg (by cases started <;> decide)]
    · have hspare : cs.all isSpare = false :=
        List.all_eq_false.mpr ⟨'.', h, by decide⟩
      rw [hspare, ih h, ih h, Bool.and_false, if_neg Bool.false_ne_true, Bool.not_true,
        Bool.and_false, if_neg Bool.false_ne_true, ite_self, ite_self, ite_self]

theorem readDigits?_eq_none {started : Bool} (h : 2 ≤ cs.count '.') :
    readDigits? started false n scale cs = none := by
  induction cs generalizing started n scale with
  | nil => exact absurd h (by decide)
  | cons c cs ih =>
    rw [readDigits?]
    rw [List.count_cons] at h
    rcases eq_or_ne c '.' with rfl | hc
    · have hmem : '.' ∈ cs := List.count_pos_iff.mp (by simpa using h)
      rw [if_neg (by decide), if_pos (by decide), readDigits?_eq_none_of_mem hmem]
    · rw [if_neg (by simpa using hc), Nat.add_zero] at h
      rw [ih h, ih h, decide_eq_false hc, Bool.false_and, Bool.false_and,
        if_neg Bool.false_ne_true, if_neg Bool.false_ne_true, ite_self, ite_self, ite_self]

/-- A text with two points is no number. -/
theorem readChars?_eq_none (hexponent : ∀ c ∈ cs, (c != 'e' && c != 'E') = true)
    (h : 2 ≤ cs.count '.') : readChars? cs = none := by
  -- a sign in front is no point
  have hcount : 2 ≤ (splitSign cs).2.count '.' := by
    fun_cases splitSign cs with
    | case1 cs => simpa using h
    | case2 cs => simpa using h
    | case3 => exact h
  rw [readChars?_eq_readPlain? hexponent, readPlain?]
  dsimp only
  rw [readDigits?_eq_none hcount]
  rfl

end InvoiceFields.Decimal
