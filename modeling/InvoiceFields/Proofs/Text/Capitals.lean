import InvoiceFields.Text.Blank
import InvoiceFields.Text.Case
import InvoiceFields.Text.Digit

/-!
# Capitals

The upper-case map sends every character to characters that it leaves alone (`upperChar_of_mem`).
It makes no decimal digit, no blank and no character below `A`: such a character of the image stands
in the text already (`eq_of_mem_upperChar`, `isBlank_of_mem_upperChars`). These are facts about the
tables of the map: the numbers its images lie in are compared, as progressions, with those it
changes and with those of other classes.
-/

namespace InvoiceFields.Text

/-! ### Progressions -/

/-- The numbers from `lo` to `hi`, or every other one of them. -/
structure Progression where
  lo : Nat
  hi : Nat
  alternate : Bool

namespace Progression

/-- The numbers of a progression. -/
def Mem (a : Progression) (n : Nat) : Prop :=
  a.lo ≤ n ∧ n ≤ a.hi ∧ (a.alternate = true → n % 2 = a.lo % 2)

/-- Whether two progressions lie apart, or interlock without a common number. -/
def apart (a b : Progression) : Bool :=
  Nat.blt a.hi b.lo || Nat.blt b.hi a.lo ||
    (a.alternate && b.alternate && Nat.beq ((a.lo + b.lo) % 2) 1)

theorem not_mem_of_apart {a b : Progression} (h : a.apart b = true) {n : Nat} (ha : a.Mem n) :
    ¬ b.Mem n := by
  rintro ⟨hlo, hhi, hb⟩
  obtain ⟨hlo', hhi', ha⟩ := ha
  simp only [apart, Bool.or_eq_true, Bool.and_eq_true, Nat.blt_eq, Nat.beq_eq] at h
  rcases h with (h | h) | ⟨⟨h, h'⟩, hodd⟩
  · omega
  · omega
  · have h1 := ha h
    have h2 := hb h'
    omega

/-- Whether all numbers of a progression are characters from `A` on. -/
def isTextual (a : Progression) : Bool :=
  Nat.ble 0x41 a.lo && (Nat.blt a.hi 0xd800 || Nat.ble 0xe000 a.lo && Nat.blt a.hi 0x110000)

theorem toNat_ofNat_of_isTextual {a : Progression} (h : a.isTextual = true) {n : Nat}
    (hn : a.Mem n) : (Char.ofNat n).toNat = n ∧ 0x41 ≤ n := by
  obtain ⟨hlo, hhi, -⟩ := hn
  simp only [isTextual, Bool.and_eq_true, Bool.or_eq_true, Nat.ble_eq, Nat.blt_eq] at h
  have hvalid : n.isValidChar := by
    rw [Nat.isValidChar]
    omega
  refine ⟨?_, by omega⟩
  rw [Char.ofNat, dif_pos hvalid]
  rfl

end Progression

/-! ### Runs as progressions -/

/-- The numbers that a run changes. -/
def CaseRun.domain (run : CaseRun) : Progression :=
  ⟨run.first, run.last, Nat.beq (run.step % 2) 0 || Nat.beq run.first run.last⟩

/-- The numbers that a run yields. -/
def CaseRun.images (run : CaseRun) : Progression :=
  ⟨run.image, run.image + (run.last - run.first),
    Nat.beq (run.step % 2) 0 || Nat.beq run.first run.last⟩

theorem CaseRun.mem_of_imageOf?_eq_some {run : CaseRun} {n m : Nat}
    (h : run.imageOf? n = some m) : run.domain.Mem n ∧ run.images.Mem m := by
  rw [imageOf?] at h
  split at h
  case isFalse => cases h
  case isTrue hn =>
    obtain ⟨hfirst, hlast, hstep⟩ := hn
    cases Option.some.inj h
    -- an even step keeps the parity of the distance from the start
    have heven : (Nat.beq (run.step % 2) 0 || Nat.beq run.first run.last) = true →
        (n - run.first) % 2 = 0 := by
      intro halternate
      simp only [Bool.or_eq_true, Nat.beq_eq] at halternate
      rcases halternate with htwo | hsingle
      · have hdvd : 2 ∣ n - run.first :=
          Nat.dvd_trans (Nat.dvd_of_mod_eq_zero htwo) (Nat.dvd_of_mod_eq_zero hstep)
        exact Nat.mod_eq_zero_of_dvd hdvd
      · omega
    refine ⟨⟨hfirst, hlast, fun h => ?_⟩, ⟨?_, ?_, fun h => ?_⟩⟩
    · have := heven h
      simp only [domain]
      omega
    · simp only [images]
      omega
    · simp only [images]
      omega
    · have := heven h
      simp only [images]
      omega

theorem mem_of_applyRuns_eq_some {runs : List CaseRun} {n m : Nat}
    (h : applyRuns runs n = some m) : ∃ run ∈ runs, run.domain.Mem n ∧ run.images.Mem m := by
  obtain ⟨run, hrun, himage⟩ := List.exists_of_findSome?_eq_some h
  exact ⟨run, hrun, run.mem_of_imageOf?_eq_some himage⟩

/-! ### The upper-case map -/

/-- The numbers of the characters that the upper-case map changes. -/
def upperDomains : List Progression :=
  ⟨0x61, 0x7a, false⟩ :: (upperRuns.map (·.domain) ++
    upperExpansions.map fun e => ⟨e.1, e.1, true⟩)

/-- The numbers of the characters that the upper-case map puts for them. -/
def upperImages : List Progression :=
  ⟨0x41, 0x5a, false⟩ :: (upperRuns.map (·.images) ++
    upperExpansions.flatMap fun e => e.2.map fun n => ⟨n, n, true⟩)

private theorem upperImages_apart_upperDomains :
    (upperImages.all fun a => upperDomains.all a.apart) = true := by decide +kernel

private theorem upperImages_textual : upperImages.all (·.isTextual) = true := by decide +kernel

private theorem upperImages_apart_digits :
    (upperImages.all fun a =>
      decimalDigitRanges.all fun r => a.apart ⟨r.1, r.2, false⟩) = true := by decide +kernel

private theorem upperImages_apart_blanks :
    (upperImages.all fun a =>
      blankRanges.all fun r => a.apart ⟨r.1, r.2, false⟩) = true := by decide +kernel

/-- A character outside the domains is its own upper-case image. -/
theorem upperChar_eq_self {c : Char} (h : ∀ b ∈ upperDomains, ¬ b.Mem c.toNat) :
    upperChar c = [c] := by
  have hlookup : upperExpansions.lookup c.toNat = none := by
    rw [List.lookup_eq_none_iff]
    intro e he
    have hmem : (⟨e.1, e.1, true⟩ : Progression) ∈ upperDomains :=
      List.mem_cons_of_mem _ (List.mem_append_right _ (List.mem_map.mpr ⟨e, he, rfl⟩))
    rw [bne_iff_ne]
    intro heq
    exact h _ hmem ⟨Nat.le_of_eq heq.symm, Nat.le_of_eq heq, fun _ => by rw [heq]⟩
  have hruns : applyRuns upperRuns c.toNat = none := by
    cases happly : applyRuns upperRuns c.toNat with
    | none => rfl
    | some m =>
      obtain ⟨run, hrun, hdomain, -⟩ := mem_of_applyRuns_eq_some happly
      have hmem : run.domain ∈ upperDomains :=
        List.mem_cons_of_mem _ (List.mem_append_left _ (List.mem_map.mpr ⟨run, hrun, rfl⟩))
      exact absurd hdomain (h _ hmem)
  have hascii : asciiUpperChar c = c := by
    rw [asciiUpperChar, if_neg]
    intro hlower
    rw [isAsciiLower, Bool.and_eq_true, decide_eq_true_iff, decide_eq_true_iff] at hlower
    exact h _ List.mem_cons_self ⟨hlower.1, hlower.2, fun h => by cases h⟩
  rw [upperChar, hlookup, hruns, hascii, ite_self]

/-- Characters up to `Z` are their own capitals. -/
theorem upperChar_of_le {c : Char} (h : c ≤ 'Z') : upperChar c = [c] := by
  have hle : c.toNat ≤ 0x5a := h
  have hlower : isAsciiLower c = false := by
    rw [isAsciiLower, Bool.and_eq_false_iff, decide_eq_false_iff_not]
    exact .inl fun hlow => absurd (Char.le_trans hlow h) (by decide)
  rw [upperChar, if_pos (by omega), asciiUpperChar, hlower]
  rfl

theorem upperChar_of_isAsciiDigit {d : Char} (h : isAsciiDigit d = true) : upperChar d = [d] :=
  upperChar_of_le (Char.le_trans (of_decide_eq_true (Bool.and_eq_true_iff.mp h).2) (by decide))

theorem upperChar_of_utf8Size {c : Char} (h : c.utf8Size = 1) :
    upperChar c = [asciiUpperChar c] := by
  have hle : c.toNat ≤ 0x7f := Char.utf8Size_eq_one_iff.mp h
  rw [upperChar, if_pos (by omega)]

/-- The capital of an ASCII character is one. -/
theorem utf8Size_asciiUpperChar {c : Char} (h : c.utf8Size = 1) :
    (asciiUpperChar c).utf8Size = 1 := by
  have hle : c.toNat ≤ 0x7f := Char.utf8Size_eq_one_iff.mp h
  rw [asciiUpperChar]
  split
  case isTrue =>
    have hvalid : (c.toNat - 32).isValidChar := by
      rw [Nat.isValidChar]
      omega
    refine Char.utf8Size_eq_one_iff.mpr ?_
    rw [Char.ofNat, dif_pos hvalid]
    exact Nat.le_trans (Nat.sub_le _ _) hle
  case isFalse => exact h

/-- Every character has a capital. -/
theorem upperChar_ne_nil (c : Char) : upperChar c ≠ [] := by
  rw [upperChar]
  split
  case isTrue => exact List.cons_ne_nil _ _
  case isFalse =>
    split
    case h_1 image himage =>
      obtain ⟨l, r, hsplit, -⟩ := List.lookup_eq_some_iff.mp himage
      have hmem : (c.toNat, image) ∈ upperExpansions := by simp [hsplit]
      have hne : ∀ e ∈ upperExpansions, e.2 ≠ [] := by decide
      exact fun hnil => hne _ hmem (List.map_eq_nil_iff.mp hnil)
    case h_2 => split <;> exact List.cons_ne_nil _ _

/-- The upper-case map leaves a character alone or sends it into the images. -/
theorem upperChar_eq_self_or_mem (c : Char) :
    upperChar c = [c] ∨ ∀ d ∈ upperChar c, ∃ a ∈ upperImages, a.Mem d.toNat := by
  have hvalid : ∀ a ∈ upperImages, ∀ n, a.Mem n → (Char.ofNat n).toNat = n := fun a ha n hn =>
    (Progression.toNat_ofNat_of_isTextual (List.all_eq_true.mp upperImages_textual a ha) hn).1
  have hofNat : ∀ a ∈ upperImages, ∀ n, a.Mem n → a.Mem (Char.ofNat n).toNat := fun a ha n hn => by
    rwa [hvalid a ha n hn]
  rw [upperChar]
  split
  case isTrue hascii =>
    rw [asciiUpperChar]
    split
    case isFalse => exact .inl rfl
    case isTrue hlower =>
      right
      rw [isAsciiLower, Bool.and_eq_true, decide_eq_true_iff, decide_eq_true_iff] at hlower
      intro d hd
      obtain rfl := List.mem_singleton.mp hd
      have hlo : 0x61 ≤ c.toNat := hlower.1
      have hhi : c.toNat ≤ 0x7a := hlower.2
      exact ⟨_, List.mem_cons_self, hofNat _ List.mem_cons_self _
        ⟨by simp only; omega, by simp only; omega, fun h => by cases h⟩⟩
  case isFalse =>
    split
    case h_1 image himage =>
      right
      intro d hd
      obtain ⟨n, hn, rfl⟩ := List.mem_map.mp hd
      obtain ⟨l, r, hsplit, -⟩ := List.lookup_eq_some_iff.mp himage
      have he : (c.toNat, image) ∈ upperExpansions := by simp [hsplit]
      have hmem : (⟨n, n, true⟩ : Progression) ∈ upperImages :=
        List.mem_cons_of_mem _ (List.mem_append_right _
          (List.mem_flatMap.mpr ⟨_, he, List.mem_map.mpr ⟨n, hn, rfl⟩⟩))
      exact ⟨_, hmem, hofNat _ hmem n ⟨Nat.le_refl n, Nat.le_refl n, fun _ => rfl⟩⟩
    case h_2 =>
      split
      case h_2 => exact .inl rfl
      case h_1 n happly =>
        right
        intro d hd
        obtain rfl := List.mem_singleton.mp hd
        obtain ⟨run, hrun, -, himage⟩ := mem_of_applyRuns_eq_some happly
        have hmem : run.images ∈ upperImages :=
          List.mem_cons_of_mem _ (List.mem_append_left _ (List.mem_map.mpr ⟨run, hrun, rfl⟩))
        exact ⟨_, hmem, hofNat _ hmem n himage⟩

/-- A character that the upper-case map yields is its own upper-case image. -/
theorem upperChar_of_mem {c d : Char} (h : d ∈ upperChar c) : upperChar d = [d] := by
  rcases upperChar_eq_self_or_mem c with hself | himages
  · rw [hself, List.mem_singleton] at h
    rw [h, hself]
  · obtain ⟨a, ha, hd⟩ := himages d h
    refine upperChar_eq_self fun b hb => ?_
    have hall := List.all_eq_true.mp upperImages_apart_upperDomains a ha
    exact Progression.not_mem_of_apart (List.all_eq_true.mp hall b hb) hd

/-- A text of characters that are their own images is its own image. -/
theorem upperChars_eq_self {cs : List Char} (h : ∀ c ∈ cs, upperChar c = [c]) :
    upperChars cs = cs := by
  rw [upperChars]
  induction cs with
  | nil => rfl
  | cons c cs ih =>
    rw [List.flatMap_cons, h c List.mem_cons_self, ih fun d hd => h d (List.mem_cons_of_mem _ hd),
      List.singleton_append]

/-- A text of characters with one capital each has as many capitals. -/
theorem length_upperChars {cs : List Char} (h : ∀ c ∈ cs, ∃ u, upperChar c = [u]) :
    (upperChars cs).length = cs.length := by
  rw [upperChars]
  induction cs with
  | nil => rfl
  | cons c cs ih =>
    obtain ⟨u, hu⟩ := h c List.mem_cons_self
    rw [List.flatMap_cons, hu, List.singleton_append, List.length_cons, List.length_cons,
      ih fun d hd => h d (List.mem_cons_of_mem _ hd)]

/-- A number in some ranges lies in one of them. -/
theorem exists_range_of_inRanges {ranges : List (Nat × Nat)} {n : Nat}
    (h : inRanges ranges n = true) : ∃ r ∈ ranges, r.1 ≤ n ∧ n ≤ r.2 := by
  induction ranges with
  | nil => cases h
  | cons r ranges ih =>
    rw [inRanges, Bool.and_eq_true, Bool.or_eq_true, decide_eq_true_iff, decide_eq_true_iff] at h
    rcases h with ⟨hfirst, hlast | hrest⟩
    · exact ⟨r, List.mem_cons_self, hfirst, hlast⟩
    · obtain ⟨s, hs, hn⟩ := ih hrest
      exact ⟨s, List.mem_cons_of_mem _ hs, hn⟩

/-- The upper-case map makes no character of ranges that lie apart from its images. -/
theorem eq_of_mem_upperChar_of_inRanges {ranges : List (Nat × Nat)} {c d : Char}
    (hapart : (upperImages.all fun a => ranges.all fun r => a.apart ⟨r.1, r.2, false⟩) = true)
    (h : d ∈ upperChar c) (hd : inRanges ranges d.toNat = true) : d = c := by
  rcases upperChar_eq_self_or_mem c with hself | himages
  · rw [hself, List.mem_singleton] at h
    exact h
  · obtain ⟨a, ha, hmem⟩ := himages d h
    obtain ⟨r, hr, hlo, hhi⟩ := exists_range_of_inRanges hd
    have hall := List.all_eq_true.mp hapart a ha
    exact absurd ⟨hlo, hhi, fun h => by cases h⟩
      (Progression.not_mem_of_apart (List.all_eq_true.mp hall r hr) hmem)

/-- The upper-case map makes no decimal digit and no character below `A`. -/
theorem eq_of_mem_upperChar {c d : Char} (h : d ∈ upperChar c)
    (hd : isDecimalDigit d = true ∨ d.toNat < 0x41) : d = c := by
  rcases hd with hdigit | hlow
  · exact eq_of_mem_upperChar_of_inRanges upperImages_apart_digits h hdigit
  · rcases upperChar_eq_self_or_mem c with hself | himages
    · rw [hself, List.mem_singleton] at h
      exact h
    · obtain ⟨a, ha, hmem⟩ := himages d h
      have htextual := List.all_eq_true.mp upperImages_textual a ha
      have := (Progression.toNat_ofNat_of_isTextual htextual hmem).2
      omega

/-- The upper-case map makes no blank. -/
theorem isBlank_of_mem_upperChars {cs : List Char} {d : Char}
    (h : ∀ c ∈ cs, isBlank c = false) (hd : d ∈ upperChars cs) : isBlank d = false := by
  obtain ⟨c, hc, hmem⟩ := List.mem_flatMap.mp hd
  refine Bool.eq_false_iff.mpr fun hblank => ?_
  rw [eq_of_mem_upperChar_of_inRanges upperImages_apart_blanks hmem hblank, h c hc] at hblank
  exact Bool.false_ne_true hblank

/-- The digits among the capitals of a text are digits of the text. -/
theorem mem_of_mem_upperChars {cs : List Char} {d : Char} (h : d ∈ upperChars cs)
    (hd : isDecimalDigit d = true) : d ∈ cs := by
  obtain ⟨c, hc, hmem⟩ := List.mem_flatMap.mp h
  rwa [eq_of_mem_upperChar hmem (.inl hd)]

end InvoiceFields.Text
