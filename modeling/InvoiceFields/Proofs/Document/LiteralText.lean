import InvoiceFields.Proofs.Document.Anchor
import InvoiceFields.Proofs.Profile.Building

/-!
# Text that is literally there

Markers and keywords are looked for in lower case, and so are the lines and the names of sources.
What stands there letter for letter is found all the same if its capital sigmas are settled
(`Text.SigmasSettled`). Otherwise some line has it that the search passes over, since the line puts
the sigma into a word or at the end of one (`finds_literal_iff`).
-/

namespace InvoiceFields

variable {marker : String} {doc : Document} {start i j : Nat} {line : String}

/-! ### Markers on lines -/

namespace Document

/-- A marker that stands on a line in lower case is found there or on a line above. -/
theorem exists_findAnchorFrom?_of_marks (hj : start ≤ j) (hline : doc.lines[j]? = some line)
    (hmarks : Marks marker line) :
    ∃ i, doc.findAnchorFrom? [marker] start = some i ∧ start ≤ i ∧ i ≤ j := by
  have hmem : line ∈ doc.lines.drop start := by
    obtain ⟨d, rfl⟩ := Nat.exists_eq_add_of_le hj
    rw [← List.getElem?_drop] at hline
    exact List.mem_of_getElem? hline
  cases hfound : doc.findAnchorFrom? [marker] start with
  | none => exact absurd hmarks (findAnchorFrom?_eq_none_iff.mp hfound marker (by simp) line hmem)
  | some i =>
    obtain ⟨before, other, after, hmarkers, -, hfirst⟩ := findAnchorFrom?_eq_some_iff.mp hfound
    obtain rfl : other = marker := by
      have hother : other ∈ [marker] := by simp [hmarkers]
      simpa using hother
    refine ⟨i, rfl, hfirst.start_le, Nat.le_of_not_lt fun hlt => ?_⟩
    exact hfirst.not_marks j line hj hlt hline hmarks

/-- What is found on the only line of a document stands on it. -/
theorem marks_of_findAnchorFrom? (h : findAnchorFrom? ⟨[line]⟩ [marker] 0 = some i) :
    Marks marker line := by
  by_contra hnot
  have hnone : findAnchorFrom? ⟨[line]⟩ [marker] 0 = none := by
    rw [findAnchorFrom?_eq_none_iff]
    simpa [Unmarked] using hnot
  rw [h] at hnone
  exact Option.some_ne_none i hnone

end Document

/-! ### Keywords in the names of sources -/

namespace Profile

variable {k source : String} {p p' : Profile}

/-- The profiles that are built with a keyword among others, by calls or out of a record. -/
inductive BuiltWith (k : String) : Profile → Prop
  | keyword {p : Profile} (built : p.Built) {keywords : List String} (hk : k ∈ keywords) :
      BuiltWith k (p.withKeywords keywords)
  | ofRecord {record : ProfileRecord} {p : Profile} (hk : k ∈ record.keywords.getD [])
      (built : record.profile = .ok p) : BuiltWith k p
  | withKeywords {p : Profile} (built : BuiltWith k p) (keywords : List String) :
      BuiltWith k (p.withKeywords keywords)
  | withTaxIds {p : Profile} (built : BuiltWith k p) (ids : List String) :
      BuiltWith k (p.withTaxIds ids)
  | withRate {p : Profile} (built : BuiltWith k p) (rate : Option VatRate) :
      BuiltWith k (p.withRate rate)
  | withMapping {p : Profile} (built : BuiltWith k p) (mapping : Mapping) :
      BuiltWith k (p.withMapping mapping)
  | withOverride {p p' : Profile} {f : Field} {name : String} (built : BuiltWith k p)
      (added : p.withOverride f name = .ok p') : BuiltWith k p'

theorem keywords_of_addOverrides {overrides : List (String × String)}
    (h : ProfileRecord.addOverrides overrides p = .ok p') : p'.keywords = p.keywords := by
  induction overrides generalizing p with
  | nil =>
    cases h
    rfl
  | cons entry rest ih =>
    obtain ⟨f, -, h⟩ := bind_eq_ok.mp h
    obtain ⟨q, hq, h⟩ := bind_eq_ok.mp h
    obtain ⟨o, -, rfl⟩ := withOverride_eq_ok.mp hq
    have hkeywords := ih h
    exact hkeywords

theorem toList_cleanKeyword (k : String) :
    (cleanKeyword k).toList = Text.lowerChars (Text.trimChars k.toList) := by
  simp only [cleanKeyword, Text.lower, Text.trim, String.toList_ofList]

/-- A keyword that is not blank is kept in lower case, without the blanks at its ends. -/
theorem cleanKeyword_mem_withKeywords {keywords : List String} (hk : k ∈ keywords)
    (hblank : Text.blankOnly k = false) : cleanKeyword k ∈ (p.withKeywords keywords).keywords := by
  refine List.mem_append_right _ (List.mem_filter.mpr ⟨List.mem_map_of_mem hk, ?_⟩)
  have hkept : (cleanKeyword k).toList ≠ [] := by
    rw [toList_cleanKeyword, Ne, Text.lowerChars_eq_nil_iff, ← Text.blankOnly_eq_true_iff, hblank]
    exact Bool.false_ne_true
  simpa using hkept

theorem BuiltWith.cleanKeyword_mem (h : p.BuiltWith k) (hblank : Text.blankOnly k = false) :
    cleanKeyword k ∈ p.keywords := by
  induction h with
  | keyword _ hk => exact cleanKeyword_mem_withKeywords hk hblank
  | ofRecord hk built =>
    rw [keywords_of_addOverrides built]
    exact cleanKeyword_mem_withKeywords hk hblank
  | withKeywords _ _ ih => exact List.mem_append_left _ ih
  | withTaxIds _ _ ih | withRate _ _ ih | withMapping _ _ ih => exact ih
  | withOverride _ added ih =>
    obtain ⟨o, -, rfl⟩ := withOverride_eq_ok.mp added
    exact ih

/-- A source is matched by a keyword that is a piece of its name in lower case. -/
theorem matchesSource_eq_true_iff : p.matchesSource source = true ↔
    ∃ k ∈ p.keywords, k.toList <:+: Text.lowerChars source.toList := by
  simp only [matchesSource, List.any_eq_true, Text.contains, Text.occursIn_iff_infix, Text.lower,
    String.toList_ofList]

/-- The only keyword of a profile matches the sources that have it in lower case. -/
theorem infix_of_matchesSource (h : ((named "").withKeywords [k]).matchesSource source = true) :
    Text.lowerChars (Text.trimChars k.toList) <:+: Text.lowerChars source.toList := by
  obtain ⟨found, hfound, hinfix⟩ := matchesSource_eq_true_iff.mp h
  simp only [withKeywords, named, List.nil_append, List.mem_filter, List.map_singleton,
    List.mem_singleton] at hfound
  rwa [hfound.1, toList_cleanKeyword] at hinfix

end Profile

/-! ### The main statement -/

/-- **Text that is literally there.** A marker is found on every line at `start` or later that has
it, or above, exactly if its capital sigmas are settled, and so is a keyword of a profile in every
source that has it. -/
theorem finds_literal_iff (hblank : Text.blankOnly marker = false) :
    ((∀ (doc : Document) (start j : Nat) (line : String), start ≤ j →
        doc.lines[j]? = some line → Text.trimChars marker.toList <:+: line.toList →
          ∃ i, doc.findAnchorFrom? [marker] start = some i ∧ start ≤ i ∧ i ≤ j) ↔
      Text.SigmasSettled (Text.trimChars marker.toList)) ∧
    ((∀ (p : Profile) (source : String), p.BuiltWith marker →
        Text.trimChars marker.toList <:+: source.toList → p.matchesSource source = true) ↔
      Text.SigmasSettled (Text.trimChars marker.toList)) := by
  have hchars : ∀ text, (String.ofList text).toList = text := fun text => String.toList_ofList
  refine ⟨⟨fun hall => ?_, fun hsettled doc start j line hj hline hpart => ?_⟩,
    ⟨fun hall => ?_, fun hsettled p source hp hpart => ?_⟩⟩
  · rw [← Text.forall_lowerChars_infix_iff]
    intro text hpart
    obtain ⟨i, hfound, -, -⟩ := hall ⟨[String.ofList text]⟩ 0 0 (String.ofList text)
      (Nat.le_refl 0) rfl (by rwa [hchars])
    rw [← hchars text]
    exact (Document.marks_of_findAnchorFrom? hfound).2
  · exact Document.exists_findAnchorFrom?_of_marks hj hline
      ⟨hblank, Text.lowerChars_infix hsettled hpart⟩
  · rw [← Text.forall_lowerChars_infix_iff]
    intro text hpart
    rw [← hchars text] at hpart ⊢
    exact Profile.infix_of_matchesSource (hall _ _ (.keyword (.named "") (by simp)) hpart)
  · refine Profile.matchesSource_eq_true_iff.mpr ⟨_, hp.cleanKeyword_mem hblank, ?_⟩
    rw [Profile.toList_cleanKeyword]
    exact Text.lowerChars_infix hsettled hpart

/-- A marker whose capital sigma stands in front of a blank is found on every line that has it. -/
theorem finds_literal_iff_settled : Text.blankOnly " ΦΟΡΟΣ Α" = false ∧
    ∃ i, Document.findAnchorFrom? ⟨["", "ΦΟΡΟΣ ΑΞΙΑΣ 24%"]⟩ [" ΦΟΡΟΣ Α"] 1 = some i ∧
      1 ≤ i ∧ i ≤ 1 := by
  have hblank : Text.blankOnly " ΦΟΡΟΣ Α" = false := by decide +kernel
  have hsettled : Text.SigmasSettled (Text.trimChars " ΦΟΡΟΣ Α".toList) := by decide +kernel
  refine ⟨hblank, (finds_literal_iff hblank).1.mpr hsettled _ 1 1 _ (Nat.le_refl 1) rfl ?_⟩
  exact ⟨[], "ΞΙΑΣ 24%".toList, by decide +kernel⟩

/-- A marker that ends in a capital sigma is not found within a word, and a keyword that does is
not found in front of the extension of a file. -/
theorem exists_literal_not_found :
    ¬ (∀ (marker : String), Text.blankOnly marker = false →
      ∀ (doc : Document) (start j : Nat) (line : String), start ≤ j →
        doc.lines[j]? = some line → Text.trimChars marker.toList <:+: line.toList →
          ∃ i, doc.findAnchorFrom? [marker] start = some i ∧ start ≤ i ∧ i ≤ j) ∧
    ¬ ∀ (k : String), Text.blankOnly k = false → ∀ (p : Profile) (source : String),
      p.BuiltWith k → Text.trimChars k.toList <:+: source.toList →
        p.matchesSource source = true := by
  have hblank : Text.blankOnly "ΑΣ" = false := by decide +kernel
  constructor
  · intro hall
    have hpart : Text.trimChars "ΑΣ".toList <:+: "ΑΣΑ".toList := ⟨[], ['Α'], by decide +kernel⟩
    obtain ⟨i, hfound, -⟩ := hall "ΑΣ" hblank ⟨["ΑΣΑ"]⟩ 0 0 "ΑΣΑ" (Nat.le_refl 0) rfl hpart
    have hnone : Document.findAnchorFrom? ⟨["ΑΣΑ"]⟩ ["ΑΣ"] 0 = none := by decide +kernel
    rw [hnone] at hfound
    exact Option.some_ne_none i hfound.symm
  · intro hall
    have hpart : Text.trimChars "ΑΣ".toList <:+: "ΑΣ.txt".toList :=
      ⟨[], ".txt".toList, by decide +kernel⟩
    have hmatches := hall "ΑΣ" hblank ((Profile.named "").withKeywords ["ΑΣ"]) "ΑΣ.txt"
      (.keyword (.named "") (by simp)) hpart
    have hnone : ((Profile.named "").withKeywords ["ΑΣ"]).matchesSource "ΑΣ.txt" = false := by
      decide +kernel
    rw [hnone] at hmatches
    exact Bool.false_ne_true hmatches

end InvoiceFields
