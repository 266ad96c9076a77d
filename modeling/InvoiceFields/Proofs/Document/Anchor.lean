import InvoiceFields.Document
import InvoiceFields.Proofs.Text.Lowering
import InvoiceFields.Proofs.Text.Trimming

/-!
# Anchors

A document is anchored at the first line of the first marker that stands on a line at all
(`IsAnchor`). The search finds the anchor (`finds_anchor`); where it starts only shifts the lines,
blank markers do not matter, and a further marker only matters where there is no anchor yet.
-/

namespace InvoiceFields.Document

variable {doc : Document} {markers : List String} {marker line : String} {start i : Nat}

/-! ### Markers on lines -/

/-- A marker stands on a line: it is not blank, and without the blanks at its ends it is a piece of
the line when both are in lower case. -/
def Marks (marker line : String) : Prop :=
  Text.blankOnly marker = false ∧
    Text.lowerChars (Text.trimChars marker.toList) <:+: Text.lowerChars line.toList

instance (marker line : String) : Decidable (Marks marker line) :=
  decidable_of_iff (Text.blankOnly marker = false ∧
      Text.occursIn (Text.lowerChars (Text.trimChars marker.toList))
        (Text.lowerChars line.toList) = true)
    (and_congr_right fun _ => Text.occursIn_iff_infix)

/-- A marker stands on no line at `start` or later. -/
def Unmarked (doc : Document) (marker : String) (start : Nat) : Prop :=
  ∀ line ∈ doc.lines.drop start, ¬ Marks marker line

/-- A line is the first one at `start` or later on which a marker stands. -/
structure FirstMarked (doc : Document) (marker : String) (start i : Nat) : Prop where
  start_le : start ≤ i
  marks : ∃ line, doc.lines[i]? = some line ∧ Marks marker line
  not_marks : ∀ j line, start ≤ j → j < i → doc.lines[j]? = some line → ¬ Marks marker line

/-- A line is the first one of the first marker that stands on a line at `start` or later. -/
def IsAnchor (doc : Document) (markers : List String) (start i : Nat) : Prop :=
  ∃ before marker after, markers = before ++ marker :: after ∧
    (∀ other ∈ before, doc.Unmarked other start) ∧ doc.FirstMarked marker start i

/-! ### The search -/

/-- The first line on which a marker stands is found in lower case. -/
theorem findMarker?_eq (lines : List String) (marker : String) :
    findMarker? (lines.map fun line => Text.lowerChars line.toList) marker =
      lines.findIdx? fun line => decide (Marks marker line) := by
  rw [findMarker?]
  split
  case isTrue hempty =>
    have hblank : Text.blankOnly marker = true := by
      rw [Text.blankOnly_eq_true_iff, ← Text.lowerChars_eq_nil_iff]
      exact List.isEmpty_iff.mp hempty
    symm
    rw [List.findIdx?_eq_none_iff]
    intro line _
    simp [Marks, hblank]
  case isFalse hempty =>
    have hblank : Text.blankOnly marker = false := by
      rw [Bool.eq_false_iff, Ne, Text.blankOnly_eq_true_iff, ← Text.lowerChars_eq_nil_iff]
      exact fun hnil => hempty (List.isEmpty_iff.mpr hnil)
    rw [List.findIdx?_map]
    congr 1
    funext line
    rw [Function.comp_apply, Bool.eq_iff_iff, Text.occursIn_iff_infix, decide_eq_true_iff, Marks,
      and_iff_right hblank]

theorem findAnchorFrom?_eq (doc : Document) (markers : List String) (start : Nat) :
    doc.findAnchorFrom? markers start =
      (markers.findSome? fun marker => (doc.lines.drop start).findIdx? fun line =>
        decide (Marks marker line)).map (start + ·) := by
  rw [findAnchorFrom?]
  congr 2
  funext marker
  exact findMarker?_eq _ marker

/-- No line is found exactly where the marker stands on none. -/
theorem findIdx?_eq_none_iff_unmarked :
    ((doc.lines.drop start).findIdx? fun line => decide (Marks marker line)) = none ↔
      doc.Unmarked marker start := by
  simp only [List.findIdx?_eq_none_iff, decide_eq_false_iff_not, Unmarked]

/-- A line is found exactly where the marker stands for the first time. -/
theorem findIdx?_eq_some_iff_firstMarked {k : Nat} :
    ((doc.lines.drop start).findIdx? fun line => decide (Marks marker line)) = some k ↔
      doc.FirstMarked marker start (start + k) := by
  simp only [List.findIdx?_eq_some_iff_getElem, List.getElem_drop, decide_eq_true_iff,
    List.length_drop]
  constructor
  · rintro ⟨hk, hmarks, hfirst⟩
    refine ⟨Nat.le_add_right start k, ⟨_, List.getElem?_eq_getElem (by omega), hmarks⟩, ?_⟩
    intro j line hstart hj hline
    obtain ⟨hlt, rfl⟩ := List.getElem?_eq_some_iff.mp hline
    obtain ⟨d, rfl⟩ := Nat.exists_eq_add_of_le hstart
    exact hfirst d (by omega)
  · rintro ⟨-, ⟨line, hline, hmarks⟩, hfirst⟩
    obtain ⟨hlt, rfl⟩ := List.getElem?_eq_some_iff.mp hline
    refine ⟨by omega, hmarks, fun j hj => ?_⟩
    exact hfirst (start + j) _ (by omega) (by omega) (List.getElem?_eq_getElem (by omega))

theorem findAnchorFrom?_eq_some_iff :
    doc.findAnchorFrom? markers start = some i ↔ doc.IsAnchor markers start i := by
  simp only [findAnchorFrom?_eq, Option.map_eq_some_iff, List.findSome?_eq_some_iff,
    findIdx?_eq_none_iff_unmarked, findIdx?_eq_some_iff_firstMarked]
  constructor
  · rintro ⟨k, ⟨before, marker, after, hmarkers, hfirst, hbefore⟩, rfl⟩
    exact ⟨before, marker, after, hmarkers, hbefore, hfirst⟩
  · rintro ⟨before, marker, after, hmarkers, hbefore, hfirst⟩
    obtain ⟨k, rfl⟩ := Nat.exists_eq_add_of_le hfirst.start_le
    exact ⟨k, ⟨before, marker, after, hmarkers, hfirst, hbefore⟩, rfl⟩

theorem findAnchorFrom?_eq_none_iff :
    doc.findAnchorFrom? markers start = none ↔ ∀ marker ∈ markers, doc.Unmarked marker start := by
  simp only [findAnchorFrom?_eq, Option.map_eq_none_iff, List.findSome?_eq_none_iff,
    findIdx?_eq_none_iff_unmarked]

/-! ### Where the search starts -/

/-- A search that starts later is a search of the lines from there on. -/
theorem findAnchorFrom?_eq_map (doc : Document) (markers : List String) (start : Nat) :
    doc.findAnchorFrom? markers start =
      (findAnchor? ⟨doc.lines.drop start⟩ markers).map (start + ·) := by
  simp [findAnchor?, findAnchorFrom?_eq]

/-- Behind the last line there is nothing to find. -/
theorem findAnchorFrom?_of_length_le (h : doc.length ≤ start) :
    doc.findAnchorFrom? markers start = none := by
  have hdrop : doc.lines.drop start = [] := List.drop_eq_nil_iff.mpr h
  rw [findAnchorFrom?_eq_none_iff]
  intro marker _
  simp [Unmarked, hdrop]

/-! ### Further markers -/

/-- Only the markers that are not blank are looked for. -/
theorem findAnchorFrom?_filter (doc : Document) (markers : List String) (start : Nat) :
    doc.findAnchorFrom? (markers.filter (!Text.blankOnly ·)) start =
      doc.findAnchorFrom? markers start := by
  rw [findAnchorFrom?_eq, findAnchorFrom?_eq, ← List.head?_filterMap, ← List.head?_filterMap,
    List.filterMap_filter]
  congr 3
  funext marker
  split
  case isTrue => rfl
  case isFalse hblank =>
    symm
    rw [findIdx?_eq_none_iff_unmarked]
    intro line _ hmarks
    exact hblank (by rw [hmarks.1]; rfl)

/-- An anchor stays the anchor with further markers at the end. -/
theorem findAnchorFrom?_append {more : List String}
    (h : doc.findAnchorFrom? markers start = some i) :
    doc.findAnchorFrom? (markers ++ more) start = some i := by
  rw [findAnchorFrom?_eq_some_iff] at h ⊢
  obtain ⟨before, marker, after, rfl, hbefore, hfirst⟩ := h
  exact ⟨before, marker, after ++ more, by simp, hbefore, hfirst⟩

/-! ### The main statement -/

/-- **Anchors.** The search finds the first line, at `start` or later, of the first marker that
stands on such a line, and nothing if none does. A later start shifts the search of the lines from
there on; behind the last line nothing is found. Lists that only differ in blank markers find the
same, and further markers at the end do not change what is found. -/
theorem finds_anchor (doc : Document) (markers : List String) (start : Nat) :
    (∀ i, doc.findAnchorFrom? markers start = some i ↔ doc.IsAnchor markers start i) ∧
    (doc.findAnchorFrom? markers start = none ↔ ∀ marker ∈ markers, doc.Unmarked marker start) ∧
    doc.findAnchorFrom? markers start =
      (findAnchor? ⟨doc.lines.drop start⟩ markers).map (start + ·) ∧
    (doc.length ≤ start → doc.findAnchorFrom? markers start = none) ∧
    (∀ markers' : List String,
      markers'.filter (!Text.blankOnly ·) = markers.filter (!Text.blankOnly ·) →
        doc.findAnchorFrom? markers' start = doc.findAnchorFrom? markers start) ∧
    ∀ more i, doc.findAnchorFrom? markers start = some i →
      doc.findAnchorFrom? (markers ++ more) start = some i := by
  refine ⟨fun i => findAnchorFrom?_eq_some_iff, findAnchorFrom?_eq_none_iff,
    findAnchorFrom?_eq_map doc markers start, findAnchorFrom?_of_length_le, fun markers' h => ?_,
    fun more i => findAnchorFrom?_append⟩
  rw [← findAnchorFrom?_filter, h, findAnchorFrom?_filter]

/-- A document with a date under its caption. -/
private def datedLines : Document := ⟨["TALLERES GARCIA S.L.", "Fecha factura", "fecha de pago"]⟩

/-- A blank marker in front and a marker behind do not matter, nor do the lines before the start. -/
theorem finds_anchor_below : datedLines.findAnchorFrom? ["cliente", " FECHA "] 2 = some 2 ∧
    datedLines.findAnchorFrom? ["cliente", " ", " FECHA "] 2 = some 2 ∧
    datedLines.findAnchorFrom? ["cliente", " FECHA ", "garcia"] 2 = some 2 ∧
    datedLines.findAnchorFrom? ["cliente", " FECHA "] 3 = none := by
  obtain ⟨hiff, -, -, -, hblank, hmore⟩ := finds_anchor datedLines ["cliente", " FECHA "] 2
  have hfound : datedLines.findAnchorFrom? ["cliente", " FECHA "] 2 = some 2 := by decide +kernel
  have hbehind := (finds_anchor datedLines ["cliente", " FECHA "] 3).2.2.2.1
  refine ⟨hfound, ?_, hmore ["garcia"] 2 hfound, hbehind (by decide)⟩
  rw [hblank _ (by decide +kernel), hfound]

end InvoiceFields.Document
