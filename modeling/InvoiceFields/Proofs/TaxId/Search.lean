import InvoiceFields.Proofs.Answer
import InvoiceFields.Proofs.TaxId.CanonicalForm
import InvoiceFields.Proofs.TaxId.Control
import Mathlib.Data.List.Induction

/-!
# What a search for tax identifiers finds

The `candidates` of a line are the identifiers in canonical form that stand on it. A search reports
a candidate when it is not left out and, if control characters count, has the right one
(`accepts_eq_ok_true`). It breaks down at a candidate whose control character cannot be checked
(`BreaksAt`), and only there; how far a search reads decides which candidates it gets to.
-/

namespace InvoiceFields

namespace TaxId

/-! ### Candidates -/

/-- The identifiers on a line in canonical form, in reading order. -/
def candidates (line : String) : List String :=
  (Pattern.taxIdToken.findAll (Text.upperChars line.toList)).map (normalize ·.span.text)

theorem normalize_of_mem_candidates {line id : String} (h : id ∈ candidates line) :
    normalize id = id := by
  obtain ⟨m, -, rfl⟩ := List.mem_map.mp h
  exact normalize_normalize _

namespace Search

variable {search : Search} {id line : String} {lines : List String} {doc : Document}
variable {fault : Breakdown}

theorem accepts_eq_ok_true :
    search.accepts id = .ok true ↔
      search.excludes id = false ∧ (search.validated = true → validate id = .ok true) := by
  rw [accepts]
  cases search.excludes id <;> cases search.validated <;> simp

/-- A candidate at which a search breaks down: it is not left out, but its control character
cannot be checked. -/
def BreaksAt (search : Search) (id : String) : Prop :=
  search.excludes id = false ∧ search.validated = true ∧ Divided id

theorem accepts_eq_error :
    search.accepts id = .error fault ↔ fault = .dividedCharacter ∧ search.BreaksAt id := by
  rw [accepts, BreaksAt]
  cases search.excludes id <;> cases search.validated <;> simp [validate_eq_error]

/-! ### The identifiers of a line -/

/-- Candidates are kept one by one. -/
private theorem mem_keep {ms : List Pattern.Match} {found : List (Found String)}
    (h : search.keep ms = .ok found) :
    id ∈ found.map (·.value) ↔
      id ∈ ms.map (normalize ·.span.text) ∧ search.accepts id = .ok true := by
  induction ms generalizing found with
  | nil =>
    cases h
    simp
  | cons m ms ih =>
    simp only [keep, bind_eq_ok, pure_eq_ok] at h
    obtain ⟨accepted, haccepted, rest, hrest, rfl⟩ := h
    cases accepted with
    | true =>
      simp only [if_true, List.map_cons, List.mem_cons, ih hrest]
      constructor
      · rintro (rfl | ⟨hmem, hid⟩)
        · exact ⟨.inl rfl, haccepted⟩
        · exact ⟨.inr hmem, hid⟩
      · rintro ⟨rfl | hmem, hid⟩
        · exact .inl rfl
        · exact .inr ⟨hmem, hid⟩
    | false =>
      rw [if_neg Bool.false_ne_true, ih hrest, List.map_cons, List.mem_cons]
      constructor
      · rintro ⟨hmem, hid⟩
        exact ⟨.inr hmem, hid⟩
      · rintro ⟨rfl | hmem, hid⟩
        · rw [haccepted] at hid
          exact nomatch hid
        · exact ⟨hmem, hid⟩

/-- Keeping candidates breaks down at any of them. -/
private theorem keep_eq_error {ms : List Pattern.Match} :
    search.keep ms = .error fault ↔
      fault = .dividedCharacter ∧ ∃ id ∈ ms.map (normalize ·.span.text), search.BreaksAt id := by
  induction ms with
  | nil => simp [keep]
  | cons m ms ih =>
    simp only [keep, bind_eq_error, pure_ne_error, and_false, exists_false, or_false, ih,
      accepts_eq_error, List.map_cons, List.mem_cons, exists_eq_or_imp]
    constructor
    · rintro (⟨rfl, hbreaks⟩ | ⟨accepted, -, rfl, hbreaks⟩)
      · exact ⟨rfl, .inl hbreaks⟩
      · exact ⟨rfl, .inr hbreaks⟩
    · rintro ⟨rfl, hbreaks⟩
      -- the candidate itself may break down before the later one does
      cases haccepted : search.accepts (normalize m.span.text) with
      | error fault => exact .inl ⟨rfl, (accepts_eq_error.mp haccepted).2⟩
      | ok accepted =>
        rcases hbreaks with hbreaks | hbreaks
        · rw [accepts_eq_error.mpr ⟨rfl, hbreaks⟩] at haccepted
          exact nomatch haccepted
        · exact .inr ⟨accepted, rfl, rfl, hbreaks⟩

/-- A line has the candidates that a search accepts. -/
theorem mem_locate {found : List (Found String)} (h : search.locate line = .ok found) :
    id ∈ found.map (·.value) ↔ id ∈ candidates line ∧ search.accepts id = .ok true :=
  mem_keep h

theorem locate_eq_error :
    search.locate line = .error fault ↔
      fault = .dividedCharacter ∧ ∃ id ∈ candidates line, search.BreaksAt id :=
  keep_eq_error

/-- Nothing is found on a line when every candidate is turned down. -/
theorem locate_eq_ok_nil :
    search.locate line = .ok [] ↔ ∀ id ∈ candidates line, search.accepts id = .ok false := by
  constructor
  · intro h id hid
    cases haccepted : search.accepts id with
    | error fault =>
      have herror := locate_eq_error.mpr
        ⟨rfl, id, hid, (accepts_eq_error.mp haccepted).2⟩
      rw [h] at herror
      exact nomatch herror
    | ok accepted =>
      cases accepted with
      | false => rfl
      | true => exact nomatch (mem_locate h).mpr ⟨hid, haccepted⟩
  · intro h
    cases hlocate : search.locate line with
    | error fault =>
      obtain ⟨-, id, hid, hbreaks⟩ := locate_eq_error.mp hlocate
      have herror := accepts_eq_error.mpr ⟨rfl, hbreaks⟩
      rw [h id hid] at herror
      exact nomatch herror
    | ok found =>
      cases found with
      | nil => rfl
      | cons hit rest =>
        obtain ⟨hid, haccepted⟩ := (mem_locate hlocate).mp List.mem_cons_self
        rw [h _ hid] at haccepted
        exact nomatch haccepted

/-! ### The identifiers of several lines -/

/-- The first identifier of some lines is an accepted candidate of one of them. -/
theorem firstIn_eq_ok_some (h : search.firstIn lines = .ok (some id)) :
    ∃ line ∈ lines, id ∈ candidates line ∧ search.accepts id = .ok true := by
  induction lines with
  | nil => exact nomatch h
  | cons line rest ih =>
    obtain ⟨found, hlocate, h⟩ := bind_eq_ok.mp h
    cases found with
    | nil =>
      obtain ⟨line', hline', hid⟩ := ih h
      exact ⟨line', List.mem_cons_of_mem _ hline', hid⟩
    | cons hit rest' =>
      obtain rfl : hit.value = id := Option.some.inj (pure_eq_ok.mp h)
      exact ⟨line, List.mem_cons_self, (mem_locate hlocate).mp List.mem_cons_self⟩

/-- Lines below the one that has the first identifier do not matter. -/
theorem firstIn_append (h : search.firstIn lines = .ok (some id)) (more : List String) :
    search.firstIn (lines ++ more) = .ok (some id) := by
  induction lines with
  | nil => exact nomatch h
  | cons line rest ih =>
    obtain ⟨found, hlocate, h⟩ := bind_eq_ok.mp h
    refine bind_eq_ok.mpr ⟨found, hlocate, ?_⟩
    cases found with
    | nil => exact ih h
    | cons hit rest' => exact h

/-- All identifiers of some lines are their accepted candidates. -/
theorem mem_allIn {ids : List String} (h : search.allIn lines = .ok ids) :
    id ∈ ids ↔ ∃ line ∈ lines, id ∈ candidates line ∧ search.accepts id = .ok true := by
  induction lines generalizing ids with
  | nil =>
    cases h
    simp
  | cons line rest ih =>
    simp only [allIn, bind_eq_ok, pure_eq_ok] at h
    obtain ⟨found, hlocate, more, hmore, rfl⟩ := h
    simp only [List.mem_append, mem_locate hlocate, ih hmore, List.mem_cons, exists_eq_or_imp]

/-- A search for the first identifier gets to a line when it turns down everything above. -/
def Reaches (search : Search) (lines : List String) (line : String) : Prop :=
  ∃ above below, lines = above ++ line :: below ∧
    ∀ line' ∈ above, ∀ id ∈ candidates line', search.accepts id = .ok false

theorem Reaches.mem (h : search.Reaches lines line) : line ∈ lines := by
  obtain ⟨above, below, rfl, -⟩ := h
  exact List.mem_append_right _ List.mem_cons_self

private theorem reaches_cons {line' : String} :
    search.Reaches (line :: lines) line' ↔
      line' = line ∨
        (∀ id ∈ candidates line, search.accepts id = .ok false) ∧ search.Reaches lines line' := by
  constructor
  · rintro ⟨above, below, hsplit, habove⟩
    cases above with
    | nil => exact .inl (List.cons_eq_cons.mp hsplit).1.symm
    | cons first above =>
      obtain ⟨rfl, hrest⟩ := List.cons_eq_cons.mp hsplit
      exact .inr ⟨habove _ List.mem_cons_self,
        above, below, hrest, fun l hl => habove l (List.mem_cons_of_mem _ hl)⟩
  · rintro (rfl | ⟨hline, above, below, rfl, habove⟩)
    · exact ⟨[], lines, rfl, fun _ h => nomatch h⟩
    · refine ⟨line :: above, below, rfl, fun l hl => ?_⟩
      rcases List.mem_cons.mp hl with rfl | hl
      · exact hline
      · exact habove l hl

/-- A search for the first identifier breaks down at a line that it gets to. -/
theorem firstIn_eq_error :
    search.firstIn lines = .error fault ↔ fault = .dividedCharacter ∧
      ∃ line, search.Reaches lines line ∧ ∃ id ∈ candidates line, search.BreaksAt id := by
  -- the lines above the one that is reached are those on which nothing was found
  induction lines with
  | nil => simp [firstIn, Reaches]
  | cons line rest ih =>
    rw [firstIn, bind_eq_error]
    constructor
    · rintro (hlocate | ⟨found, hlocate, h⟩)
      · obtain ⟨rfl, hbreaks⟩ := locate_eq_error.mp hlocate
        exact ⟨rfl, line, reaches_cons.mpr (.inl rfl), hbreaks⟩
      · cases found with
        | cons hit rest' => exact absurd h pure_ne_error
        | nil =>
          obtain ⟨rfl, line', hreaches, hbreaks⟩ := ih.mp h
          have hnone := locate_eq_ok_nil.mp hlocate
          exact ⟨rfl, line', reaches_cons.mpr (.inr ⟨hnone, hreaches⟩), hbreaks⟩
    · rintro ⟨rfl, line', hreaches, hbreaks⟩
      rcases reaches_cons.mp hreaches with rfl | ⟨hnone, hreaches⟩
      · exact .inl (locate_eq_error.mpr ⟨rfl, hbreaks⟩)
      · exact .inr ⟨[], locate_eq_ok_nil.mpr hnone, ih.mpr ⟨rfl, line', hreaches, hbreaks⟩⟩

/-- A search for all identifiers breaks down at any line. -/
theorem allIn_eq_error :
    search.allIn lines = .error fault ↔ fault = .dividedCharacter ∧
      ∃ line ∈ lines, ∃ id ∈ candidates line, search.BreaksAt id := by
  induction lines with
  | nil => simp [allIn]
  | cons line rest ih =>
    simp only [allIn, bind_eq_error, pure_ne_error, and_false, exists_false, or_false, ih,
      locate_eq_error, List.mem_cons, exists_eq_or_imp]
    constructor
    · rintro (⟨rfl, hbreaks⟩ | ⟨found, -, rfl, hbreaks⟩)
      · exact ⟨rfl, .inl hbreaks⟩
      · exact ⟨rfl, .inr hbreaks⟩
    · rintro ⟨rfl, hbreaks⟩
      cases hlocate : search.locate line with
      | error fault => exact .inl ⟨rfl, (locate_eq_error.mp hlocate).2⟩
      | ok found =>
        rcases hbreaks with hbreaks | hbreaks
        · rw [locate_eq_error.mpr ⟨rfl, hbreaks⟩] at hlocate
          exact nomatch hlocate
        · exact .inr ⟨found, rfl, rfl, hbreaks⟩

/-! ### The identifiers of a document -/

/-- A further identifier is added only if it is new. -/
theorem firstOccurrences_concat (ids : List String) (id : String) :
    firstOccurrences (ids ++ [id]) =
      if (firstOccurrences ids).contains id then firstOccurrences ids
      else firstOccurrences ids ++ [id] := by
  rw [firstOccurrences, List.foldl_append]
  rfl

theorem mem_firstOccurrences {ids : List String} : id ∈ firstOccurrences ids ↔ id ∈ ids := by
  induction ids using List.reverseRecOn with
  | nil => rfl
  | append_singleton ids last ih =>
    rw [firstOccurrences_concat, List.mem_append, List.mem_singleton]
    split
    case isTrue h =>
      -- what is not new is a member already
      have hlast : last ∈ firstOccurrences ids := List.contains_iff_mem.mp h
      rw [ih, or_iff_left_of_imp]
      rintro rfl
      exact ih.mp hlast
    case isFalse => rw [List.mem_append, List.mem_singleton, ih]

/-- The identifiers of a document are the accepted candidates of its lines. -/
theorem mem_all {ids : List String} (h : search.all doc = .ok ids) :
    id ∈ ids ↔ ∃ line ∈ doc.lines, id ∈ candidates line ∧ search.accepts id = .ok true := by
  obtain ⟨occurring, hall, rfl⟩ := map_eq_ok.mp h
  rw [mem_firstOccurrences, mem_allIn hall]

theorem all_eq_error :
    search.all doc = .error fault ↔ fault = .dividedCharacter ∧
      ∃ line ∈ doc.lines, ∃ id ∈ candidates line, search.BreaksAt id := by
  rw [all, map_eq_error, allIn_eq_error]

end Search

end TaxId

/-- The search for identifiers other than the receiver's breaks down at a candidate of someone else
that cannot be checked. -/
theorem Settings.search_breaksAt {settings : Settings} {id : String} :
    settings.search.BreaksAt id ↔
      settings.isReceiver id = false ∧ settings.validated = true ∧ TaxId.Divided id := by
  rw [TaxId.Search.BreaksAt, search_excludes]
  rfl

end InvoiceFields
