import InvoiceFields.Proofs.TaxId.Token

/-!
# What is reported are tax identifiers

On lines whose digits are ASCII every candidate has the shape of an identifier
(`isTaxId_of_mem_candidates`), so a search always answers there, and what it reports are identifiers
in canonical form. The identifiers of a document are those of its lines, each at the place where it
occurs first (`pairwise_firstOccurrences`), and the first of them is what a search for one
identifier finds.
-/

namespace InvoiceFields.TaxId

variable {line id : String} {lines : List String} {search : Search}
variable {reported : List (List (Found String))}

/-! ### Candidates -/

/-- On a line with ASCII digits every candidate is an identifier. -/
theorem isTaxId_of_mem_candidates (h : HasAsciiDigits line.toList) (hid : id ∈ candidates line) :
    isTaxId id = true := by
  have hcanonical := normalize_of_mem_candidates hid
  obtain ⟨m, hm, rfl⟩ := List.mem_map.mp hid
  obtain ⟨front, country, body, back, hoccurs, htext⟩ := exists_occurrence_of_mem_findAll hm
  have hshaped := hoccurs.token.shaped_joined
  have hdigits : HasAsciiDigits (joined body) := by
    intro c hc hdigit
    have hmem : c ∈ Text.upperChars line.toList := by
      rw [hoccurs.text_eq]
      simp [(List.mem_filter.mp hc).1]
    exact h c (Text.mem_of_mem_upperChars hmem hdigit) hdigit
  have hvalue : normalizeChars m.span.text.toList = joined body := by
    rw [htext, String.toList_ofList]
    exact hoccurs.normalizeChars_eq_joined (.inr (hshaped.byteLength_eq hdigits))
  rw [isTaxId, ← toList_normalize, hcanonical, toList_normalize, hvalue]
  exact occursIn_taxIdCanonical.mpr hshaped

/-- On a line with ASCII digits a search has an answer. -/
theorem Search.exists_locate (search : Search) (h : HasAsciiDigits line.toList) :
    ∃ found, search.locate line = .ok found := by
  cases hlocate : search.locate line with
  | ok found => exact ⟨found, rfl⟩
  | error fault =>
    obtain ⟨-, id, hid, -, -, hdivided⟩ := Search.locate_eq_error.mp hlocate
    exact absurd hdivided (not_divided_of_mem_candidates h hid)

/-! ### Lines -/

/-- What a search reports on each of some lines. -/
def Search.Reports (search : Search) (lines : List String) (reported : List (List (Found String))) :
    Prop :=
  List.Forall₂ (fun line found => search.locate line = .ok found) lines reported

/-- All identifiers of some lines are what is reported on each of them. -/
theorem Search.allIn_eq_ok (h : search.Reports lines reported) :
    search.allIn lines = .ok (reported.flatten.map (·.value)) := by
  induction h with
  | nil => rfl
  | cons hline _ ih =>
    rw [Search.allIn, hline, ih, List.flatten_cons, List.map_append]
    rfl

/-- The first identifier of some lines is the first that is reported on one of them. -/
theorem Search.firstIn_eq_ok (h : search.Reports lines reported) :
    search.firstIn lines = .ok (reported.flatten.map (·.value)).head? := by
  induction h with
  | nil => rfl
  | @cons line found _ _ hline _ ih =>
    rw [Search.firstIn, hline]
    cases found with
    | nil => exact ih
    | cons hit found => rfl

/-- Lines with ASCII digits have an answer each. -/
theorem Search.exists_reports (search : Search)
    (h : ∀ line ∈ lines, HasAsciiDigits line.toList) :
    ∃ reported, search.Reports lines reported := by
  induction lines with
  | nil => exact ⟨[], .nil⟩
  | cons line lines ih =>
    obtain ⟨hline, hlines⟩ := List.forall_mem_cons.mp h
    obtain ⟨found, hfound⟩ := search.exists_locate hline
    obtain ⟨reported, hreported⟩ := ih hlines
    exact ⟨found :: reported, .cons hfound hreported⟩

/-! ### Without repetitions -/

/-- Of two identifiers that are kept the one in front occurred first. -/
theorem pairwise_firstOccurrences (ids : List String) :
    (firstOccurrences ids).Pairwise fun a b => ids.idxOf a < ids.idxOf b := by
  induction ids using List.reverseRecOn with
  | nil => exact .nil
  | append_singleton ids id ih =>
    have hkept : (firstOccurrences ids).Pairwise fun a b =>
        (ids ++ [id]).idxOf a < (ids ++ [id]).idxOf b := by
      refine ih.imp_of_mem fun ha hb hlt => ?_
      rwa [List.idxOf_append_of_mem (Search.mem_firstOccurrences.mp ha),
        List.idxOf_append_of_mem (Search.mem_firstOccurrences.mp hb)]
    rw [Search.firstOccurrences_concat]
    split
    case isTrue => exact hkept
    case isFalse h =>
      have hnew : id ∉ ids := fun hid =>
        h (List.contains_iff_mem.mpr (Search.mem_firstOccurrences.mpr hid))
      refine List.pairwise_append.mpr ⟨hkept, List.pairwise_singleton _ _, fun a ha b hb => ?_⟩
      obtain rfl := List.mem_singleton.mp hb
      have hmem := Search.mem_firstOccurrences.mp ha
      rw [List.idxOf_append_of_mem hmem, List.idxOf_append_of_notMem hnew]
      exact Nat.lt_of_lt_of_le (List.idxOf_lt_length_of_mem hmem) (Nat.le_add_right _ _)

theorem nodup_firstOccurrences (ids : List String) : (firstOccurrences ids).Nodup :=
  (pairwise_firstOccurrences ids).imp fun hlt heq => by
    rw [heq] at hlt
    exact Nat.lt_irrefl _ hlt

theorem head?_firstOccurrences (ids : List String) :
    (firstOccurrences ids).head? = ids.head? := by
  induction ids using List.reverseRecOn with
  | nil => rfl
  | append_singleton ids id ih =>
    rw [Search.firstOccurrences_concat, List.head?_append, ← ih]
    split
    case isTrue h =>
      obtain ⟨first, rest, hkept⟩ :=
        List.exists_cons_of_ne_nil (List.ne_nil_of_mem (List.contains_iff_mem.mp h))
      rw [hkept]
      rfl
    case isFalse => rw [List.head?_append]

/-! ### What is reported -/

/-- **Reported identifiers.** On a line whose digits are ASCII a search has an answer. All that it
reports are identifiers in canonical form, none denotes the party that is left out, and if control
characters count each has the right one. On a document of such lines the search for all identifiers
has no repetitions and finds exactly what is reported on some line, in the order of the first
occurrences; the search for one identifier finds the first of them. -/
theorem Search.reports_identifiers (validated : Bool) (excluded : Option String) :
    (∀ line : String, HasAsciiDigits line.toList →
      ∃ found, (Search.excluding validated excluded).locate line = .ok found ∧
        ∀ f ∈ found, isTaxId f.value = true ∧ normalize f.value = f.value ∧
          (∀ e, excluded = some e → same e f.value = false) ∧
          (validated = true → validate f.value = .ok true)) ∧
    ∀ doc : Document, (∀ line ∈ doc.lines, HasAsciiDigits line.toList) →
      ∃ reported ids,
        (Search.excluding validated excluded).Reports doc.lines reported ∧
        (Search.excluding validated excluded).all doc = .ok ids ∧ ids.Nodup ∧
        (∀ id, id ∈ ids ↔ ∃ found ∈ reported, ∃ f ∈ found, f.value = id) ∧
        ids.Pairwise (fun a b => (reported.flatten.map (·.value)).idxOf a <
          (reported.flatten.map (·.value)).idxOf b) ∧
        (Search.excluding validated excluded).first? doc = .ok ids.head? := by
  refine ⟨fun line h => ?_, fun doc h => ?_⟩
  · obtain ⟨found, hfound⟩ := (Search.excluding validated excluded).exists_locate h
    refine ⟨found, hfound, fun f hf => ?_⟩
    obtain ⟨hcandidate, haccepts⟩ := (Search.mem_locate hfound).mp (List.mem_map_of_mem hf)
    obtain ⟨hother, hvalid⟩ := Search.accepts_eq_ok_true.mp haccepts
    rw [excludes_excluding] at hother
    refine ⟨isTaxId_of_mem_candidates h hcandidate, normalize_of_mem_candidates hcandidate, ?_,
      hvalid⟩
    rintro e rfl
    exact hother
  · obtain ⟨reported, hreported⟩ := (Search.excluding validated excluded).exists_reports h
    refine ⟨reported, firstOccurrences (reported.flatten.map (·.value)), hreported, ?_,
      nodup_firstOccurrences _, fun id => ?_, pairwise_firstOccurrences _, ?_⟩
    · rw [Search.all, Search.allIn_eq_ok hreported]
      rfl
    · rw [Search.mem_firstOccurrences, List.mem_map]
      simp only [List.mem_flatten]
      constructor
      · rintro ⟨f, ⟨found, hfound, hf⟩, hid⟩
        exact ⟨found, hfound, f, hf, hid⟩
      · rintro ⟨found, hfound, f, hf, hid⟩
        exact ⟨f, ⟨found, hfound, hf⟩, hid⟩
    · rw [Search.first?, Search.firstIn_eq_ok hreported, head?_firstOccurrences]

theorem Search.reports_identifiers_two_lines :
    (∃ found, (Search.excluding true (some "ES 12345678z")).locate "12345678Z, B-12345674" =
      .ok found ∧ ∀ f ∈ found, same "ES 12345678z" f.value = false ∧ validate f.value = .ok true) ∧
    ∃ ids, (Search.excluding true (some "ES 12345678z")).all
        ⟨["12345678Z, B-12345674", "x1234567l b12345674"]⟩ = .ok ids ∧
      ids = ["B12345674", "X1234567L"] ∧ ids.Nodup ∧
      (Search.excluding true (some "ES 12345678z")).first?
        ⟨["12345678Z, B-12345674", "x1234567l b12345674"]⟩ = .ok ids.head? := by
  have hfirst : HasAsciiDigits "12345678Z, B-12345674".toList := by decide
  have hsecond : HasAsciiDigits "x1234567l b12345674".toList := by decide
  obtain ⟨hline, hdoc⟩ := Search.reports_identifiers true (some "ES 12345678z")
  obtain ⟨found, hfound, hall⟩ := hline _ hfirst
  obtain ⟨reported, ids, -, hids, hnodup, -, -, hhead⟩ :=
    hdoc ⟨["12345678Z, B-12345674", "x1234567l b12345674"]⟩
      (List.forall_mem_cons.mpr ⟨hfirst, List.forall_mem_singleton.mpr hsecond⟩)
  have hvalue : (Search.excluding true (some "ES 12345678z")).all
      ⟨["12345678Z, B-12345674", "x1234567l b12345674"]⟩ = .ok ["B12345674", "X1234567L"] := by
    decide +kernel
  refine ⟨⟨found, hfound, fun f hf => ?_⟩, ids, hids, ?_, hnodup, hhead⟩
  · obtain ⟨-, -, hother, hvalid⟩ := hall f hf
    exact ⟨hother _ rfl, hvalid rfl⟩
  · exact Except.ok.inj (hids.symm.trans hvalue)

end InvoiceFields.TaxId
