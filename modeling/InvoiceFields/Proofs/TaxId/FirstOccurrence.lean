import InvoiceFields.Proofs.TaxId.Token

/-!
# The first identifier of a line

A search by shape alone reports every match. The first one is the token that stands farthest in
front on the line, and behind a token that leaves too little of the line no other one follows
(`Search.plain_locate_cases`).
-/

namespace InvoiceFields.TaxId

variable {cs front country body back : List Char}

/-- A match takes something. -/
theorem length_lt_of_mem_run {a b : Pattern.Place} (h : b ∈ Pattern.taxIdToken.run a) :
    b.rest.length < a.rest.length := by
  obtain ⟨country, body, rest, hrest, -, hbody, -, -, rfl⟩ := mem_run_taxIdToken.mp h
  obtain ⟨c, cs, rfl, -⟩ := hbody.exists_head
  rw [hrest, List.length_append, List.length_append, List.length_cons]
  exact Nat.lt_of_lt_of_le (Nat.lt_add_of_pos_left (Nat.succ_pos _)) (Nat.le_add_left _ _)

/-- A token stands exactly where the pattern has a match. -/
theorem run_past_ne_nil_iff {rest : List Char} (htext : cs = front ++ rest) :
    Pattern.taxIdToken.run ((Pattern.Place.ofChars cs).past front rest) ≠ [] ↔
      ∃ country body back, Occurrence cs front country body back := by
  constructor
  · intro hne
    obtain ⟨b, hb⟩ := List.exists_mem_of_ne_nil _ hne
    obtain ⟨country, body, back, hoccurs, -⟩ := (mem_run_past htext).mp hb
    exact ⟨country, body, back, hoccurs⟩
  · rintro ⟨country, body, back, hoccurs⟩
    have hrest : rest = country ++ (body ++ back) :=
      List.append_cancel_left (htext.symm.trans hoccurs.text_eq)
    exact List.ne_nil_of_mem ((mem_run_past htext).mpr ⟨country, body, back, hoccurs, hrest, rfl⟩)

/-- A token has nine characters that are no separators. -/
theorem Occurrence.nine_le (h : Occurrence cs front country body back) :
    9 ≤ (joined (country ++ (body ++ back))).length := by
  rw [joined_append, joined_append, List.length_append, List.length_append,
    h.token.shaped_joined.length_eq]
  omega

/-- Where fewer than nine characters that are no separators are left, nothing is found any more. -/
theorem scan_eq_nil_of_joined (htext : cs = front ++ back) (hback : (joined back).length < 9) :
    Pattern.taxIdToken.scan ((Pattern.Place.ofChars cs).past front back) = [] := by
  rcases Pattern.scan_cases (fun _ _ => length_lt_of_mem_run)
    (rfl : ((Pattern.Place.ofChars cs).past front back).groups = []) with
    ⟨hscan, -⟩ | ⟨ds, rest, b, hrest, hb, -⟩
  · exact hscan
  · have hback' : back = ds ++ rest := hrest
    have hsplit : cs = front ++ ds ++ rest := by rw [htext, hback', List.append_assoc]
    rw [Pattern.Place.past_past] at hb
    obtain ⟨country, body, back', hoccurs, hrest', -⟩ := (mem_run_past hsplit).mp hb.mem_run
    have hnine := hoccurs.nine_le
    rw [← hrest'] at hnine
    rw [hback', joined_append, List.length_append] at hback
    omega

/-- The pattern finds nothing where no token stands, and otherwise first the token that stands
farthest in front. It finds nothing else if what stands behind has fewer than nine characters that
are no separators. -/
theorem findAll_cases (cs : List Char) :
    (Pattern.taxIdToken.findAll cs = [] ∧ ∀ front country body back,
      ¬ Occurrence cs front country body back) ∨
    ∃ front country body back m ms, Occurrence cs front country body back ∧
      (∀ front' country' body' back', Occurrence cs front' country' body' back' →
        front.length ≤ front'.length) ∧
      Pattern.taxIdToken.findAll cs = m :: ms ∧
      m.span.text = String.ofList (country ++ body) ∧ ((joined back).length < 9 → ms = []) := by
  rw [Pattern.findAll]
  rcases Pattern.scan_cases (fun _ _ => length_lt_of_mem_run)
    (rfl : (Pattern.Place.ofChars cs).groups = []) with
    ⟨hscan, hnone⟩ | ⟨front, rest, b, hrest, hb, hscan, hfirst⟩
  · refine .inl ⟨hscan, fun front country body back hoccurs => ?_⟩
    exact (run_past_ne_nil_iff hoccurs.text_eq).mpr ⟨country, body, back, hoccurs⟩
      (hnone front _ hoccurs.text_eq)
  · have htext : cs = front ++ rest := hrest
    obtain ⟨country, body, back, hoccurs, rfl, rfl⟩ := (mem_run_past htext).mp hb.mem_run
    refine .inr ⟨front, country, body, back, _, _, hoccurs, ?_, hscan, ?_, fun hback => ?_⟩
    · intro front' country' body' back' hoccurs'
      exact hfirst front' _ hoccurs'.text_eq
        ((run_past_ne_nil_iff hoccurs'.text_eq).mpr ⟨country', body', back', hoccurs'⟩)
    · have htoken : ((Pattern.Place.ofChars cs).past front (country ++ (body ++ back))).rest =
          country ++ body ++ back := (List.append_assoc ..).symm
      exact Pattern.Place.text_spanTo htoken
    · have hsplit : cs = front ++ (country ++ body) ++ back := by
        rw [htext, List.append_assoc, List.append_assoc]
      exact scan_eq_nil_of_joined hsplit hback

/-- A search by shape alone reports every match. -/
theorem Search.plain_locate_eq (line : String) : Search.plain.locate line =
    .ok ((Pattern.taxIdToken.findAll (Text.upperChars line.toList)).map fun m =>
      ⟨normalize m.span.text, m.span⟩) := by
  rw [Search.locate]
  generalize Pattern.taxIdToken.findAll (Text.upperChars line.toList) = ms
  induction ms with
  | nil => rfl
  | cons m ms ih =>
    rw [Search.keep, ih]
    rfl

/-- **The first identifier.** A search by shape alone finds nothing where no token stands, and
otherwise the token that stands farthest in front. It finds nothing else if what stands behind has
fewer than nine characters that are no separators. -/
theorem Search.plain_locate_cases (line : String) :
    (Search.plain.locate line = .ok [] ∧ ∀ front country body back,
      ¬ Occurrence (Text.upperChars line.toList) front country body back) ∨
    ∃ front country body back found more,
      Occurrence (Text.upperChars line.toList) front country body back ∧
      (∀ front' country' body' back',
        Occurrence (Text.upperChars line.toList) front' country' body' back' →
          front.length ≤ front'.length) ∧
      Search.plain.locate line = .ok (found :: more) ∧
      found.value = normalize (String.ofList (country ++ body)) ∧
      ((joined back).length < 9 → more = []) := by
  rw [Search.plain_locate_eq]
  rcases findAll_cases (Text.upperChars line.toList) with
    ⟨hfind, hnone⟩ | ⟨front, country, body, back, m, ms, hoccurs, hfirst, hfind, htext, hmore⟩
  · exact .inl ⟨by rw [hfind, List.map_nil], hnone⟩
  · rw [hfind, List.map_cons]
    refine .inr ⟨front, country, body, back, _, _, hoccurs, hfirst, rfl, ?_, fun hback => ?_⟩
    · rw [htext]
    · rw [hmore hback, List.map_nil]

end InvoiceFields.TaxId
