import InvoiceFields.Proofs.Pattern.Spans

/-!
# Matches in shorter texts

A pattern is `isInward` when it looks at nothing but the characters that it takes: it has no word
boundary and no end of the text in it. Cutting off what stands behind a text does not change what
such a pattern makes of it: the ends that are left are the ends of before, in the same order
(`forall₂_run`). So the preferred match of a text is the preferred one of the shorter text that it
takes, and a search in this text finds the whole of it and nothing else (`exists_findAll_text`).
-/

namespace InvoiceFields.Pattern

variable {p : Pattern} {a a' b b' : Place} {tail : List Char} {l l' : List Place} {hit : Match}

/-- Whether a pattern looks at nothing but the characters that it takes. -/
def isInward : Pattern → Bool
  | seq p q | alt p q => p.isInward && q.isInward
  | many p | group _ p => p.isInward
  | boundary | start | finish => false
  | empty | one _ => true

/-- Two places that are followed by the same, but for what is cut off behind the second one. -/
def Place.Extends (tail : List Char) (a a' : Place) : Prop := a.rest = a'.rest ++ tail

/-- The places that do not lie behind the cut. -/
def reaching (tail : List Char) (l : List Place) : List Place :=
  l.filter fun b => decide (tail.length ≤ b.rest.length)

theorem reaching_append (l l' : List Place) :
    reaching tail (l ++ l') = reaching tail l ++ reaching tail l' := List.filter_append ..

theorem Place.Extends.length_eq (h : a.Extends tail a') :
    a.rest.length = a'.rest.length + tail.length := by
  rw [show a.rest = a'.rest ++ tail from h, List.length_append]

theorem reaching_cons_of_le (h : tail.length ≤ a.rest.length) :
    reaching tail (a :: l) = a :: reaching tail l :=
  List.filter_cons_of_pos (p := fun b : Place => decide (tail.length ≤ b.rest.length))
    (decide_eq_true h)

theorem reaching_cons_of_lt (h : a.rest.length < tail.length) :
    reaching tail (a :: l) = reaching tail l :=
  List.filter_cons_of_neg (p := fun b : Place => decide (tail.length ≤ b.rest.length))
    (by rwa [decide_eq_true_eq, Nat.not_le])

theorem reaching_singleton (h : a.Extends tail a') : reaching tail [a] = [a] :=
  reaching_cons_of_le (h.length_eq ▸ Nat.le_add_left ..)

/-! ### Ends of matches -/

/-- Behind the cut there is no way back. -/
theorem reaching_run_eq_nil (h : a.rest.length < tail.length) : reaching tail (p.run a) = [] := by
  refine List.filter_eq_nil_iff.mpr fun b hb => ?_
  obtain ⟨cs, hrest, -⟩ := follows_of_mem_run hb
  rw [hrest, List.length_append] at h
  rw [decide_eq_true_eq]
  omega

/-- Where the steps of two lists of places agree in front of the cut, so do all steps. -/
private theorem forall₂_flatMap {f f' : Place → List Place}
    (hsteps : List.Forall₂ (Place.Extends tail) (reaching tail l) l')
    (hbehind : ∀ b ∈ l, b.rest.length < tail.length → reaching tail (f b) = [])
    (hf : ∀ b ∈ l, ∀ b', b.Extends tail b' →
      List.Forall₂ (Place.Extends tail) (reaching tail (f b)) (f' b')) :
    List.Forall₂ (Place.Extends tail) (reaching tail (l.flatMap f)) (l'.flatMap f') := by
  induction l generalizing l' with
  | nil =>
    cases hsteps
    exact .nil
  | cons b l ih =>
    obtain ⟨hb, hl⟩ := List.forall_mem_cons.mp hf
    obtain ⟨hb_behind, hl_behind⟩ := List.forall_mem_cons.mp hbehind
    rw [List.flatMap_cons, reaching_append]
    by_cases hreach : tail.length ≤ b.rest.length
    · rw [reaching_cons_of_le hreach] at hsteps
      obtain ⟨b', l', hb', hl', rfl⟩ := List.forall₂_cons_left_iff.mp hsteps
      exact List.rel_append (hb b' hb') (ih hl' hl_behind hl)
    · rw [reaching_cons_of_lt (Nat.lt_of_not_le hreach)] at hsteps
      rw [hb_behind (Nat.lt_of_not_le hreach), List.nil_append]
      exact ih hsteps hl_behind hl

/-- **Cutting.** The ends of a match in a text are those in a longer text that do not lie behind
the cut, in the same order. -/
theorem forall₂_run (hp : p.isInward = true) (h : a.Extends tail a') :
    List.Forall₂ (Place.Extends tail) (reaching tail (p.run a)) (p.run a') := by
  induction p generalizing a a' with
  | empty =>
    rw [run, run, reaching_singleton h]
    exact .cons h .nil
  | one class_ =>
    have hrest : a.rest = a'.rest ++ tail := h
    rw [run, run]
    cases hrest' : a'.rest with
    | nil =>
      -- whatever is taken here lies behind the cut
      refine List.forall₂_nil_right_iff.mpr (List.filter_eq_nil_iff.mpr fun b hb => ?_)
      rw [hrest', List.nil_append] at hrest
      rw [hrest, decide_eq_true_eq] at *
      split at hb
      case h_1 => exact absurd hb List.not_mem_nil
      case h_2 c rest =>
        split at hb
        case isTrue =>
          rw [List.mem_singleton.mp hb]
          exact Nat.not_succ_le_self _
        case isFalse => exact absurd hb List.not_mem_nil
    | cons c rest =>
      rw [hrest', List.cons_append] at hrest
      rw [hrest]
      have hnext : (a.advance c (rest ++ tail)).Extends tail (a'.advance c rest) := rfl
      dsimp only
      split
      case isTrue =>
        rw [reaching_singleton hnext]
        exact .cons hnext .nil
      case isFalse => exact .nil
  | seq p q ihp ihq =>
    obtain ⟨hp, hq⟩ := Bool.and_eq_true_iff.mp hp
    rw [run, run]
    exact forall₂_flatMap (ihp hp h) (fun _ _ => reaching_run_eq_nil) fun _ _ _ => ihq hq
  | alt p q ihp ihq =>
    obtain ⟨hp, hq⟩ := Bool.and_eq_true_iff.mp hp
    rw [run, run, reaching_append]
    exact List.rel_append (ihp hp h) (ihq hq h)
  | many p ih =>
    -- a round that takes something leaves fewer characters for the rounds behind it
    induction hlength : a'.rest.length using Nat.strong_induction_on generalizing a a' with
    | _ n rounds =>
      subst hlength
      rw [run_many, run_many, reaching_append, reaching_singleton h]
      refine List.rel_append (forall₂_flatMap (ih hp h) (fun b _ hb => ?_) fun b _ b' hb => ?_)
        (.cons h .nil)
      · split
        case isTrue => exact reaching_run_eq_nil hb
        case isFalse => rfl
      · have hlt : b.rest.length < a.rest.length ↔ b'.rest.length < a'.rest.length := by
          rw [hb.length_eq, h.length_eq, Nat.add_lt_add_iff_right]
        by_cases hround : b'.rest.length < a'.rest.length
        · rw [if_pos hround, if_pos (hlt.mpr hround)]
          exact rounds _ hround hb rfl
        · rw [if_neg hround, if_neg (mt hlt.mp hround)]
          exact .nil
  | group n p ih =>
    rw [run, run, reaching, List.filter_map, List.forall₂_map_left_iff, List.forall₂_map_right_iff]
    exact ih hp h
  | boundary => exact absurd hp Bool.false_ne_true
  | start => exact absurd hp Bool.false_ne_true
  | finish => exact absurd hp Bool.false_ne_true

/-- The preferred match takes all of a text that ends behind it. -/
theorem Prefers.exists_cut (hp : p.isInward = true) (h : p.Prefers a b)
    (hrest : a.Extends b.rest a') : ∃ b', p.Prefers a' b' ∧ b'.rest = [] := by
  obtain ⟨others, hrun⟩ := List.head?_eq_some_iff.mp h
  have hends := forall₂_run hp hrest
  rw [hrun, reaching_cons_of_le (Nat.le_refl _)] at hends
  obtain ⟨b', others', hb, -, hrun'⟩ := List.forall₂_cons_left_iff.mp hends
  exact ⟨b', by rw [Prefers, hrun']; rfl, List.append_left_eq_self.mp hb.symm⟩

/-! ### Searching -/

/-- A text that a match takes whole is the only thing that a search finds in it. -/
theorem findAll_whole {text : String} (h : p.Prefers (.ofChars text.toList) b) (hend : b.rest = [])
    (hne : text.toList ≠ []) : p.findAll text.toList = [⟨.whole text, b.groups⟩] := by
  have hlt : b.rest.length < (Place.ofChars text.toList).rest.length := by
    rw [hend]
    exact List.length_pos_iff.mpr hne
  have htext : ((Place.ofChars text.toList).spanTo b).text = text := by
    have hrest : (Place.ofChars text.toList).rest = text.toList ++ b.rest := by
      rw [hend, List.append_nil]
      rfl
    rw [Place.text_spanTo hrest, String.ofList_toList]
  have hfind : p.findAll text.toList = [⟨(Place.ofChars text.toList).spanTo b, b.groups⟩] := by
    rw [findAll, scan_of_prefers rfl h hlt, scan_eq_nil hend]
  have hslice : ((Place.ofChars text.toList).spanTo b).IsSliceOf text :=
    isSliceOf_of_mem_findAll (p := p) (m := ⟨_, b.groups⟩) (by rw [hfind]; exact List.mem_cons_self)
  generalize (Place.ofChars text.toList).spanTo b = span at htext hfind hslice
  -- a slice that has the whole text is the whole
  subst htext
  rw [hfind, ← hslice.eq_whole]

/-- **Matches found again.** In the text of a match nothing but this text is found, and all of
it. -/
theorem exists_findAll_text {cs : List Char} (hp : p.isInward = true) (h : hit ∈ p.findAll cs) :
    ∃ groups, p.findAll hit.span.text.toList = [⟨.whole hit.span.text, groups⟩] := by
  have hlt := start_lt_stop_of_mem_findAll h
  obtain ⟨before, taken, a, b, -, hsplits, hrest, -, hb⟩ := exists_prefers_of_mem_findAll h
  have htext : hit.span.text.toList = taken := by rw [hsplits.text_eq, String.toList_ofList]
  have hne : taken ≠ [] := by
    rw [hsplits.start_eq, hsplits.stop_eq, Text.byteLength_append] at hlt
    rintro rfl
    exact Nat.lt_irrefl _ hlt
  have hcut : a.Extends b.rest (Place.ofChars hit.span.text.toList) := by
    rw [htext]
    exact hrest
  obtain ⟨b', hb', hend⟩ := hb.exists_cut hp hcut
  exact ⟨b'.groups, findAll_whole hb' hend (by rwa [htext])⟩

end InvoiceFields.Pattern
