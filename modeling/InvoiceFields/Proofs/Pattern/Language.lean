import InvoiceFields.Proofs.Pattern.Preference

/-!
# What a pattern takes

A pattern without boundaries takes the same texts wherever it is tried: it `Recognizes` them. There
is one rule for each way to build such a pattern, and the texts of a counted repetition have that
many characters. Between the start and the end of a text such a pattern occurs in the texts that it
takes, and in no others (`occursIn_anchored`).
-/

namespace InvoiceFields.Pattern

variable {p q : Pattern} {L M : List Char → Prop} {class_ : Char → Bool} {a b : Place} {n : Nat}

/-! ### Texts that are taken -/

/-- A match of the pattern ends behind any of some texts, and nowhere else. -/
def Recognizes (p : Pattern) (L : List Char → Prop) : Prop :=
  ∀ a b, b ∈ p.run a ↔ ∃ cs rest, a.rest = cs ++ rest ∧ L cs ∧ b = a.past cs rest

theorem Recognizes.congr (hp : p.Recognizes L) (h : ∀ cs, L cs ↔ M cs) : p.Recognizes M := by
  intro a b
  rw [hp a b]
  simp only [h]

theorem recognizes_empty : empty.Recognizes (· = []) := by
  intro a b
  rw [mem_run_empty]
  constructor
  · rintro rfl
    exact ⟨[], b.rest, rfl, rfl, rfl⟩
  · rintro ⟨_, rest, hrest, rfl, rfl⟩
    obtain rfl : a.rest = rest := hrest
    rfl

theorem recognizes_one : (one class_).Recognizes fun cs => ∃ c, class_ c = true ∧ cs = [c] := by
  intro a b
  rw [mem_run_one]
  constructor
  · rintro ⟨c, rest, hrest, hc, rfl⟩
    exact ⟨[c], rest, hrest, ⟨c, hc, rfl⟩, rfl⟩
  · rintro ⟨_, rest, hrest, ⟨c, hc, rfl⟩, rfl⟩
    exact ⟨c, rest, hrest, hc, rfl⟩

theorem Recognizes.seq (hp : p.Recognizes L) (hq : q.Recognizes M) :
    (Pattern.seq p q).Recognizes fun cs => ∃ ds es, L ds ∧ M es ∧ cs = ds ++ es := by
  intro a b
  simp only [mem_run_seq, hp _ _, hq _ _]
  constructor
  · rintro ⟨_, ⟨ds, rest, hrest, hds, rfl⟩, es, rest', hrest', hes, rfl⟩
    obtain rfl : rest = es ++ rest' := hrest'
    exact ⟨ds ++ es, rest', by rw [hrest, List.append_assoc], ⟨ds, es, hds, hes, rfl⟩,
      Place.past_past ..⟩
  · rintro ⟨_, rest, hrest, ⟨ds, es, hds, hes, rfl⟩, rfl⟩
    rw [List.append_assoc] at hrest
    exact ⟨_, ⟨ds, es ++ rest, hrest, hds, rfl⟩, es, rest, rfl, hes, (Place.past_past ..).symm⟩

theorem Recognizes.sequence_singleton (hp : p.Recognizes L) : (Pattern.sequence [p]).Recognizes L :=
  hp

theorem Recognizes.sequence {ps : List Pattern} (hp : p.Recognizes L)
    (hq : (Pattern.sequence (q :: ps)).Recognizes M) : (Pattern.sequence (p :: q :: ps)).Recognizes
      fun cs => ∃ ds es, L ds ∧ M es ∧ cs = ds ++ es :=
  hp.seq hq

theorem Recognizes.alt (hp : p.Recognizes L) (hq : q.Recognizes M) :
    (Pattern.alt p q).Recognizes fun cs => L cs ∨ M cs := by
  intro a b
  rw [mem_run_alt, hp a b, hq a b]
  constructor
  · rintro (⟨cs, rest, hrest, hcs, rfl⟩ | ⟨cs, rest, hrest, hcs, rfl⟩)
    · exact ⟨cs, rest, hrest, .inl hcs, rfl⟩
    · exact ⟨cs, rest, hrest, .inr hcs, rfl⟩
  · rintro ⟨cs, rest, hrest, hcs | hcs, rfl⟩
    · exact .inl ⟨cs, rest, hrest, hcs, rfl⟩
    · exact .inr ⟨cs, rest, hrest, hcs, rfl⟩

theorem Recognizes.choice_singleton (hp : p.Recognizes L) : (Pattern.choice [p]).Recognizes L := hp

theorem Recognizes.choice {ps : List Pattern} (hp : p.Recognizes L)
    (hq : (Pattern.choice (q :: ps)).Recognizes M) :
    (Pattern.choice (p :: q :: ps)).Recognizes fun cs => L cs ∨ M cs :=
  hp.alt hq

theorem Recognizes.optional (hp : p.Recognizes L) :
    (Pattern.optional p).Recognizes fun cs => L cs ∨ cs = [] :=
  hp.alt recognizes_empty

theorem recognizes_times_one : ((one class_).times n).Recognizes
    fun cs => cs.length = n ∧ ∀ c ∈ cs, class_ c = true := by
  intro a b
  simp only [mem_run_times_one, and_assoc]

/-! ### Whole texts -/

/-- Patterns one after the other, between the start and the end of a text. -/
def anchored (ps : List Pattern) : Pattern := Pattern.sequence (start :: (ps ++ [finish]))

theorem mem_run_anchored {ps : List Pattern} : b ∈ (anchored ps).run a ↔
    a.before = none ∧ b ∈ (Pattern.sequence ps).run a ∧ b.rest = [] := by
  have hcons : anchored ps = Pattern.seq start (Pattern.sequence (ps ++ [finish])) := by
    cases ps <;> rfl
  have hlast : Pattern.sequence [finish] = finish := rfl
  rw [hcons, mem_run_seq]
  simp only [run_sequence_append, mem_run_seq, hlast, mem_run_start, mem_run_finish]
  constructor
  · rintro ⟨_, ⟨hstart, rfl⟩, _, hb, hend, rfl⟩
    exact ⟨hstart, hb, hend⟩
  · rintro ⟨hstart, hb, hend⟩
    exact ⟨a, ⟨hstart, rfl⟩, b, hb, hend, rfl⟩

/-- From the start of a text, the pattern takes all of it or nothing. -/
theorem occursIn_anchored {ps : List Pattern} {cs : List Char}
    (hp : (Pattern.sequence ps).Recognizes L) (hne : ¬ L []) :
    (anchored ps).occursIn cs = true ↔ L cs := by
  have hmem : ∀ b, b ∈ (anchored ps).run (.ofChars cs) ↔
      L cs ∧ b = (Place.ofChars cs).past cs [] := by
    intro b
    rw [mem_run_anchored, hp]
    constructor
    · rintro ⟨-, ⟨ds, rest, hrest, hds, rfl⟩, hend⟩
      obtain rfl : rest = [] := hend
      obtain rfl : cs = ds := hrest.trans (List.append_nil ds)
      exact ⟨hds, rfl⟩
    · rintro ⟨hcs, rfl⟩
      exact ⟨rfl, ⟨cs, [], (List.append_nil cs).symm, hcs, rfl⟩, rfl⟩
  constructor
  · intro h
    -- the pattern is bound to the start, so no later place has to be looked at
    have hstart : ∀ a : Place, a.before ≠ none → (anchored ps).run a = [] := fun a ha =>
      List.eq_nil_iff_forall_not_mem.mpr fun b hb => ha (mem_run_anchored.mp hb).1
    obtain ⟨b, hb⟩ := exists_run_of_occursIn hstart h
    exact ((hmem b).mp hb).1
  · intro h
    have hpos : 0 < cs.length := List.length_pos_iff.mpr fun hnil => hne (hnil ▸ h)
    refine occursIn_of_mem_run ((hmem _).mpr ⟨h, rfl⟩) fun b hb => ?_
    rw [((hmem b).mp hb).2]
    exact hpos

end InvoiceFields.Pattern
