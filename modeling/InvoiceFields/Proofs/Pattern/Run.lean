import InvoiceFields.Pattern.Build
import InvoiceFields.Proofs.Text.Bytes

/-!
# Where matches of a pattern end

A match takes some characters and ends behind them (`follows_of_mem_run`), so a match that a search
finds is a piece of the text (`exists_place_of_mem_scan`). The places where a match can end are
described for each way to build a pattern; for counted repetitions of one class they are found
behind a list of characters of that length (`mem_run_times_one`).
-/

namespace InvoiceFields.Pattern

variable {a b : Place} {p q : Pattern} {class_ : Char → Bool} {cs : List Char}

/-! ### Places -/

/-- The place behind some characters that `rest` follows. -/
def Place.past (a : Place) (cs rest : List Char) : Place :=
  ⟨cs.getLast?.or a.before, rest, a.offset + Text.byteLength cs, a.groups⟩

theorem Place.past_past (a : Place) (cs ds mid rest : List Char) :
    (a.past cs mid).past ds rest = a.past (cs ++ ds) rest := by
  simp only [past, Text.byteLength_append, List.getLast?_append, Option.or_assoc, Nat.add_assoc]

/-- A place behind another one in the same text, whatever the groups. -/
def Place.Follows (a b : Place) : Prop :=
  ∃ cs, a.rest = cs ++ b.rest ∧ b.before = (a.past cs b.rest).before ∧
    b.offset = (a.past cs b.rest).offset

theorem Place.Follows.refl (a : Place) : a.Follows a := ⟨[], rfl, rfl, rfl⟩

theorem Place.Follows.trans {c : Place} (hab : a.Follows b) (hbc : b.Follows c) :
    a.Follows c := by
  obtain ⟨cs, hrest, hbefore, hoffset⟩ := hab
  obtain ⟨ds, hrest', hbefore', hoffset'⟩ := hbc
  refine ⟨cs ++ ds, ?_, ?_, ?_⟩
  · rw [hrest, hrest', List.append_assoc]
  · rw [hbefore', ← Place.past_past a cs ds b.rest]
    simp only [past, hbefore]
  · rw [hoffset', ← Place.past_past a cs ds b.rest]
    simp only [past, hoffset]

/-- A later place in the same text is behind some characters. -/
theorem Place.Follows.exists_past (h : a.Follows b) :
    ∃ cs, a.rest = cs ++ b.rest ∧ { b with groups := a.groups } = a.past cs b.rest := by
  obtain ⟨cs, hrest, hbefore, hoffset⟩ := h
  refine ⟨cs, hrest, ?_⟩
  rw [hbefore, hoffset]
  rfl

/-- The text between two places is what stands between them. -/
theorem Place.text_spanTo (hrest : a.rest = cs ++ b.rest) :
    (a.spanTo b).text = String.ofList cs := by
  rw [spanTo, hrest, List.length_append, Nat.add_sub_cancel, List.take_left]

theorem Place.follows_advance {c : Char} {rest : List Char} (h : a.rest = c :: rest) :
    a.Follows (a.advance c rest) :=
  ⟨[c], h, rfl, rfl⟩

/-- The groups of a place do not matter for what follows it. -/
theorem Place.follows_ungrouped {groups groups' : List (Nat × Span)} :
    Place.Follows { a with groups := groups } { b with groups := groups' } ↔ a.Follows b :=
  Iff.rfl

/-- In front of a word character a boundary is where no other one stands before it. -/
theorem Place.isBoundary_front {c : Char} (hrest : a.rest = c :: cs)
    (hc : Text.isWordChar c = true) :
    a.isBoundary = true ↔ a.before.any Text.isWordChar = false := by
  rw [isBoundary, hrest]
  simp [hc]

/-- Behind a word character a boundary is where no other one follows. -/
theorem Place.isBoundary_behind {c : Char} {rest : List Char} (hc : Text.isWordChar c = true) :
    (a.past (cs ++ [c]) rest).isBoundary = true ↔ rest.head?.any Text.isWordChar = false := by
  rw [isBoundary, past, List.getLast?_concat]
  simp [hc]

/-! ### The ends of a match -/

attribute [local simp] run

theorem mem_run_one :
    b ∈ (one class_).run a ↔
      ∃ c rest, a.rest = c :: rest ∧ class_ c = true ∧ b = a.past [c] rest := by
  rw [run]
  constructor
  · intro h
    split at h
    case h_1 => exact nomatch h
    case h_2 c rest hrest =>
      split at h
      case isTrue hc => exact ⟨c, rest, hrest, hc, List.mem_singleton.mp h⟩
      case isFalse => exact nomatch h
  · rintro ⟨c, rest, hrest, hc, rfl⟩
    simp only [hrest, hc, if_true]
    exact List.mem_singleton_self _

theorem mem_run_seq : b ∈ (seq p q).run a ↔ ∃ m ∈ p.run a, b ∈ q.run m := by
  rw [run, List.mem_flatMap]

theorem mem_run_sequence {ps : List Pattern} :
    b ∈ (sequence (p :: q :: ps)).run a ↔ ∃ m ∈ p.run a, b ∈ (sequence (q :: ps)).run m :=
  mem_run_seq

theorem mem_run_alt : b ∈ (alt p q).run a ↔ b ∈ p.run a ∨ b ∈ q.run a := by
  rw [run, List.mem_append]

theorem mem_run_empty : b ∈ empty.run a ↔ b = a := List.mem_singleton

theorem mem_run_boundary : b ∈ boundary.run a ↔ a.isBoundary = true ∧ b = a := by
  cases h : a.isBoundary <;> simp [h]

theorem mem_run_group {n : Nat} : b ∈ (group n p).run a ↔
    ∃ m ∈ p.run a, b = { m with groups := m.groups ++ [(n, a.spanTo m)] } := by
  simp [eq_comm]

theorem mem_run_start : b ∈ start.run a ↔ a.before = none ∧ b = a := by
  cases h : a.before <;> simp [h]

theorem mem_run_finish : b ∈ finish.run a ↔ a.rest = [] ∧ b = a := by
  cases h : a.rest <;> simp [h]

/-- A counted repetition of one class ends behind so many characters of it. -/
theorem mem_run_times_one {n : Nat} :
    b ∈ ((one class_).times n).run a ↔ ∃ ds rest, a.rest = ds ++ rest ∧ ds.length = n ∧
      (∀ d ∈ ds, class_ d = true) ∧ b = a.past ds rest := by
  induction n generalizing a with
  | zero =>
    rw [times, run, List.mem_singleton]
    constructor
    · rintro rfl
      exact ⟨[], b.rest, rfl, rfl, List.forall_mem_nil _, rfl⟩
    · rintro ⟨ds, rest, hrest, hlen, -, rfl⟩
      obtain rfl := List.length_eq_zero_iff.mp hlen
      obtain rfl : a.rest = rest := hrest
      rfl
  | succ n ih =>
    simp only [times, mem_run_seq, mem_run_one, ih]
    constructor
    · rintro ⟨_, ⟨c, rest, hrest, hc, rfl⟩, ds, rest', hrest', hlen, hds, rfl⟩
      obtain rfl : rest = ds ++ rest' := hrest'
      refine ⟨c :: ds, rest', hrest, congrArg (· + 1) hlen, ?_, Place.past_past a [c] ds _ _⟩
      exact List.forall_mem_cons.mpr ⟨hc, hds⟩
    · rintro ⟨ds, rest, hrest, hlen, hds, rfl⟩
      obtain ⟨c, ds, rfl⟩ := List.exists_cons_of_length_eq_add_one hlen
      obtain ⟨hc, hds⟩ := List.forall_mem_cons.mp hds
      exact ⟨a.past [c] (ds ++ rest), ⟨c, ds ++ rest, hrest, hc, rfl⟩, ds, rest, rfl,
        Nat.succ.inj hlen, hds, (Place.past_past a [c] ds _ _).symm⟩

/-- What a round of a repetition keeps is kept by all rounds. -/
theorem rel_of_mem_repeatSteps {step : Place → List Place} {R : Place → Place → Prop}
    (hrefl : ∀ a, R a a) (htrans : ∀ a b c, R a b → R b c → R a c)
    (hstep : ∀ a b, b ∈ step a → R a b) {n : Nat} (h : b ∈ repeatSteps step n a) : R a b := by
  -- each round starts where the one before it ended
  induction n generalizing a with
  | zero =>
    rw [List.mem_singleton.mp h]
    exact hrefl a
  | succ n ih =>
    rw [repeatSteps, List.mem_append, List.mem_flatMap, List.mem_singleton] at h
    rcases h with ⟨m, hm, h⟩ | rfl
    · split at h
      case isTrue => exact htrans a m b (hstep a m hm) (ih h)
      case isFalse => exact nomatch h
    · exact hrefl b

/-- A match ends behind the place where it starts. -/
theorem follows_of_mem_run (h : b ∈ p.run a) : a.Follows b := by
  induction p generalizing a b with
  | empty =>
    rw [mem_run_empty.mp h]
    exact .refl a
  | one class_ =>
    obtain ⟨c, rest, hrest, -, rfl⟩ := mem_run_one.mp h
    exact Place.follows_advance hrest
  | seq p q ihp ihq =>
    obtain ⟨m, hp, hq⟩ := mem_run_seq.mp h
    exact (ihp hp).trans (ihq hq)
  | alt p q ihp ihq =>
    rcases mem_run_alt.mp h with hp | hq
    · exact ihp hp
    · exact ihq hq
  | many p ih => exact rel_of_mem_repeatSteps .refl (fun _ _ _ => .trans) (fun _ _ => ih) h
  | group n p ih =>
    obtain ⟨m, hm, rfl⟩ := mem_run_group.mp h
    exact Place.follows_ungrouped.mp (ih hm)
  | boundary =>
    rw [(mem_run_boundary.mp h).2]
    exact .refl a
  | start =>
    rw [(mem_run_start.mp h).2]
    exact .refl a
  | finish =>
    rw [(mem_run_finish.mp h).2]
    exact .refl a

/-- Where the preferred match from a place ends. -/
def Prefers (p : Pattern) (a b : Place) : Prop := (p.run a).head? = Option.some b

theorem Prefers.mem_run (h : p.Prefers a b) : b ∈ p.run a := List.mem_of_mem_head? h

/-! ### Searching -/

/-- A match that a search finds is the preferred one at a later place or where the search
starts. -/
theorem exists_prefers_of_mem_scan {m : Match} (h : m ∈ p.scan a) :
    ∃ a' b, a.Follows a' ∧ p.Prefers { a' with groups := [] } b ∧
      m = ⟨a'.spanTo b, b.groups⟩ := by
  fun_induction scan p a with
  | case1 a hrest => exact nomatch h
  | case2 a c rest hrest hnone ih =>
    obtain ⟨a', b, hfollows, hrest'⟩ := ih h
    exact ⟨a', b, (Place.follows_advance hrest).trans hfollows, hrest'⟩
  | case3 a c rest hrest b others hsome hprogress ih =>
    have hb : p.Prefers { a with groups := [] } b := congrArg List.head? hsome
    rcases List.mem_cons.mp h with rfl | h
    · exact ⟨a, b, .refl a, hb, rfl⟩
    · obtain ⟨a', b', hfollows, hrest'⟩ := ih h
      exact ⟨a', b', (follows_of_mem_run (a := { a with groups := [] }) hb.mem_run).trans hfollows,
        hrest'⟩
  | case4 a c rest hrest b others hsome hprogress ih =>
    obtain ⟨a', b', hfollows, hrest'⟩ := ih h
    exact ⟨a', b', (Place.follows_advance hrest).trans hfollows, hrest'⟩

/-- A match that a search finds starts at a later place or where the search does. -/
theorem exists_place_of_mem_scan {m : Match} (h : m ∈ p.scan a) :
    ∃ a' b, a.Follows a' ∧ b ∈ p.run { a' with groups := [] } ∧ m = ⟨a'.spanTo b, b.groups⟩ := by
  obtain ⟨a', b, hfollows, hb, hm⟩ := exists_prefers_of_mem_scan h
  exact ⟨a', b, hfollows, hb.mem_run, hm⟩

/-- A match is a piece of the text. -/
theorem mem_of_mem_findAll {m : Match} {c : Char} (h : m ∈ p.findAll cs)
    (hc : c ∈ m.span.text.toList) : c ∈ cs := by
  obtain ⟨a, b, ⟨passed, hpassed, -⟩, -, rfl⟩ := exists_place_of_mem_scan h
  rw [Place.spanTo, String.toList_ofList] at hc
  rw [show cs = passed ++ a.rest from hpassed]
  exact List.mem_append_right _ (List.mem_of_mem_take hc)

/-- A pattern that matches at the start of a text only occurs where it matches there. -/
theorem exists_run_of_occursIn (hstart : ∀ a : Place, a.before ≠ none → p.run a = [])
    (h : p.occursIn cs = true) : ∃ b, b ∈ p.run (.ofChars cs) := by
  obtain ⟨m, hm⟩ := Option.isSome_iff_exists.mp h
  obtain ⟨a, b, ⟨passed, hpassed, hbefore, hoffset⟩, hb, -⟩ :=
    exists_place_of_mem_scan (List.mem_of_mem_head? hm)
  cases passed with
  | nil =>
    obtain ⟨before, rest, offset, groups⟩ := a
    obtain rfl : cs = rest := hpassed
    obtain rfl : before = none := hbefore
    obtain rfl : offset = 0 := hoffset
    exact ⟨b, hb⟩
  | cons c passed =>
    -- behind the start there is always a character before the place
    have hne : a.before ≠ none := by
      rw [hbefore, Place.past, List.getLast?_cons, Option.some_or]
      exact Option.some_ne_none _
    rw [hstart { a with groups := [] } hne] at hb
    exact nomatch hb

/-- A pattern whose matches take something occurs where it matches at the start. -/
theorem occursIn_of_mem_run (h : b ∈ p.run (.ofChars cs))
    (hprogress : ∀ b ∈ p.run (.ofChars cs), b.rest.length < cs.length) :
    p.occursIn cs = true := by
  cases cs with
  | nil => exact absurd (hprogress b h) (Nat.not_lt_zero _)
  | cons c cs =>
    cases hrun : p.run (.ofChars (c :: cs)) with
    | nil =>
      rw [hrun] at h
      exact nomatch h
    | cons b others =>
      have hb : b.rest.length < (c :: cs).length := hprogress b (hrun ▸ List.mem_cons_self)
      have hscan : p.scan (.ofChars (c :: cs)) =
          ⟨(Place.ofChars (c :: cs)).spanTo b, b.groups⟩ :: p.scan b := by
        rw [scan]
        simp only [Place.ofChars] at hrun ⊢
        simp only [hrun]
        exact if_pos hb
      rw [occursIn, find?, findAll, hscan]
      rfl

end InvoiceFields.Pattern
