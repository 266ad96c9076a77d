import InvoiceFields.Proofs.Pattern.Run
import Mathlib.Data.List.Forall2
import Mathlib.Data.Nat.Find

/-!
# The preferred match

A pattern `Prefers` one of its ends. Each way to build a pattern has a rule for it: a sequence goes
on from where its first part prefers to end if the second part matches there, an alternative takes
its first branch unless that has no match, and a repetition goes on while it can (`run_many`). A
search takes the preferred match wherever there is one (`scan_of_prefers`), and so the matches that
it finds are preferred ones (`exists_prefers_of_mem_findAll`).
-/

namespace InvoiceFields.Pattern

variable {a b b' m : Place} {p q r : Pattern} {class_ : Char → Bool} {c : Char}
variable {cs ds rest : List Char} {n : Nat} {hit : Match}

/-! ### Rules -/

theorem Prefers.unique (h : p.Prefers a b) (h' : p.Prefers a b') : b = b' :=
  Option.some.inj (h.symm.trans h')

theorem exists_prefers (h : p.run a ≠ []) : ∃ b, p.Prefers a b :=
  ⟨(p.run a).head h, List.head?_eq_some_head h⟩

theorem prefers_empty (a : Place) : empty.Prefers a a := rfl

theorem prefers_one (hrest : a.rest = c :: rest) (hc : class_ c = true) :
    (one class_).Prefers a (a.past [c] rest) := by
  rw [Prefers, run, hrest]
  simp only [hc, if_true]
  rfl

/-- A class has no match in front of a character that does not belong to it. -/
theorem run_one_eq_nil (h : ∀ c, a.rest.head? = Option.some c → class_ c = false) :
    (one class_).run a = [] := by
  refine List.eq_nil_iff_forall_not_mem.mpr fun b hb => ?_
  obtain ⟨c, rest, hrest, hc, -⟩ := mem_run_one.mp hb
  rw [h c (by rw [hrest]; rfl)] at hc
  exact nomatch hc

/-- A sequence goes on from where its first part prefers to end. -/
theorem Prefers.seq (hp : p.Prefers a m) (hq : q.Prefers m b) : (seq p q).Prefers a b := by
  obtain ⟨others, hrun⟩ := List.head?_eq_some_iff.mp hp
  rw [Prefers, run, hrun, List.flatMap_cons, List.head?_append, hq, Option.some_or]

/-- The parts of a sequence take one text after the other. -/
theorem Prefers.seq_past (hp : p.Prefers a (a.past cs (ds ++ rest)))
    (hq : q.Prefers (a.past cs (ds ++ rest)) ((a.past cs (ds ++ rest)).past ds rest)) :
    (Pattern.seq p q).Prefers a (a.past (cs ++ ds) rest) := by
  rw [← Place.past_past a cs ds (ds ++ rest) rest]
  exact hp.seq hq

theorem prefers_one_seq (hrest : a.rest = c :: cs ++ rest) (hc : class_ c = true)
    (hq : q.Prefers (a.past [c] (cs ++ rest)) ((a.past [c] (cs ++ rest)).past cs rest)) :
    (seq (one class_) q).Prefers a (a.past (c :: cs) rest) :=
  (prefers_one hrest hc).seq_past hq

/-- Without a match of its first part there is none of a sequence. -/
theorem run_seq_eq_nil (h : p.run a = []) : (seq p q).run a = [] := by
  rw [run, h, List.flatMap_nil]

/-- Where the second part has a match everywhere, a sequence prefers what its parts prefer. -/
theorem prefers_seq_iff (hq : ∀ m, q.run m ≠ []) :
    (seq p q).Prefers a b ↔ ∃ m, p.Prefers a m ∧ q.Prefers m b := by
  constructor
  · intro h
    obtain ⟨m, hm, -⟩ := mem_run_seq.mp h.mem_run
    obtain ⟨m, hp⟩ := exists_prefers (List.ne_nil_of_mem hm)
    obtain ⟨b', hb'⟩ := exists_prefers (hq m)
    rw [h.unique (hp.seq hb')]
    exact ⟨m, hp, hb'⟩
  · rintro ⟨m, hp, hq⟩
    exact hp.seq hq

/-- A sequence begins with its first pattern. -/
private theorem run_sequence_cons (ps : List Pattern) :
    (sequence (p :: ps)).run a = (p.run a).flatMap (sequence ps).run := by
  cases ps with
  | nil => exact (List.flatMap_singleton' _).symm
  | cons q ps => rfl

/-- A sequence may be cut in two. -/
theorem run_sequence_append (ps qs : List Pattern) :
    (sequence (ps ++ qs)).run a = (seq (sequence ps) (sequence qs)).run a := by
  induction ps generalizing a with
  | nil => exact (List.append_nil _).symm
  | cons p ps ih =>
    rw [List.cons_append, run_sequence_cons, run, run_sequence_cons, List.flatMap_assoc]
    exact congrArg (fun f => (p.run a).flatMap f) (funext fun _ => ih)

theorem Prefers.alt_left (h : p.Prefers a b) : (alt p q).Prefers a b := by
  rw [Prefers, run, List.head?_append, h, Option.some_or]

/-- The second branch counts only where the first one has no match. -/
theorem Prefers.alt_right (h : q.Prefers a b) (hp : p.run a = []) : (alt p q).Prefers a b := by
  rw [Prefers, run, hp, List.nil_append, h]

theorem run_alt_eq_nil (hp : p.run a = []) (hq : q.run a = []) : (alt p q).run a = [] := by
  rw [run, hp, hq, List.append_nil]

theorem Prefers.optional (h : p.Prefers a b) : (optional p).Prefers a b := h.alt_left

/-- What is optional is left out only where it has no match. -/
theorem prefers_optional_self (h : p.run a = []) : (optional p).Prefers a a :=
  (prefers_empty a).alt_right h

theorem run_optional_ne_nil (p : Pattern) (a : Place) : (optional p).run a ≠ [] :=
  List.ne_nil_of_mem (mem_run_alt.mpr (.inr (mem_run_empty.mpr rfl)))

/-! ### Repetitions -/

/-- More rounds than there are characters make no difference. -/
private theorem repeatSteps_eq {step : Place → List Place} :
    ∀ {n k : Nat} {a : Place}, a.rest.length ≤ n → a.rest.length ≤ k →
      repeatSteps step n a = repeatSteps step k a := by
  have hzero : ∀ {n : Nat} {a : Place}, a.rest.length = 0 → repeatSteps step n a = [a] := by
    intro n a ha
    cases n with
    | zero => rfl
    | succ n =>
      rw [repeatSteps, List.flatMap_eq_nil_iff.mpr fun b _ => if_neg (by omega)]
      rfl
  intro n
  induction n with
  | zero =>
    intro k a hn hk
    rw [hzero (Nat.le_zero.mp hn), hzero (Nat.le_zero.mp hn)]
  | succ n ih =>
    intro k a hn hk
    rcases Nat.eq_zero_or_pos a.rest.length with ha | ha
    · rw [hzero ha, hzero ha]
    · obtain ⟨k, rfl⟩ := Nat.exists_eq_add_of_lt (Nat.lt_of_lt_of_le ha hk)
      rw [Nat.zero_add, repeatSteps, repeatSteps]
      congr 2
      funext b
      -- a round that takes something leaves one character less for one round less
      split
      · exact ih (by omega) (by omega)
      · rfl

/-- A repetition ends where it ends behind one more round, or where it stands. -/
theorem run_many : (many p).run a =
    ((p.run a).flatMap fun b =>
      if b.rest.length < a.rest.length then (many p).run b else []) ++ [a] := by
  rw [run]
  cases hlength : a.rest.length with
  | zero =>
    rw [List.flatMap_eq_nil_iff.mpr fun b _ => if_neg (by omega)]
    rfl
  | succ n =>
    rw [repeatSteps, hlength]
    congr 2
    funext b
    split
    · rw [run]
      exact repeatSteps_eq (by omega) (Nat.le_refl _)
    · rfl

/-- A repetition stops where it cannot go on. -/
theorem prefers_many_self (h : p.run a = []) : (many p).Prefers a a := by
  rw [Prefers, run_many, h]
  rfl

/-- A repetition goes on behind a round that takes something. -/
theorem Prefers.many (hp : p.Prefers a m) (hlt : m.rest.length < a.rest.length)
    (h : (many p).Prefers m b) : (many p).Prefers a b := by
  obtain ⟨others, hrun⟩ := List.head?_eq_some_iff.mp hp
  rw [Prefers, run_many, hrun, List.flatMap_cons, if_pos hlt, List.append_assoc,
    List.head?_append, h, Option.some_or]

/-- Some characters of a class, in front of none, are all taken by a repetition. -/
theorem prefers_many_one (hcs : ∀ c ∈ cs, class_ c = true)
    (hend : ∀ c, rest.head? = Option.some c → class_ c = false) (hrest : a.rest = cs ++ rest) :
    (many (one class_)).Prefers a (a.past cs rest) := by
  induction cs generalizing a with
  | nil =>
    obtain rfl : a.rest = rest := hrest
    exact prefers_many_self (run_one_eq_nil hend)
  | cons c cs ih =>
    obtain ⟨hc, hcs⟩ := List.forall_mem_cons.mp hcs
    rw [← List.singleton_append, ← Place.past_past a [c] cs (cs ++ rest) rest]
    refine Prefers.many (prefers_one hrest hc) ?_ (ih hcs rfl)
    rw [hrest]
    exact Nat.lt_succ_self _

/-- A place behind characters of a class. -/
def Place.Reads (class_ : Char → Bool) (a b : Place) : Prop :=
  ∃ cs rest, a.rest = cs ++ rest ∧ (∀ c ∈ cs, class_ c = true) ∧ b = a.past cs rest

theorem Place.Reads.refl (a : Place) : a.Reads class_ a :=
  ⟨[], a.rest, rfl, List.forall_mem_nil _, rfl⟩

theorem Place.Reads.trans (hab : a.Reads class_ m) (hbc : m.Reads class_ b) : a.Reads class_ b := by
  obtain ⟨cs, rest, hrest, hcs, rfl⟩ := hab
  obtain ⟨ds, rest', hrest', hds, rfl⟩ := hbc
  obtain rfl : rest = ds ++ rest' := hrest'
  exact ⟨cs ++ ds, rest', by rw [hrest, List.append_assoc],
    List.forall_mem_append.mpr ⟨hcs, hds⟩, Place.past_past ..⟩

theorem reads_of_mem_run_one (h : b ∈ (one class_).run a) : a.Reads class_ b := by
  obtain ⟨c, rest, hrest, hc, rfl⟩ := mem_run_one.mp h
  exact ⟨[c], rest, hrest, List.forall_mem_singleton.mpr hc, rfl⟩

/-- A repetition of a class takes characters of it. -/
theorem reads_of_mem_run_many_one (h : b ∈ (many (one class_)).run a) : a.Reads class_ b :=
  rel_of_mem_repeatSteps Place.Reads.refl (fun _ _ _ => Place.Reads.trans)
    (fun _ _ => reads_of_mem_run_one) h

/-- So many characters of a class are taken by a counted repetition. -/
theorem prefers_times_one (hcs : ∀ c ∈ cs, class_ c = true) (hrest : a.rest = cs ++ rest) :
    ((one class_).times cs.length).Prefers a (a.past cs rest) := by
  induction cs generalizing a with
  | nil =>
    obtain rfl : a.rest = rest := hrest
    exact prefers_empty a
  | cons c cs ih =>
    obtain ⟨hc, hcs⟩ := List.forall_mem_cons.mp hcs
    exact prefers_one_seq hrest hc (ih hcs rfl)

/-- A bounded repetition of a class takes characters of it up to the bound. -/
theorem prefers_upTo_one (hcs : ∀ c ∈ cs, class_ c = true) (hlength : cs.length ≤ n)
    (hend : cs.length = n ∨ ∀ c, rest.head? = Option.some c → class_ c = false)
    (hrest : a.rest = cs ++ rest) : ((one class_).upTo n).Prefers a (a.past cs rest) := by
  induction cs generalizing a n with
  | nil =>
    obtain rfl : a.rest = rest := hrest
    cases n with
    | zero => exact prefers_empty a
    | succ n =>
      rcases hend with hend | hend
      · exact nomatch hend
      · exact prefers_optional_self (run_seq_eq_nil (run_one_eq_nil hend))
  | cons c cs ih =>
    obtain ⟨hc, hcs⟩ := List.forall_mem_cons.mp hcs
    obtain ⟨n, rfl⟩ := Nat.exists_eq_add_of_lt (Nat.lt_of_lt_of_le (Nat.succ_pos _) hlength)
    rw [Nat.zero_add] at *
    refine (prefers_one_seq hrest hc (ih hcs (Nat.le_of_succ_le_succ hlength) ?_ rfl)).optional
    exact hend.imp_left Nat.succ.inj

/-- A bounded repetition of a class takes no more characters than the bound. -/
theorem mem_run_upTo_one (h : b ∈ ((one class_).upTo n).run a) :
    ∃ cs rest, a.rest = cs ++ rest ∧ cs.length ≤ n ∧ (∀ c ∈ cs, class_ c = true) ∧
      b = a.past cs rest := by
  induction n generalizing a with
  | zero =>
    rw [mem_run_empty.mp h]
    exact ⟨[], a.rest, rfl, Nat.le_refl _, List.forall_mem_nil _, rfl⟩
  | succ n ih =>
    rcases mem_run_alt.mp h with h | h
    · obtain ⟨m, hm, hb⟩ := mem_run_seq.mp h
      obtain ⟨c, rest, hrest, hc, rfl⟩ := mem_run_one.mp hm
      obtain ⟨cs, rest', hrest', hlength, hcs, rfl⟩ := ih hb
      obtain rfl : rest = cs ++ rest' := hrest'
      refine ⟨c :: cs, rest', hrest, Nat.succ_le_succ hlength, ?_, Place.past_past a [c] cs _ _⟩
      exact List.forall_mem_cons.mpr ⟨hc, hcs⟩
    · rw [mem_run_empty.mp h]
      exact ⟨[], a.rest, rfl, Nat.zero_le _, List.forall_mem_nil _, rfl⟩

/-! ### Words -/

/-- Whether a character is a form of a small letter. -/
def isCaseOf (letter c : Char) : Bool := c == letter || (otherForms letter).contains c

/-- A text that spells a word of small letters, in any case. -/
def Spells (letters cs : List Char) : Prop :=
  List.Forall₂ (fun letter c => isCaseOf letter c = true) letters cs

/-- What spells one word behind another falls into a spelling of each. -/
theorem Spells.exists_append {letters letters' : List Char} (h : Spells (letters ++ letters') cs) :
    ∃ ds es, cs = ds ++ es ∧ Spells letters ds ∧ Spells letters' es := by
  induction letters generalizing cs with
  | nil => exact ⟨[], cs, rfl, .nil, h⟩
  | cons letter letters ih =>
    obtain ⟨c, cs, hc, hrest, rfl⟩ := List.forall₂_cons_left_iff.mp h
    obtain ⟨ds, es, rfl, hds, hes⟩ := ih hrest
    exact ⟨c :: ds, es, rfl, .cons hc hds, hes⟩

/-- Every character of a spelling is a form of a letter. -/
theorem Spells.exists_letter {letters : List Char} (h : Spells letters cs) :
    ∀ c ∈ cs, ∃ letter ∈ letters, isCaseOf letter c = true := by
  induction h with
  | nil => exact List.forall_mem_nil _
  | cons hcase _ ih =>
    refine List.forall_mem_cons.mpr ⟨⟨_, List.mem_cons_self, hcase⟩, fun c hc => ?_⟩
    obtain ⟨letter, hmem, hcase⟩ := ih c hc
    exact ⟨letter, List.mem_cons_of_mem _ hmem, hcase⟩

/-- A word is matched where it is spelled, and by its letters only. -/
theorem mem_run_word {s : String} :
    b ∈ (word s).run a ↔ ∃ cs rest, a.rest = cs ++ rest ∧ Spells s.toList cs ∧
      b = a.past cs rest := by
  rw [word]
  induction s.toList generalizing a with
  | nil =>
    rw [List.map_nil, sequence, mem_run_empty]
    constructor
    · rintro rfl
      exact ⟨[], b.rest, rfl, .nil, rfl⟩
    · rintro ⟨cs, rest, hrest, hspells, rfl⟩
      cases hspells
      obtain rfl : a.rest = rest := hrest
      rfl
  | cons letter letters ih =>
    rw [List.map_cons, run_sequence_cons, List.mem_flatMap]
    constructor
    · rintro ⟨m, hm, hb⟩
      obtain ⟨c, rest, hrest, hc, rfl⟩ := mem_run_one.mp hm
      obtain ⟨cs, rest', hrest', hspells, rfl⟩ := ih.mp hb
      obtain rfl : rest = cs ++ rest' := hrest'
      exact ⟨c :: cs, rest', hrest, .cons hc hspells, Place.past_past a [c] cs _ _⟩
    · rintro ⟨cs, rest, hrest, hspells, rfl⟩
      cases hspells with
      | @cons _ c _ cs hc hspells =>
        refine ⟨a.past [c] (cs ++ rest), mem_run_one.mpr ⟨c, _, hrest, hc, rfl⟩, ?_⟩
        exact ih.mpr ⟨cs, rest, rfl, hspells, (Place.past_past a [c] cs _ _).symm⟩

theorem prefers_word {s : String} (hspells : Spells s.toList cs) (hrest : a.rest = cs ++ rest) :
    (word s).Prefers a (a.past cs rest) := by
  have hmem := mem_run_word.mpr ⟨cs, rest, hrest, hspells, rfl⟩
  obtain ⟨b, hb⟩ := exists_prefers (List.ne_nil_of_mem hmem)
  obtain ⟨ds, rest', hrest', hspells', rfl⟩ := mem_run_word.mp hb.mem_run
  -- both spell the word, so they are of one length
  have hlength : cs.length = ds.length := hspells.length_eq.symm.trans hspells'.length_eq
  obtain ⟨rfl, rfl⟩ := List.append_inj (hrest.symm.trans hrest') hlength
  exact hb

/-! ### Searching -/

/-- A place without groups need not be cleared of them. -/
private theorem Place.ungrouped_eq_self (h : a.groups = []) : { a with groups := [] } = a := by
  rw [← h]

/-- Where there is a preferred match that takes something, a search takes it. -/
theorem scan_of_prefers (hgroups : a.groups = []) (h : p.Prefers a b)
    (hlt : b.rest.length < a.rest.length) : p.scan a = ⟨a.spanTo b, b.groups⟩ :: p.scan b := by
  obtain ⟨others, hrun⟩ := List.head?_eq_some_iff.mp h
  obtain ⟨c, rest, hrest⟩ := List.exists_cons_of_length_pos (Nat.zero_lt_of_lt hlt)
  rw [scan]
  split
  case h_1 hnil => exact absurd (hrest.symm.trans hnil) (List.cons_ne_nil _ _)
  case h_2 =>
    simp only [Place.ungrouped_eq_self hgroups, hrun]
    exact if_pos hlt

/-- Where there is no match, a search goes on behind the next character. -/
theorem scan_of_run_eq_nil (hgroups : a.groups = []) (hrest : a.rest = c :: rest)
    (h : p.run a = []) : p.scan a = p.scan (a.past [c] rest) := by
  rw [scan]
  split
  case h_1 hnil => exact absurd (hrest.symm.trans hnil) (List.cons_ne_nil _ _)
  case h_2 c' rest' hrest' =>
    obtain ⟨rfl, rfl⟩ := List.cons.inj (hrest.symm.trans hrest')
    simp only [Place.ungrouped_eq_self hgroups, h]
    rfl

theorem scan_eq_nil (h : a.rest = []) : p.scan a = [] := by
  rw [scan]
  split
  case h_1 => rfl
  case h_2 hrest => exact absurd (h.symm.trans hrest) (List.cons_ne_nil _ _).symm

/-- The place behind no character is the place itself. -/
theorem Place.past_nil (hrest : a.rest = rest) : a.past [] rest = a := by
  rw [← hrest]
  rfl

/-- Behind a match of no length, a search goes on behind the next character. -/
theorem scan_of_prefers_self (hgroups : a.groups = []) (hrest : a.rest = c :: rest)
    (h : p.Prefers a b) (hlt : ¬ b.rest.length < a.rest.length) :
    p.scan a = p.scan (a.past [c] rest) := by
  obtain ⟨others, hrun⟩ := List.head?_eq_some_iff.mp h
  rw [scan]
  split
  case h_1 hnil => exact absurd (hrest.symm.trans hnil) (List.cons_ne_nil _ _)
  case h_2 c' rest' hrest' =>
    obtain ⟨rfl, rfl⟩ := List.cons.inj (hrest.symm.trans hrest')
    simp only [Place.ungrouped_eq_self hgroups, hrun]
    exact if_neg hlt

/-- What was kept before does not matter for a search. -/
theorem scan_ungrouped (p : Pattern) (a : Place) : p.scan { a with groups := [] } = p.scan a := by
  fun_induction scan p a with
  | case1 a hrest => exact scan_eq_nil hrest
  | case2 a c rest hrest hnone ih =>
    have hskip : p.scan { a with groups := [] } = p.scan { a.advance c rest with groups := [] } :=
      scan_of_run_eq_nil rfl hrest hnone
    exact hskip.trans ih
  | case3 a c rest hrest b others hsome hlt ih =>
    have hb : p.Prefers { a with groups := [] } b := congrArg List.head? hsome
    exact scan_of_prefers rfl hb hlt
  | case4 a c rest hrest b others hsome hlt ih =>
    have hb : p.Prefers { a with groups := [] } b := congrArg List.head? hsome
    have hskip : p.scan { a with groups := [] } = p.scan { a.advance c rest with groups := [] } :=
      scan_of_prefers_self rfl hrest hb hlt
    exact hskip.trans ih

/-- Text is passed over if there is no match at any place in it. -/
theorem scan_past (hgroups : a.groups = []) (hrest : a.rest = cs ++ rest)
    (hnone : ∀ ds es, cs = ds ++ es → es ≠ [] → p.run (a.past ds (es ++ rest)) = []) :
    p.scan a = p.scan (a.past cs rest) := by
  induction cs generalizing a with
  | nil =>
    rw [List.nil_append] at hrest
    rw [Place.past_nil hrest]
  | cons c cs ih =>
    have hrun := hnone [] (c :: cs) rfl (List.cons_ne_nil c cs)
    rw [Place.past_nil hrest] at hrun
    have hskip : p.scan a = p.scan (a.past [c] (cs ++ rest)) :=
      scan_of_run_eq_nil hgroups hrest hrun
    rw [hskip, ih (a := a.past [c] (cs ++ rest)) hgroups rfl, Place.past_past]
    · rfl
    · intro ds es hsplit hne
      rw [Place.past_past]
      exact hnone (c :: ds) es (congrArg (c :: ·) hsplit) hne

/-- Text in which no match can start is passed over. -/
theorem scan_append (hp : ∀ c ∈ cs, ∀ m : Place, m.rest.head? = Option.some c → p.run m = [])
    (hgroups : a.groups = []) (hrest : a.rest = cs ++ rest) :
    p.scan a = p.scan (a.past cs rest) := by
  refine scan_past hgroups hrest fun ds es hsplit hne => ?_
  obtain ⟨c, es, rfl⟩ := List.exists_cons_of_ne_nil hne
  exact hp c (by simp [hsplit]) _ rfl

/-- A search finds nothing where the pattern has no match at any place, and otherwise finds a match
at the first place where the pattern has one. -/
theorem scan_cases (hp : ∀ a b, b ∈ p.run a → b.rest.length < a.rest.length)
    (hgroups : a.groups = []) :
    (p.scan a = [] ∧ ∀ cs rest, a.rest = cs ++ rest → p.run (a.past cs rest) = []) ∨
      ∃ cs rest b, a.rest = cs ++ rest ∧ p.Prefers (a.past cs rest) b ∧
        p.scan a = ⟨(a.past cs rest).spanTo b, b.groups⟩ :: p.scan b ∧
        ∀ ds rest', a.rest = ds ++ rest' → p.run (a.past ds rest') ≠ [] →
          cs.length ≤ ds.length := by
  classical
  by_cases hsome : ∃ n, ∃ cs rest, a.rest = cs ++ rest ∧ cs.length = n ∧ p.run (a.past cs rest) ≠ []
  · obtain ⟨cs, rest, hrest, hlength, hrun⟩ := Nat.find_spec hsome
    obtain ⟨b, hb⟩ := exists_prefers hrun
    have hfirst : ∀ ds rest', a.rest = ds ++ rest' → p.run (a.past ds rest') ≠ [] →
        cs.length ≤ ds.length := fun ds rest' hrest' hrun' =>
      hlength ▸ Nat.find_min' hsome ⟨ds, rest', hrest', rfl, hrun'⟩
    refine .inr ⟨cs, rest, b, hrest, hb, ?_, hfirst⟩
    have hscan := scan_of_prefers (a := a.past cs rest) hgroups hb (hp _ b hb.mem_run)
    rw [scan_past hgroups hrest, hscan]
    intro ds es hsplit hne
    by_contra hearlier
    have hle := hfirst ds (es ++ rest) (by rw [hrest, hsplit, List.append_assoc]) hearlier
    have hpos := List.length_pos_iff.mpr hne
    rw [hsplit, List.length_append] at hle
    omega
  · have hnone : ∀ cs rest, a.rest = cs ++ rest → p.run (a.past cs rest) = [] := by
      intro cs rest hrest
      by_contra hrun
      exact hsome ⟨_, cs, rest, hrest, rfl, hrun⟩
    have hrest := (List.append_nil a.rest).symm
    refine .inl ⟨?_, hnone⟩
    rw [scan_past hgroups hrest, scan_eq_nil rfl]
    intro ds es hsplit _
    rw [List.append_nil]
    exact hnone ds es hsplit

/-- Erasing drops the preferred match. -/
theorem eraseFrom_of_prefers (hgroups : a.groups = []) (h : p.Prefers a b)
    (hlt : b.rest.length < a.rest.length) : p.eraseFrom a = p.eraseFrom b := by
  obtain ⟨others, hrun⟩ := List.head?_eq_some_iff.mp h
  obtain ⟨c, rest, hrest⟩ := List.exists_cons_of_length_pos (Nat.zero_lt_of_lt hlt)
  rw [eraseFrom]
  split
  case h_1 hnil => exact absurd (hrest.symm.trans hnil) (List.cons_ne_nil _ _)
  case h_2 =>
    simp only [Place.ungrouped_eq_self hgroups, hrun]
    exact if_pos hlt

theorem eraseFrom_eq_nil (h : a.rest = []) : p.eraseFrom a = [] := by
  rw [eraseFrom]
  split
  case h_1 => rfl
  case h_2 hrest => exact absurd (h.symm.trans hrest) (List.cons_ne_nil _ _).symm

/-- Erasing keeps text in which no match can start. -/
theorem eraseFrom_append
    (hp : ∀ c ∈ cs, ∀ m : Place, m.rest.head? = Option.some c → p.run m = [])
    (hgroups : a.groups = []) (hrest : a.rest = cs ++ rest) :
    p.eraseFrom a = cs ++ p.eraseFrom (a.past cs rest) := by
  induction cs generalizing a with
  | nil =>
    obtain rfl : a.rest = rest := hrest
    rfl
  | cons c cs ih =>
    obtain ⟨hc, hcs⟩ := List.forall_mem_cons.mp hp
    have hrun : p.run a = [] := hc a (by rw [hrest]; rfl)
    have hstep : p.eraseFrom a = c :: p.eraseFrom (a.past [c] (cs ++ rest)) := by
      rw [eraseFrom]
      split
      case h_1 hnil => exact absurd (hrest.symm.trans hnil) (List.cons_ne_nil _ _)
      case h_2 c' rest' hrest' =>
        obtain ⟨rfl, rfl⟩ := List.cons.inj (hrest.symm.trans hrest')
        simp only [Place.ungrouped_eq_self hgroups, hrun]
        rfl
    rw [hstep, ih (a := a.past [c] (cs ++ rest)) hcs hgroups rfl, Place.past_past]
    rfl

/-- Behind the bytes of some characters stands what follows them. -/
private theorem after_go_append (cs rest : List Char) :
    Match.after.go (Text.byteLength cs) (cs ++ rest) = rest := by
  induction cs with
  | nil => cases rest <;> rfl
  | cons c cs ih =>
    have hpos := c.utf8Size_pos
    rw [List.cons_append, Match.after.go, Text.byteLength, if_neg (by omega),
      Nat.add_sub_cancel_left, ih]

/-- A match of a text that takes some characters behind others. -/
structure Match.Splits (m : Match) (before taken : List Char) : Prop where
  text_eq : m.span.text = String.ofList taken
  start_eq : m.span.start = Text.byteLength before
  stop_eq : m.span.stop = Text.byteLength (before ++ taken)

theorem Match.Splits.after_eq {before taken : List Char} (h : hit.Splits before taken)
    (rest : List Char) : hit.after (before ++ taken ++ rest) = rest := by
  rw [Match.after, h.stop_eq, after_go_append]

/-- What is taken between two places splits a text there. -/
theorem splits_spanTo {before taken : List Char} (hbefore : a.offset = Text.byteLength before)
    (hrest : a.rest = taken ++ b.rest) (hoffset : b.offset = a.offset + Text.byteLength taken)
    (groups : List (Nat × Span)) : Match.Splits ⟨a.spanTo b, groups⟩ before taken := by
  refine ⟨Place.text_spanTo hrest, hbefore, ?_⟩
  rw [Text.byteLength_append, ← hbefore]
  exact hoffset

/-- A match that is found is the preferred one at a place of the text. -/
theorem exists_prefers_of_mem_findAll (h : hit ∈ p.findAll cs) :
    ∃ before taken a b, cs = before ++ taken ++ b.rest ∧ hit.Splits before taken ∧
      a.rest = taken ++ b.rest ∧ a.groups = [] ∧ p.Prefers a b := by
  obtain ⟨a, b, ⟨before, hbefore, -, hoffset⟩, hb, rfl⟩ := exists_prefers_of_mem_scan h
  obtain ⟨taken, htaken, -, hstop⟩ := follows_of_mem_run hb.mem_run
  rw [show cs = before ++ a.rest from hbefore]
  replace htaken : a.rest = taken ++ b.rest := htaken
  replace hoffset : a.offset = Text.byteLength before := hoffset.trans (Nat.zero_add _)
  refine ⟨before, taken, { a with groups := [] }, b, ?_,
    splits_spanTo hoffset htaken hstop b.groups, htaken, rfl, hb⟩
  rw [htaken, List.append_assoc]

/-- A text that is matched whole is the only match behind text in which no match can start. -/
theorem findAll_eq_singleton {before taken : List Char}
    (hp : ∀ c ∈ before, ∀ m : Place, m.rest.head? = Option.some c → p.run m = [])
    (h : ∀ a : Place, a.rest = taken → p.Prefers a (a.past taken [])) (hne : taken ≠ []) :
    ∃ hit, p.findAll (before ++ taken) = [hit] ∧ hit.Splits before taken := by
  have hstart : p.findAll (before ++ taken) =
      p.scan ((Place.ofChars (before ++ taken)).past before taken) := scan_append hp rfl rfl
  have hbefore : ((Place.ofChars (before ++ taken)).past before taken).offset =
      Text.byteLength before := Nat.zero_add _
  generalize hplace : (Place.ofChars (before ++ taken)).past before taken = a at hstart hbefore
  obtain ⟨hrest, hgroups⟩ : a.rest = taken ∧ a.groups = [] := by
    rw [← hplace]
    exact ⟨rfl, rfl⟩
  have hlt : (a.past taken []).rest.length < a.rest.length := by
    rw [hrest]
    exact List.length_pos_iff.mpr hne
  rw [scan_of_prefers hgroups (h a hrest) hlt, scan_eq_nil rfl] at hstart
  exact ⟨_, hstart, splits_spanTo hbefore (by rw [hrest]; exact (List.append_nil _).symm) rfl _⟩

end InvoiceFields.Pattern
