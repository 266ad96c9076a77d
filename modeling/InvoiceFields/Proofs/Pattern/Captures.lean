import InvoiceFields.Proofs.Pattern.Language
import InvoiceFields.Proofs.Text.WordCharacters

/-!
# What a pattern keeps

A pattern with numbered groups takes a text and keeps pieces of it: it `Captures` such pairs. There
is one rule for each way to build such a pattern. A pattern between two word boundaries matches what
the pattern inside takes, where no word character stands before or behind it
(`exists_of_mem_findAll_bounded`), and where such a text can be read in one way only, it is the one
that a search finds (`findAll_bounded_eq_singleton`).
-/

namespace InvoiceFields.Pattern

open Text (isWordChar)

variable {a b : Place} {p q : Pattern} {ps : List Pattern} {L : List Char → Prop}
variable {R S : List Char → List (Nat × List Char) → Prop} {cs front body back rest : List Char}
variable {kept : List (Nat × List Char)} {class_ : Char → Bool} {n : Nat}

/-! ### Repetitions and words -/

/-- A repetition of a class takes any characters of it. -/
theorem recognizes_many_one :
    (many (one class_)).Recognizes fun cs => ∀ c ∈ cs, class_ c = true := by
  intro a b
  constructor
  · intro h
    obtain ⟨cs, rest, hrest, hcs, rfl⟩ := reads_of_mem_run_many_one h
    exact ⟨cs, rest, hrest, hcs, rfl⟩
  · rintro ⟨cs, rest, hrest, hcs, rfl⟩
    induction cs generalizing a with
    | nil =>
      rw [List.nil_append] at hrest
      rw [Place.past_nil hrest, run_many]
      exact List.mem_append_right _ (List.mem_singleton_self a)
    | cons c cs ih =>
      obtain ⟨hc, hcs⟩ := List.forall_mem_cons.mp hcs
      have hround : a.past [c] (cs ++ rest) ∈ (one class_).run a :=
        mem_run_one.mpr ⟨c, cs ++ rest, hrest, hc, rfl⟩
      have hlt : (a.past [c] (cs ++ rest)).rest.length < a.rest.length := by
        rw [hrest]
        exact Nat.lt_succ_self _
      have hsplit : a.past (c :: cs) rest = (a.past [c] (cs ++ rest)).past cs rest :=
        (Place.past_past a [c] cs _ _).symm
      rw [run_many, hsplit]
      refine List.mem_append_left _ (List.mem_flatMap.mpr ⟨_, hround, ?_⟩)
      rw [if_pos hlt]
      exact ih _ rfl hcs

theorem recognizes_some_one : (some (one class_)).Recognizes
    fun cs => cs ≠ [] ∧ ∀ c ∈ cs, class_ c = true := by
  refine (recognizes_one.seq recognizes_many_one).congr fun cs => ?_
  constructor
  · rintro ⟨_, es, ⟨c, hc, rfl⟩, hes, rfl⟩
    exact ⟨List.cons_ne_nil c es, List.forall_mem_cons.mpr ⟨hc, hes⟩⟩
  · rintro ⟨hne, hcs⟩
    obtain ⟨c, es, rfl⟩ := List.exists_cons_of_ne_nil hne
    obtain ⟨hc, hes⟩ := List.forall_mem_cons.mp hcs
    exact ⟨[c], es, ⟨c, hc, rfl⟩, hes, rfl⟩

theorem recognizes_word (s : String) : (word s).Recognizes (Spells s.toList) :=
  fun _ _ => mem_run_word

/-- One of several words. -/
theorem recognizes_words (words : List String) : (choice (words.map word)).Recognizes
    fun cs => ∃ s ∈ words, Spells s.toList cs := by
  induction words with
  | nil =>
    refine recognizes_one.congr fun cs => ?_
    simp
  | cons s words ih =>
    have hsplit : ∀ cs, (Spells s.toList cs ∨ ∃ t ∈ words, Spells t.toList cs) ↔
        ∃ t ∈ s :: words, Spells t.toList cs := by simp
    cases words with
    | nil => exact (recognizes_word s).congr fun cs => by simp
    | cons t words => exact ((recognizes_word s).alt ih).congr hsplit

/-! ### Kept texts -/

/-- A place behind some characters, with texts kept under numbers on the way to it. -/
structure Place.Took (a b : Place) (cs : List Char) (kept : List (Nat × List Char)) : Prop where
  rest_eq : a.rest = cs ++ b.rest
  ungrouped_eq : { b with groups := a.groups } = a.past cs b.rest
  groups_eq : ∃ spans : List (Nat × Span), b.groups = a.groups ++ spans ∧
    spans.map (fun e => (e.1, e.2.text)) = kept.map fun e => (e.1, String.ofList e.2)

theorem Place.took_past (hrest : a.rest = cs ++ rest) : a.Took (a.past cs rest) cs [] :=
  ⟨hrest, rfl, [], (List.append_nil _).symm, rfl⟩

theorem Place.Took.trans {m : Place} {ds : List Char} {kept' : List (Nat × List Char)}
    (h : a.Took m cs kept) (h' : m.Took b ds kept') : a.Took b (cs ++ ds) (kept ++ kept') := by
  obtain ⟨spans, hspans, htexts⟩ := h.groups_eq
  obtain ⟨spans', hspans', htexts'⟩ := h'.groups_eq
  refine ⟨by rw [h.rest_eq, h'.rest_eq, List.append_assoc], ?_, spans ++ spans', ?_, ?_⟩
  · have hplace : { b with groups := a.groups } = { m with groups := a.groups }.past ds b.rest :=
      congrArg (fun place : Place => { place with groups := a.groups }) h'.ungrouped_eq
    rw [hplace, h.ungrouped_eq, Place.past_past]
  · rw [hspans', hspans, List.append_assoc]
  · rw [List.map_append, List.map_append, htexts, htexts']

/-- A match of the pattern ends behind any of some texts, with the pieces that belong to it, and
nowhere else. -/
structure Captures (p : Pattern) (R : List Char → List (Nat × List Char) → Prop) : Prop where
  sound : ∀ a b, b ∈ p.run a → ∃ cs kept, R cs kept ∧ a.Took b cs kept
  complete : ∀ a cs kept rest, R cs kept → a.rest = cs ++ rest →
    ∃ b ∈ p.run a, b.rest = rest ∧ a.Took b cs kept

namespace Captures

theorem congr (hp : p.Captures R) (h : ∀ cs kept, R cs kept ↔ S cs kept) : p.Captures S := by
  have heq : R = S := funext fun cs => funext fun kept => propext (h cs kept)
  exact heq ▸ hp

theorem seq (hp : p.Captures R) (hq : q.Captures S) : (Pattern.seq p q).Captures
    fun cs kept => ∃ ds es k l, R ds k ∧ S es l ∧ cs = ds ++ es ∧ kept = k ++ l where
  sound a b hb := by
    obtain ⟨m, hm, hb⟩ := mem_run_seq.mp hb
    obtain ⟨ds, k, hds, htook⟩ := hp.sound a m hm
    obtain ⟨es, l, hes, htook'⟩ := hq.sound m b hb
    exact ⟨ds ++ es, k ++ l, ⟨ds, es, k, l, hds, hes, rfl, rfl⟩, htook.trans htook'⟩
  complete := by
    rintro a _ _ rest ⟨ds, es, k, l, hds, hes, rfl, rfl⟩ hrest
    rw [List.append_assoc] at hrest
    obtain ⟨m, hm, hmrest, htook⟩ := hp.complete a ds k _ hds hrest
    obtain ⟨b, hb, hbrest, htook'⟩ := hq.complete m es l rest hes hmrest
    exact ⟨b, mem_run_seq.mpr ⟨m, hm, hb⟩, hbrest, htook.trans htook'⟩

theorem sequence (hp : p.Captures R) (hq : (Pattern.sequence (q :: ps)).Captures S) :
    (Pattern.sequence (p :: q :: ps)).Captures
      fun cs kept => ∃ ds es k l, R ds k ∧ S es l ∧ cs = ds ++ es ∧ kept = k ++ l :=
  hp.seq hq

theorem sequence_singleton (hp : p.Captures R) : (Pattern.sequence [p]).Captures R := hp

end Captures

/-- A pattern without groups keeps nothing. -/
theorem Recognizes.captures (hp : p.Recognizes L) : p.Captures fun cs kept => L cs ∧ kept = [] where
  sound a b hb := by
    obtain ⟨cs, rest, hrest, hcs, rfl⟩ := (hp a b).mp hb
    exact ⟨cs, [], ⟨hcs, rfl⟩, Place.took_past hrest⟩
  complete := by
    rintro a cs _ rest ⟨hcs, rfl⟩ hrest
    exact ⟨_, (hp a _).mpr ⟨cs, rest, hrest, hcs, rfl⟩, rfl, Place.took_past hrest⟩

/-- A group keeps what the pattern inside it takes. -/
theorem Recognizes.captures_group (hp : p.Recognizes L) (n : Nat) :
    (group n p).Captures fun cs kept => L cs ∧ kept = [(n, cs)] where
  sound a b hb := by
    obtain ⟨m, hm, rfl⟩ := mem_run_group.mp hb
    obtain ⟨cs, rest, hrest, hcs, rfl⟩ := (hp a m).mp hm
    exact ⟨cs, [(n, cs)], ⟨hcs, rfl⟩, hrest, rfl, _, rfl,
      congrArg (fun s => [(n, s)]) (Place.text_spanTo hrest)⟩
  complete := by
    rintro a cs _ rest ⟨hcs, rfl⟩ hrest
    have hmem := (hp a _).mpr ⟨cs, rest, hrest, hcs, rfl⟩
    exact ⟨_, mem_run_group.mpr ⟨_, hmem, rfl⟩, rfl, hrest, rfl, _, rfl,
      congrArg (fun s => [(n, s)]) (Place.text_spanTo hrest)⟩

/-- A pattern without groups in front of others. -/
theorem Recognizes.sequence_captures (hp : p.Recognizes L)
    (hq : (Pattern.sequence (q :: ps)).Captures S) : (Pattern.sequence (p :: q :: ps)).Captures
      fun cs kept => ∃ ds es, L ds ∧ S es kept ∧ cs = ds ++ es := by
  refine (hp.captures.sequence hq).congr fun cs kept => ?_
  constructor
  · rintro ⟨ds, es, _, l, ⟨hds, rfl⟩, hes, hcs, rfl⟩
    exact ⟨ds, es, hds, hes, hcs⟩
  · rintro ⟨ds, es, hds, hes, hcs⟩
    exact ⟨ds, es, [], kept, ⟨hds, rfl⟩, hes, hcs, rfl⟩

/-- A group in front of others. -/
theorem Recognizes.sequence_captures_group (hp : p.Recognizes L) (n : Nat)
    (hq : (Pattern.sequence (q :: ps)).Captures S) :
    (Pattern.sequence (group n p :: q :: ps)).Captures
      fun cs kept => ∃ ds es l, L ds ∧ S es l ∧ cs = ds ++ es ∧ kept = (n, ds) :: l := by
  refine ((hp.captures_group n).sequence hq).congr fun cs kept => ?_
  constructor
  · rintro ⟨ds, es, _, l, ⟨hds, rfl⟩, hes, hcs, rfl⟩
    exact ⟨ds, es, l, hds, hes, hcs, rfl⟩
  · rintro ⟨ds, es, l, hds, hes, hcs, rfl⟩
    exact ⟨ds, es, [(n, ds)], l, ⟨hds, rfl⟩, hes, hcs, rfl⟩

/-! ### Between word boundaries -/

/-- Patterns one after the other, between two word boundaries. -/
def bounded (ps : List Pattern) : Pattern := sequence (boundary :: (ps ++ [boundary]))

theorem mem_run_bounded : b ∈ (bounded ps).run a ↔
    a.isBoundary = true ∧ b ∈ (sequence ps).run a ∧ b.isBoundary = true := by
  have hcons : bounded ps = Pattern.seq boundary (sequence (ps ++ [boundary])) := by
    cases ps <;> rfl
  have hlast : sequence [boundary] = boundary := rfl
  rw [hcons, mem_run_seq]
  simp only [run_sequence_append, mem_run_seq, hlast, mem_run_boundary]
  constructor
  · rintro ⟨_, ⟨hfront, rfl⟩, _, hb, hback, rfl⟩
    exact ⟨hfront, hb, hback⟩
  · rintro ⟨hfront, hb, hback⟩
    exact ⟨a, ⟨hfront, rfl⟩, b, hb, hback, rfl⟩

/-- The texts begin and end with word characters. -/
def Worded (R : List Char → List (Nat × List Char) → Prop) : Prop :=
  ∀ cs kept, R cs kept → (∃ c ds, cs = c :: ds ∧ isWordChar c = true) ∧
    ∃ ds c, cs = ds ++ [c] ∧ isWordChar c = true

/-- A place behind a text of word characters at both ends is bounded where no other ones stand
beside it. -/
theorem isBoundary_iff_of_worded (hR : Worded R) (h : R cs kept) (htook : a.Took b cs kept) :
    (a.isBoundary = true ↔ a.before.any isWordChar = false) ∧
      (b.isBoundary = true ↔ b.rest.head?.any isWordChar = false) := by
  obtain ⟨⟨c, ds, hfirst, hc⟩, es, d, hlast, hd⟩ := hR cs kept h
  constructor
  · exact Place.isBoundary_front (by rw [htook.rest_eq, hfirst]; rfl) hc
  · have hplace : (a.past (es ++ [d]) b.rest).isBoundary = true ↔
        b.rest.head?.any isWordChar = false := Place.isBoundary_behind hd
    rw [← hlast, ← htook.ungrouped_eq] at hplace
    exact hplace

theorem exists_of_mem_run_bounded (hp : (sequence ps).Captures R) (hR : Worded R)
    (h : b ∈ (bounded ps).run a) : ∃ cs kept, R cs kept ∧ a.Took b cs kept ∧
      a.before.any isWordChar = false ∧ b.rest.head?.any isWordChar = false := by
  obtain ⟨hfront, hb, hback⟩ := mem_run_bounded.mp h
  obtain ⟨cs, kept, hcs, htook⟩ := hp.sound a b hb
  obtain ⟨hfront', hback'⟩ := isBoundary_iff_of_worded hR hcs htook
  exact ⟨cs, kept, hcs, htook, hfront'.mp hfront, hback'.mp hback⟩

theorem run_bounded_ne_nil (hp : (sequence ps).Captures R) (hR : Worded R) (h : R cs kept)
    (hrest : a.rest = cs ++ rest) (hfront : a.before.any isWordChar = false)
    (hback : rest.head?.any isWordChar = false) : (bounded ps).run a ≠ [] := by
  obtain ⟨b, hb, rfl, htook⟩ := hp.complete a cs kept rest h hrest
  obtain ⟨hfront', hback'⟩ := isBoundary_iff_of_worded hR h htook
  exact List.ne_nil_of_mem (mem_run_bounded.mpr ⟨hfront'.mpr hfront, hb, hback'.mpr hback⟩)

/-- Nothing is matched in front of a character that the texts do not begin with. -/
theorem run_bounded_eq_nil {c : Char} (hp : (sequence ps).Captures R) (hR : Worded R)
    (hfirst : ∀ cs kept, R cs kept → ∃ d ds, cs = d :: ds ∧ class_ d = true)
    (hc : class_ c = false) (hrest : a.rest.head? = Option.some c) : (bounded ps).run a = [] := by
  refine List.eq_nil_iff_forall_not_mem.mpr fun b hb => ?_
  obtain ⟨cs, kept, hcs, htook, -, -⟩ := exists_of_mem_run_bounded hp hR hb
  obtain ⟨d, ds, rfl, hd⟩ := hfirst cs kept hcs
  rw [htook.rest_eq, List.cons_append, List.head?_cons] at hrest
  obtain rfl := Option.some.inj hrest
  exact Bool.false_ne_true (hc.symm.trans hd)

/-! ### Searching -/

/-- A match that takes a text and keeps pieces of it. -/
structure Match.Holds (m : Match) (cs : List Char) (kept : List (Nat × List Char)) : Prop where
  text_eq : m.span.text = String.ofList cs
  groupText_eq : ∀ n, m.groupText n = String.ofList ((kept.lookup n).getD [])

/-- Looking up a number does not depend on what is done with the values. -/
private theorem lookup_map_snd {α β : Type} (f : α → β) (l : List (Nat × α)) (n : Nat) :
    (l.map fun e => (e.1, f e.2)).lookup n = (l.lookup n).map f := by
  induction l with
  | nil => rfl
  | cons e l ih =>
    rw [List.map_cons, List.lookup_cons, List.lookup_cons, ih]
    cases n == e.1 <;> rfl

/-- What is kept on the way from a place without groups is what a match holds. -/
theorem Place.Took.holds (h : a.Took b cs kept) (hgroups : a.groups = []) :
    Match.Holds ⟨a.spanTo b, b.groups⟩ cs kept := by
  refine ⟨Place.text_spanTo h.rest_eq, fun n => ?_⟩
  obtain ⟨spans, hspans, htexts⟩ := h.groups_eq
  rw [hgroups, List.nil_append] at hspans
  have hlookup : (spans.lookup n).map (·.text) = (kept.lookup n).map String.ofList := by
    rw [← lookup_map_snd, htexts, lookup_map_snd]
  rw [Match.groupText, Match.group?, hspans, hlookup]
  cases kept.lookup n <;> rfl

/-- Nothing is found where no match can start. -/
theorem scan_eq_nil_of_forall
    (hp : ∀ c ∈ a.rest, ∀ m : Place, m.rest.head? = Option.some c → p.run m = []) :
    p.scan a = [] := by
  have hrest : ({ a with groups := [] } : Place).rest = a.rest ++ [] := (List.append_nil _).symm
  rw [← scan_ungrouped, scan_append hp rfl hrest]
  exact scan_eq_nil rfl

/-- A match of a pattern between word boundaries is a text that the pattern inside takes, with no
word character before it or behind it. -/
theorem exists_of_mem_findAll_bounded (hp : (sequence ps).Captures R) (hR : Worded R) {m : Match}
    (h : m ∈ (bounded ps).findAll cs) : ∃ front body back kept, cs = front ++ (body ++ back) ∧
      R body kept ∧ m.Holds body kept ∧ front.getLast?.any isWordChar = false ∧
      back.head?.any isWordChar = false := by
  obtain ⟨a, b, hfollows, hb, rfl⟩ := exists_place_of_mem_scan h
  obtain ⟨body, kept, hbody, htook, hfront, hback⟩ := exists_of_mem_run_bounded hp hR hb
  obtain ⟨front, hcs, hbefore, -⟩ := hfollows
  have hrest : a.rest = body ++ b.rest := htook.rest_eq
  refine ⟨front, body, b.rest, kept, ?_, hbody, htook.holds rfl, ?_, hback⟩
  · rw [← hrest]
    exact hcs
  · have hlast : a.before = front.getLast? := hbefore.trans Option.or_none
    rwa [← hlast]

/-- A text that can be read in one way only is the one match in a text, if none starts before it and
none behind it. -/
theorem findAll_bounded_eq_singleton (hp : (sequence ps).Captures R) (hR : Worded R)
    (hfront : ∀ c ∈ front, ∀ m : Place, m.rest.head? = Option.some c → (bounded ps).run m = [])
    (hback : ∀ c ∈ back, ∀ m : Place, m.rest.head? = Option.some c → (bounded ps).run m = [])
    (hfront_free : front.getLast?.any isWordChar = false)
    (hback_free : back.head?.any isWordChar = false) (hbody : R body kept)
    (hunique : ∀ body' kept' rest, R body' kept' → body ++ back = body' ++ rest →
      rest.head?.any isWordChar = false → body' = body ∧ kept' = kept) :
    ∃ m : Match, (bounded ps).findAll (front ++ (body ++ back)) = [m] ∧ m.Holds body kept := by
  obtain ⟨⟨c, ds, hfirst, -⟩, -⟩ := hR body kept hbody
  have hscan : (bounded ps).findAll (front ++ (body ++ back)) = (bounded ps).scan
      ((Place.ofChars (front ++ (body ++ back))).past front (body ++ back)) :=
    scan_append hfront rfl rfl
  have hbefore : ((Place.ofChars (front ++ (body ++ back))).past front (body ++ back)).before =
      front.getLast? := Option.or_none
  generalize hplace : (Place.ofChars (front ++ (body ++ back))).past front (body ++ back) = a
    at hscan hbefore
  obtain ⟨hrest, hgroups⟩ : a.rest = body ++ back ∧ a.groups = [] := by
    rw [← hplace]
    exact ⟨rfl, rfl⟩
  obtain ⟨b, hb⟩ := exists_prefers
    (run_bounded_ne_nil hp hR hbody hrest (hbefore ▸ hfront_free) hback_free)
  obtain ⟨body', kept', hbody', htook, -, hfree⟩ := exists_of_mem_run_bounded hp hR hb.mem_run
  have hsplit : body ++ back = body' ++ b.rest := hrest.symm.trans htook.rest_eq
  obtain ⟨rfl, rfl⟩ := hunique body' kept' b.rest hbody' hsplit hfree
  have hend : b.rest = back := (List.append_cancel_left hsplit).symm
  have hlt : b.rest.length < a.rest.length := by
    rw [hrest, hend, hfirst, List.cons_append, List.length_cons, List.length_append]
    omega
  refine ⟨_, ?_, htook.holds hgroups⟩
  rw [hscan, scan_of_prefers hgroups hb hlt, scan_eq_nil_of_forall (hend ▸ hback)]

end InvoiceFields.Pattern
