import InvoiceFields.Proofs.Pattern.Run

/-!
# The characters of a match

A pattern lies `Within` a kind of characters when all its classes do; then every character of a
match is of that kind (`forall_mem_span`). For the text of a group it is enough that the pattern
inside the group does (`forall_mem_groupText`).
-/

namespace InvoiceFields.Pattern

variable {P : Char → Prop} {a b : Place} {p q : Pattern} {ps : List Pattern} {n : Nat}
variable {class_ : Char → Bool} {m : Match} {cs : List Char}

/-- Every class of a pattern has only characters of a kind. -/
def Within (P : Char → Prop) : Pattern → Prop
  | one class_ => ∀ c, class_ c = true → P c
  | seq p q | alt p q => p.Within P ∧ q.Within P
  | many p | group _ p => p.Within P
  | _ => True

/-- What a pattern keeps under a number lies within a kind of characters. -/
def GroupWithin (P : Char → Prop) (n : Nat) : Pattern → Prop
  | seq p q | alt p q => p.GroupWithin P n ∧ q.GroupWithin P n
  | many p => p.GroupWithin P n
  | group k p => (k = n → p.Within P) ∧ p.GroupWithin P n
  | _ => True

/-! ### Built patterns -/

theorem within_anyOf {s : String} (h : ∀ c ∈ s.toList, P c) : (anyOf s).Within P := fun c hc =>
  h c (List.contains_iff_mem.mp hc)

/-- Letters in any case are of a kind if all their forms are. -/
theorem within_anyCaseOf {s : String}
    (h : ∀ d ∈ s.toList.flatMap fun c => c :: otherForms c, P d) : (anyCaseOf s).Within P := by
  intro d hd
  obtain ⟨c, hc, hd⟩ := List.any_eq_true.mp hd
  rw [Bool.or_eq_true, beq_iff_eq, List.contains_iff_mem] at hd
  exact h d (List.mem_flatMap.mpr ⟨c, hc, List.mem_cons.mpr hd⟩)

@[simp]
theorem within_char {c : Char} : (char c).Within P ↔ P c :=
  ⟨fun h => h c (beq_self_eq_true c), fun h d hd => by rwa [eq_of_beq hd]⟩

@[simp]
theorem within_optional : (optional p).Within P ↔ p.Within P := and_iff_left trivial

@[simp]
theorem within_times : (p.times (n + 1)).Within P ↔ p.Within P := by
  induction n with
  | zero => exact and_iff_left trivial
  | succ n ih => exact (and_congr_right fun _ => ih).trans and_self_iff

@[simp]
theorem within_sequence : (sequence ps).Within P ↔ ∀ p ∈ ps, p.Within P := by
  induction ps with
  | nil => exact iff_of_true trivial (List.forall_mem_nil _)
  | cons p ps ih =>
    rw [List.forall_mem_cons, ← ih]
    cases ps with
    | nil => exact (and_iff_left trivial).symm
    | cons q ps => rfl

@[simp]
theorem within_choice : (choice ps).Within P ↔ ∀ p ∈ ps, p.Within P := by
  induction ps with
  | nil => exact iff_of_true nofun (List.forall_mem_nil _)
  | cons p ps ih =>
    rw [List.forall_mem_cons, ← ih]
    cases ps with
    | nil => exact (and_iff_left nofun).symm
    | cons q ps => rfl

/-- There is no group in a repetition of one class. -/
theorem groupWithin_times_one : ∀ k, ((one class_).times k).GroupWithin P n
  | 0 => trivial
  | k + 1 => ⟨trivial, groupWithin_times_one k⟩

/-! ### The ends of a match -/

/-- A place behind characters of a kind. -/
def Place.Takes (P : Char → Prop) (a b : Place) : Prop :=
  ∃ cs, a.rest = cs ++ b.rest ∧ ∀ c ∈ cs, P c

theorem Place.Takes.refl (a : Place) : a.Takes P a := ⟨[], rfl, List.forall_mem_nil _⟩

theorem Place.Takes.trans {c : Place} (hab : a.Takes P b) (hbc : b.Takes P c) : a.Takes P c := by
  obtain ⟨cs, hrest, hcs⟩ := hab
  obtain ⟨ds, hrest', hds⟩ := hbc
  refine ⟨cs ++ ds, by rw [hrest, hrest', List.append_assoc], fun d hd => ?_⟩
  exact (List.mem_append.mp hd).elim (hcs d) (hds d)

theorem Place.Takes.forall_mem_spanTo (h : a.Takes P b) :
    ∀ c ∈ (a.spanTo b).text.toList, P c := by
  obtain ⟨cs, hrest, hcs⟩ := h
  rwa [text_spanTo hrest, String.toList_ofList]

/-- A match takes characters of the kind that its pattern lies within. -/
theorem takes_of_mem_run (hp : p.Within P) (h : b ∈ p.run a) : a.Takes P b := by
  induction p generalizing a b with
  | one class_ =>
    obtain ⟨c, rest, hrest, hc, rfl⟩ := mem_run_one.mp h
    exact ⟨[c], hrest, List.forall_mem_singleton.mpr (hp c hc)⟩
  | seq p q ihp ihq =>
    obtain ⟨m, hm, hb⟩ := mem_run_seq.mp h
    exact (ihp hp.1 hm).trans (ihq hp.2 hb)
  | alt p q ihp ihq =>
    rcases mem_run_alt.mp h with h | h
    · exact ihp hp.1 h
    · exact ihq hp.2 h
  | many p ih =>
    exact rel_of_mem_repeatSteps .refl (fun _ _ _ => .trans) (fun _ _ => ih hp) h
  | group n p ih =>
    obtain ⟨m, hm, rfl⟩ := mem_run_group.mp h
    obtain ⟨cs, hrest, hcs⟩ := ih hp hm
    exact ⟨cs, hrest, hcs⟩
  | empty =>
    rw [mem_run_empty.mp h]
    exact .refl a
  | boundary =>
    rw [(mem_run_boundary.mp h).2]
    exact .refl a
  | start =>
    rw [(mem_run_start.mp h).2]
    exact .refl a
  | finish =>
    rw [(mem_run_finish.mp h).2]
    exact .refl a

/-! ### Groups -/

/-- A place whose texts under a number are of a kind, apart from those of an earlier one. -/
def Place.Keeps (P : Char → Prop) (n : Nat) (a b : Place) : Prop :=
  ∀ span, (n, span) ∈ b.groups → (n, span) ∈ a.groups ∨ ∀ c ∈ span.text.toList, P c

theorem Place.Keeps.of_groups_eq (h : b.groups = a.groups) : a.Keeps P n b := fun _ hspan =>
  .inl (h ▸ hspan)

theorem Place.Keeps.trans {c : Place} (hab : a.Keeps P n b) (hbc : b.Keeps P n c) :
    a.Keeps P n c := fun span hspan => (hbc span hspan).elim (hab span) .inr

/-- The texts that a match keeps under a number are of the kind that the group lies within. -/
theorem keeps_of_mem_run (hp : p.GroupWithin P n) (h : b ∈ p.run a) : a.Keeps P n b := by
  induction p generalizing a b with
  | one class_ =>
    obtain ⟨c, rest, -, -, rfl⟩ := mem_run_one.mp h
    exact .of_groups_eq rfl
  | seq p q ihp ihq =>
    obtain ⟨m, hm, hb⟩ := mem_run_seq.mp h
    exact (ihp hp.1 hm).trans (ihq hp.2 hb)
  | alt p q ihp ihq =>
    rcases mem_run_alt.mp h with h | h
    · exact ihp hp.1 h
    · exact ihq hp.2 h
  | many p ih =>
    exact rel_of_mem_repeatSteps (fun _ => .of_groups_eq rfl) (fun _ _ _ => .trans)
      (fun _ _ => ih hp) h
  | group k p ih =>
    obtain ⟨m, hm, rfl⟩ := mem_run_group.mp h
    intro span hspan
    rcases List.mem_append.mp hspan with hspan | hspan
    · exact ih hp.2 hm span hspan
    · -- the group itself is kept under the number `k`
      obtain ⟨hk, rfl⟩ := Prod.mk.inj (List.mem_singleton.mp hspan)
      exact .inr (takes_of_mem_run (hp.1 hk.symm) hm).forall_mem_spanTo
  | empty =>
    rw [mem_run_empty.mp h]
    exact .of_groups_eq rfl
  | boundary =>
    rw [(mem_run_boundary.mp h).2]
    exact .of_groups_eq rfl
  | start =>
    rw [(mem_run_start.mp h).2]
    exact .of_groups_eq rfl
  | finish =>
    rw [(mem_run_finish.mp h).2]
    exact .of_groups_eq rfl

/-! ### Matches -/

/-- The characters of a match are of the kind that the pattern lies within. -/
theorem forall_mem_span (hp : p.Within P) (h : m ∈ p.findAll cs) :
    ∀ c ∈ m.span.text.toList, P c := by
  obtain ⟨a, b, -, hb, rfl⟩ := exists_place_of_mem_scan h
  exact (takes_of_mem_run hp hb).forall_mem_spanTo

/-- The characters of a group are of the kind that the group lies within. -/
theorem forall_mem_groupText (hp : p.GroupWithin P n) (h : m ∈ p.findAll cs) :
    ∀ c ∈ (m.groupText n).toList, P c := by
  obtain ⟨a, b, -, hb, rfl⟩ := exists_place_of_mem_scan h
  intro c hc
  rw [Match.groupText, Match.group?] at hc
  cases hspan : b.groups.lookup n with
  | none =>
    rw [hspan] at hc
    exact nomatch hc
  | some span =>
    rw [hspan] at hc
    obtain ⟨l, r, hsplit, -⟩ := List.lookup_eq_some_iff.mp hspan
    have hmem : (n, span) ∈ b.groups := by simp [hsplit]
    exact (keeps_of_mem_run hp hb span hmem).elim (fun h => nomatch h) fun h => h c hc

end InvoiceFields.Pattern
