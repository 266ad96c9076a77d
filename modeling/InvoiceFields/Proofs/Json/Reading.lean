import InvoiceFields.Json.Decode
import InvoiceFields.Proofs.Answer

/-!
# What readers of JSON keep

A reader goes through elements, members or the parts of a record with a state. What every step
keeps holds of the state at the end (`Members.fold_induction`, `Tree.record_induction`), and a list
has only values that its elements were read as (`Tree.exists_of_mem_list`). Each step takes one of
the trees directly inside the tree (`Tree.parts`). The tree of a value is read as that value
(`Tree.json_ofJson`), and a text as its tree is (`decode_eq_ok`).
-/

namespace InvoiceFields.Json

variable {σ α : Type} {P : σ → Prop} {s s' : σ}

/-! ### Parts -/

/-- The trees of elements. -/
def Elements.trees : Elements → List Tree
  | .cons head tail => head :: tail.trees
  | _ => []

/-- The trees of members. -/
def Members.trees : Members → List Tree
  | .cons _ _ value tail => value :: tail.trees
  | _ => []

/-- The trees directly inside a tree. -/
def Tree.parts : Tree → List Tree
  | .array _ elements => elements.trees
  | .object _ members => members.trees
  | _ => []

/-! ### Members -/

/-- What every member keeps holds behind all members. -/
theorem Members.fold_induction {step : σ → String → Tree → Except Fault σ} :
    ∀ {members : Members} {s : σ},
      (∀ s key, ∀ value ∈ members.trees, ∀ s', P s → step s key value = .ok s' → P s') → P s →
        members.fold step s = .ok s' → P s'
  | .closed, _, _, hs, h => by
    cases h
    exact hs
  | .halted _ _, _, _, _, h => nomatch h
  | .cons key _ value tail, s, hstep, hs, h => by
    rw [Members.fold] at h
    obtain ⟨k, -, h⟩ := bind_eq_ok.mp h
    obtain ⟨s₁, hs₁, h⟩ := bind_eq_ok.mp h
    exact fold_induction
      (fun s key value hvalue => hstep s key value (List.mem_cons_of_mem _ hvalue))
      (hstep s k value List.mem_cons_self s₁ hs hs₁) h

/-- What every member keeps holds behind an object. -/
theorem Tree.members_induction {step : σ → String → Tree → Except Fault σ} {t : Tree}
    (hstep : ∀ s key, ∀ value ∈ t.parts, ∀ s', P s → step s key value = .ok s' → P s')
    (hs : P s) (h : t.members step s = .ok s') : P s' := by
  unfold Tree.members at h
  split at h
  case h_1 deep members =>
    split at h
    case isTrue => exact nomatch h
    case isFalse => exact Members.fold_induction hstep hs h
  case h_2 => exact nomatch h

/-! ### Elements -/

/-- A list has only values that its elements were read as. -/
theorem Elements.exists_of_mem_each {read : Tree → Except Fault α} {a : α} :
    ∀ {elements : Elements} {as : List α}, elements.each read = .ok as → a ∈ as →
      ∃ t ∈ elements.trees, read t = .ok a
  | .closed, _, h, ha => by
    cases h
    exact nomatch ha
  | .halted _ _, _, h, _ => nomatch h
  | .cons head tail, _, h, ha => by
    rw [Elements.each] at h
    obtain ⟨first, hfirst, h⟩ := bind_eq_ok.mp h
    obtain ⟨rest, hrest, h⟩ := bind_eq_ok.mp h
    obtain rfl := pure_eq_ok.mp h
    rcases List.mem_cons.mp ha with rfl | ha
    · exact ⟨head, List.mem_cons_self, hfirst⟩
    · obtain ⟨t, ht, hread⟩ := exists_of_mem_each hrest ha
      exact ⟨t, List.mem_cons_of_mem head ht, hread⟩

theorem Tree.exists_of_mem_list {read : Tree → Except Fault α} {t : Tree} {as : List α} {a : α}
    (h : t.list read = .ok as) (ha : a ∈ as) : ∃ part ∈ t.parts, read part = .ok a := by
  unfold Tree.list at h
  split at h
  case h_1 deep elements =>
    split at h
    case isTrue => exact nomatch h
    case isFalse => exact Elements.exists_of_mem_each h ha
  case h_2 => exact nomatch h

/-! ### Records -/

section Record

variable {slots : List (Slot σ)}

private theorem Elements.fill_induction {count : Nat} : ∀ {slots : List (Slot σ)} {s : σ}
    {elements : Elements}, (∀ slot ∈ slots, ∀ s, ∀ part ∈ elements.trees, ∀ s', P s →
      slot.fill s part = .ok s' → P s') → P s → elements.fill count slots s = .ok s' → P s'
  | [], _, elements, _, hs, h => by
    rw [Elements.fill] at h
    obtain ⟨-, -, h⟩ := bind_eq_ok.mp h
    obtain rfl := pure_eq_ok.mp h
    exact hs
  | _ :: _, _, .closed, _, hs, h => by
    cases h
    exact hs
  | _ :: _, _, .halted _ _, _, _, h => nomatch h
  | slot :: slots, s, .cons head tail, hfill, hs, h => by
    rw [Elements.fill] at h
    obtain ⟨s₁, hs₁, h⟩ := bind_eq_ok.mp h
    exact fill_induction
      (fun slot hslot s part hpart =>
        hfill slot (List.mem_cons_of_mem _ hslot) s part (List.mem_cons_of_mem _ hpart))
      (hfill slot List.mem_cons_self s head List.mem_cons_self s₁ hs hs₁) h

/-- A member fills the part of its key, which must be open; one without a part is passed over. -/
theorem fillSlot_eq_ok {key : String} {value : Tree} :
    fillSlot slots s key value = .ok s' ↔
      (∃ slot, slots.find? (·.key == key) = some slot ∧ slot.isFilled s = false ∧
        slot.fill s value = .ok s') ∨
      (slots.find? (·.key == key) = none ∧ value.skip = .ok () ∧ s = s') := by
  rw [fillSlot]
  cases slots.find? (·.key == key) with
  | none =>
    dsimp only
    simp only [bind_eq_ok, pure_eq_ok, reduceCtorEq, false_and, exists_false, true_and, false_or]
    exact ⟨fun ⟨(), hskip, hs⟩ => ⟨hskip, hs⟩, fun ⟨hskip, hs⟩ => ⟨(), hskip, hs⟩⟩
  | some slot => cases hfilled : slot.isFilled s <;> simp [hfilled]

/-- What every part of a record keeps holds of the record. -/
theorem Tree.record_induction {t : Tree}
    (hfill : ∀ slot ∈ slots, ∀ s, ∀ part ∈ t.parts, ∀ s', P s → slot.fill s part = .ok s' → P s')
    (hs : P s) (h : t.record slots s = .ok s') : P s' := by
  unfold Tree.record at h
  split at h
  case h_1 deep elements =>
    split at h
    case isTrue => exact nomatch h
    case isFalse => exact Elements.fill_induction hfill hs h
  case h_2 =>
    refine members_induction (fun s key value hvalue s' hs h => ?_) hs h
    rcases fillSlot_eq_ok.mp h with ⟨slot, hslot, -, hfilled⟩ | ⟨-, -, rfl⟩
    · exact hfill slot (List.mem_of_find?_eq_some hslot) s value hvalue s' hs hfilled
    · exact hs

end Record

/-! ### Trees of values -/

/-- Members are gone through one by one. -/
theorem Members.fold_ofJson (step : σ → String → Tree → Except Fault σ) :
    ∀ (members : List (String × Json)) (s : σ),
      (Members.ofJson members).fold step s =
        members.foldlM (fun s m => step s m.1 (Tree.ofJson m.2)) s
  | [], _ => rfl
  | (k, j) :: rest, s => by
    rw [Members.ofJson, Members.fold, List.foldlM_cons]
    cases h : step s k (Tree.ofJson j) with
    | error f => simp only [bind, Except.bind, h]
    | ok s' =>
      simp only [bind, Except.bind, h]
      exact fold_ofJson step rest s'

mutual

/-- The tree of a value is read as the value. -/
theorem Tree.json_ofJson : ∀ j : Json, (Tree.ofJson j).json = .ok j
  | .null | .bool _ | .number _ | .string _ => rfl
  | .array js => by
    rw [Tree.ofJson, Tree.json, if_neg Bool.false_ne_true, Elements.json_ofJson js, Except.map]
  | .object members => by
    rw [Tree.ofJson, Tree.json, if_neg Bool.false_ne_true, Members.json_ofJson members, Except.map]

theorem Elements.json_ofJson : ∀ js : List Json, (Elements.ofJson js).json = .ok js
  | [] => rfl
  | j :: js => by
    rw [Elements.ofJson, Elements.json, Tree.json_ofJson j, Elements.json_ofJson js]
    rfl

theorem Members.json_ofJson : ∀ members : List (String × Json),
    (Members.ofJson members).json = .ok members
  | [] => rfl
  | (k, j) :: rest => by
    rw [Members.ofJson, Members.json, Tree.json_ofJson j, Members.json_ofJson rest]
    rfl

end

/-- An array of values is read as a list of them. -/
theorem Tree.list_json_ofJson (js : List Json) :
    (Tree.ofJson (.array js)).list Tree.json = .ok js := by
  have heach : ∀ js : List Json, (Elements.ofJson js).each Tree.json = .ok js := by
    intro js
    induction js with
    | nil => rfl
    | cons j js ih =>
      rw [Elements.ofJson, Elements.each, Tree.json_ofJson, ih]
      rfl
  rw [Tree.ofJson, Tree.list, if_neg Bool.false_ne_true, heach]

/-! ### Texts -/

/-- A text is read as its tree is, if nothing stands behind the value. -/
theorem decode_eq_ok {read : Tree → Except Fault α} {text : String} {a : α} :
    decode read text = .ok a ↔
      read (Reading.ofText text).tree = .ok a ∧ (Reading.ofText text).trailing = false := by
  simp only [decode, bind_eq_ok]
  cases (Reading.ofText text).trailing with
  | true => simp
  | false => simp

end InvoiceFields.Json
