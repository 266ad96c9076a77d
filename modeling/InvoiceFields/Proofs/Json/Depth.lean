import InvoiceFields.Proofs.Json.Reading
import InvoiceFields.Proofs.Json.TreeInduction

/-!
# Texts of JSON values

A text that is nested too deeply is read as a tree with marks where the limit is passed. Without the
marks the tree is that of a JSON value, and the text is one of that value (`IsTextOf`). A value that
is not nested so deeply has texts without marks, so they are read as the value itself is
(`IsTextOf.decode_eq`).
-/

namespace InvoiceFields.Json

/-! ### Nesting -/

mutual

/-- The number of arrays and objects that stand inside one another. -/
def depth : Json → Nat
  | array elements => depthElements elements + 1
  | object members => depthMembers members + 1
  | _ => 0

/-- The largest depth of some elements. -/
def depthElements : List Json → Nat
  | [] => 0
  | j :: rest => max (depth j) (depthElements rest)

/-- The largest depth of some members. -/
def depthMembers : List (String × Json) → Nat
  | [] => 0
  | (_, j) :: rest => max (depth j) (depthMembers rest)

end

theorem depthElements_le {n : Nat} :
    ∀ {elements : List Json}, (∀ j ∈ elements, j.depth ≤ n) → depthElements elements ≤ n
  | [], _ => Nat.zero_le n
  | j :: _, h =>
    Nat.max_le.mpr
      ⟨h j List.mem_cons_self, depthElements_le fun k hk => h k (List.mem_cons_of_mem j hk)⟩

theorem depthMembers_le {n : Nat} :
    ∀ {members : List (String × Json)}, (∀ m ∈ members, m.2.depth ≤ n) → depthMembers members ≤ n
  | [], _ => Nat.zero_le n
  | m :: _, h =>
    Nat.max_le.mpr
      ⟨h m List.mem_cons_self, depthMembers_le fun k hk => h k (List.mem_cons_of_mem m hk)⟩

/-! ### Marks -/

mutual

/-- A tree without the marks of what is nested too deeply. -/
def Tree.unmarked : Tree → Tree
  | .array _ elements => .array false elements.unmarked
  | .object _ members => .object false members.unmarked
  | t => t

/-- Elements without marks. -/
def Elements.unmarked : Elements → Elements
  | .cons head tail => .cons head.unmarked tail.unmarked
  | elements => elements

/-- Members without marks. -/
def Members.unmarked : Members → Members
  | .cons key skipped value tail => .cons key skipped value.unmarked tail.unmarked
  | members => members

end

mutual

/-- The marks of a tree inside `n` arrays and objects are at the limit. -/
def Tree.MarkedAt (n : Nat) : Tree → Prop
  | .array deep elements => deep = decide (Tree.maxDepth < n + 1) ∧ elements.MarkedAt (n + 1)
  | .object deep members => deep = decide (Tree.maxDepth < n + 1) ∧ members.MarkedAt (n + 1)
  | _ => True

/-- The marks of elements inside `n` arrays and objects are at the limit. -/
def Elements.MarkedAt (n : Nat) : Elements → Prop
  | .cons head tail => head.MarkedAt n ∧ tail.MarkedAt n
  | _ => True

/-- The marks of members inside `n` arrays and objects are at the limit. -/
def Members.MarkedAt (n : Nat) : Members → Prop
  | .cons _ _ value tail => value.MarkedAt n ∧ tail.MarkedAt n
  | _ => True

end

/-- A text is read as a tree whose marks are at the limit. -/
theorem Reading.markedAt_tree (text : String) : (Reading.ofText text).tree.MarkedAt 0 := by
  have hkept : Tree.Kept (fun _ => True) Tree.MarkedAt Elements.MarkedAt Members.MarkedAt :=
    { null := fun _ => trivial
      bool := fun _ _ => trivial
      number := fun _ _ _ _ => trivial
      string := fun _ _ _ _ => trivial
      array := fun _ _ h => ⟨rfl, h⟩
      object := fun _ _ h => ⟨rfl, h⟩
      broken := fun _ _ => trivial
      noElements := fun _ => trivial
      haltedElements := fun _ _ _ => trivial
      consElements := fun _ _ _ hhead htail => ⟨hhead, htail⟩
      noMembers := fun _ => trivial
      haltedMembers := fun _ _ _ => trivial
      consMembers := fun _ _ _ _ _ hvalue htail => ⟨hvalue, htail⟩ }
  exact hkept.ofText fun _ _ => trivial

/-! ### Trees without marks -/

mutual

/-- A tree that is a value but for its marks has none where the value is not nested too deeply. -/
theorem Tree.eq_ofJson {n : Nat} : ∀ {t : Tree} (j : Json), t.MarkedAt n →
    t.unmarked = Tree.ofJson j → n + j.depth ≤ Tree.maxDepth → t = Tree.ofJson j
  | .null, _, _, h, _ | .bool _, _, _, h, _ | .number .., _, _, h, _ | .string .., _, _, h, _
  | .broken _, _, _, h, _ => h
  | .array deep elements, .array js, hmarks, h, hdepth => by
    obtain ⟨hdeep, helements⟩ := hmarks
    rw [depth] at hdepth
    have hfalse : deep = false := hdeep.trans (decide_eq_false (by omega))
    have hsame : elements.unmarked = Elements.ofJson js := (Tree.array.inj h).2
    rw [hfalse, Elements.eq_ofJson js helements hsame (by omega), Tree.ofJson]
  | .object deep members, .object js, hmarks, h, hdepth => by
    obtain ⟨hdeep, hmembers⟩ := hmarks
    rw [depth] at hdepth
    have hfalse : deep = false := hdeep.trans (decide_eq_false (by omega))
    have hsame : members.unmarked = Members.ofJson js := (Tree.object.inj h).2
    rw [hfalse, Members.eq_ofJson js hmembers hsame (by omega), Tree.ofJson]

theorem Elements.eq_ofJson {n : Nat} : ∀ {elements : Elements} (js : List Json),
    elements.MarkedAt n → elements.unmarked = Elements.ofJson js →
      n + depthElements js ≤ Tree.maxDepth → elements = Elements.ofJson js
  | .closed, _, _, h, _ | .halted .., _, _, h, _ => h
  | .cons head tail, j :: js, hmarks, h, hdepth => by
    rw [depthElements] at hdepth
    obtain ⟨hhead, htail⟩ := Elements.cons.inj h
    rw [Tree.eq_ofJson j hmarks.1 hhead (by omega),
      Elements.eq_ofJson js hmarks.2 htail (by omega), Elements.ofJson]

theorem Members.eq_ofJson {n : Nat} : ∀ {members : Members} (js : List (String × Json)),
    members.MarkedAt n → members.unmarked = Members.ofJson js →
      n + depthMembers js ≤ Tree.maxDepth → members = Members.ofJson js
  | .closed, _, _, h, _ | .halted .., _, _, h, _ => h
  | .cons key skipped value tail, (k, j) :: js, hmarks, h, hdepth => by
    rw [depthMembers] at hdepth
    obtain ⟨rfl, rfl, hvalue, htail⟩ := Members.cons.inj h
    rw [Tree.eq_ofJson j hmarks.1 hvalue (by omega),
      Members.eq_ofJson js hmarks.2 htail (by omega), Members.ofJson]

end

/-- A text of a JSON value, however deep the value is nested. A number that is too large to be held
makes no value. -/
structure IsTextOf (text : String) (j : Json) : Prop where
  tree : (Reading.ofText text).tree.unmarked = Tree.ofJson j
  ends : (Reading.ofText text).trailing = false

mutual

/-- The tree of a value has no marks. -/
theorem Tree.unmarked_ofJson : ∀ j : Json, (Tree.ofJson j).unmarked = Tree.ofJson j
  | .null | .bool _ | .number _ | .string _ => rfl
  | .array js => by rw [Tree.ofJson, Tree.unmarked, Elements.unmarked_ofJson js]
  | .object members => by rw [Tree.ofJson, Tree.unmarked, Members.unmarked_ofJson members]

theorem Elements.unmarked_ofJson : ∀ js : List Json,
    (Elements.ofJson js).unmarked = Elements.ofJson js
  | [] => rfl
  | j :: js => by
    rw [Elements.ofJson, Elements.unmarked, Tree.unmarked_ofJson j, Elements.unmarked_ofJson js]

theorem Members.unmarked_ofJson : ∀ members : List (String × Json),
    (Members.ofJson members).unmarked = Members.ofJson members
  | [] => rfl
  | (_, j) :: rest => by
    rw [Members.ofJson, Members.unmarked, Tree.unmarked_ofJson j, Members.unmarked_ofJson rest]

end

/-- A text is one of a value if its tokens are read as the tree of the value. -/
theorem IsTextOf.of_tokens {text : String} {tokens : List Token} {j : Json}
    (htokens : Token.ofChars text.toList = tokens)
    (hread : Tree.ofTokens tokens = (Tree.ofJson j, [])) : IsTextOf text j := by
  have hreading : Reading.ofText text = ⟨Tree.ofJson j, false⟩ := by
    rw [Reading.ofText, htokens, hread]
    rfl
  exact ⟨by rw [hreading, Tree.unmarked_ofJson], by rw [hreading]⟩

/-- A text of a value that is not nested too deeply is read as the value is. -/
theorem IsTextOf.decode_eq {α : Type} {text : String} {j : Json} {read : Tree → Except Fault α}
    {a : α} (h : IsTextOf text j) (hdepth : j.depth ≤ Tree.maxDepth) :
    decode read text = .ok a ↔ read (Tree.ofJson j) = .ok a := by
  have htree : (Reading.ofText text).tree = Tree.ofJson j :=
    Tree.eq_ofJson j (Reading.markedAt_tree text) h.tree (by omega)
  rw [decode_eq_ok, htree, h.ends]
  exact and_iff_left rfl

end InvoiceFields.Json
