import InvoiceFields.Json.KeyPath
import InvoiceFields.Proofs.Json.Numbers

/-!
# Changing a place inside a JSON value

What is put at a place is found there (`get?_put?_self`), and what is at places that are neither
above nor below stays as it was (`get?_put?_apart`). Different names lead to different children
(`child?_putChild_ne`), because an index has only one numeral. What was there before can be put back
(`put?_of_put?_eq_some` and `put?_eq_self`).
-/

namespace InvoiceFields.Json

variable {j j' v : Json} {name name' : String} {i : Nat}

/-! ### Children -/

/-- A name that stands for an index is its numeral. -/
theorem index?_eq_some_iff : index? name = some i ↔ name = Nat.repr i ∧ i < twoTo 64 := by
  constructor
  · intro h
    rw [index?] at h
    split at h
    case isTrue => exact nomatch h
    case isFalse hzero =>
      obtain ⟨hread, hbound⟩ := Option.filter_eq_some_iff.mp h
      refine ⟨String.toList_inj.mp ?_, of_decide_eq_true hbound⟩
      rw [Text.readNat?] at hread
      split at hread
      case isTrue hdigits =>
        obtain ⟨hne, hall⟩ := Bool.and_eq_true_iff.mp hdigits
        rw [Bool.not_eq_true', List.isEmpty_eq_false_iff] at hne
        obtain rfl := Option.some.inj hread
        rw [Nat.toList_repr]
        refine (Decimal.digits_digitsValue hne hall fun hhead => ?_).symm
        exact Decidable.byContradiction fun hlength => hzero ⟨hhead, hlength⟩
      case isFalse => exact nomatch hread
  · rintro ⟨rfl, hbound⟩
    have hdigits : (Nat.repr i).toList = Decimal.digits i := Nat.toList_repr
    have hzero : ¬ ((Decimal.digits i).head? = some '0' ∧ (Decimal.digits i).length ≠ 1) := by
      rintro ⟨hhead, hlength⟩
      rw [Decimal.head?_digits.mp hhead] at hlength
      exact hlength rfl
    simp only [index?, hdigits]
    rw [if_neg hzero, Decimal.readNat?_digits]
    exact Option.filter_eq_some_iff.mpr ⟨rfl, decide_eq_true hbound⟩

/-- Different names stand for different indices. -/
theorem index?_inj (h : index? name = some i) (h' : index? name' = some i) : name = name' :=
  (index?_eq_some_iff.mp h).1.trans (index?_eq_some_iff.mp h').1.symm

private theorem lookup_replace_self {members : List (String × Json)}
    (h : (members.lookup name).isSome) :
    (putChild.replace name v members).lookup name = some v := by
  induction members with
  | nil => exact nomatch h
  | cons m rest ih =>
    obtain ⟨k, u⟩ := m
    rw [putChild.replace]
    by_cases hk : k = name
    · rw [if_pos hk, hk, List.lookup_cons_self]
    · have hne : (name == k) = false := beq_false_of_ne (Ne.symm hk)
      rw [List.lookup_cons, hne] at h
      rw [if_neg hk, List.lookup_cons, hne]
      exact ih h

private theorem lookup_replace_ne {members : List (String × Json)} (h : name' ≠ name) :
    (putChild.replace name v members).lookup name' = members.lookup name' := by
  induction members with
  | nil => rfl
  | cons m rest ih =>
    obtain ⟨k, u⟩ := m
    rw [putChild.replace]
    by_cases hk : k = name
    · have hne : (name' == k) = false := beq_false_of_ne (hk ▸ h)
      rw [if_pos hk, List.lookup_cons, List.lookup_cons, hne]
    · rw [if_neg hk, List.lookup_cons, List.lookup_cons, ih]

/-- A child that is replaced is the new one. -/
theorem child?_putChild_self (h : (j.child? name).isSome) :
    (putChild name v j).child? name = some v := by
  cases j with
  | object members => exact lookup_replace_self h
  | array elements =>
    rw [child?] at h
    cases hi : index? name with
    | none =>
      rw [hi] at h
      exact nomatch h
    | some i =>
      rw [hi, Option.bind_some, isSome_getElem?] at h
      rw [putChild, child?, hi]
      exact List.getElem?_set_self h
  | _ => exact nomatch h

/-- The other children stay as they were. -/
theorem child?_putChild_ne (h : name' ≠ name) :
    (putChild name v j).child? name' = j.child? name' := by
  cases j with
  | object members => exact lookup_replace_ne h
  | array elements =>
    rw [putChild, child?, child?]
    cases hi : index? name with
    | none => rfl
    | some i =>
      cases hi' : index? name' with
      | none => rfl
      | some i' =>
        have hne : i ≠ i' := by
          rintro rfl
          exact h (index?_inj hi' hi)
        exact List.getElem?_set_ne hne
  | _ => rfl

/-- A child that is replaced twice is the last one. -/
theorem putChild_putChild (name : String) (u v j : Json) :
    putChild name v (putChild name u j) = putChild name v j := by
  cases j with
  | object members =>
    refine congrArg object ?_
    induction members with
    | nil => rfl
    | cons m rest ih =>
      obtain ⟨k, w⟩ := m
      rw [putChild.replace, putChild.replace]
      split
      case isTrue hk => rw [putChild.replace, if_pos hk]
      case isFalse hk => rw [putChild.replace, if_neg hk, ih]
  | array elements =>
    rw [putChild, putChild, putChild]
    cases index? name with
    | none => rfl
    | some i => exact congrArg array (List.set_set u)
  | _ => rfl

/-- Replacing a child by itself changes nothing. -/
theorem putChild_eq_self (h : j.child? name = some v) : putChild name v j = j := by
  cases j with
  | object members =>
    refine congrArg object ?_
    rw [child?] at h
    induction members with
    | nil => rfl
    | cons m rest ih =>
      obtain ⟨k, u⟩ := m
      rw [putChild.replace]
      by_cases hk : k = name
      · rw [hk, List.lookup_cons_self] at h
        rw [if_pos hk, Option.some.inj h]
      · rw [List.lookup_cons, beq_false_of_ne (Ne.symm hk)] at h
        rw [if_neg hk, ih h]
  | array elements =>
    obtain ⟨i, hi, hget⟩ := Option.bind_eq_some_iff.mp h
    obtain ⟨hlt, rfl⟩ := List.getElem?_eq_some_iff.mp hget
    rw [putChild, hi]
    exact congrArg array (List.set_getElem_self hlt)
  | _ => rfl

/-! ### Members of objects -/

section Members

variable {before after : List (String × Json)}

theorem mem_names_of_child?_object {members : List (String × Json)}
    (h : (object members).child? name = some v) : name ∈ members.map (·.1) := by
  rw [child?] at h
  induction members with
  | nil => exact nomatch h
  | cons m rest ih =>
    rw [List.lookup_cons] at h
    split at h
    case h_1 heq => exact List.mem_cons.mpr (.inl (beq_iff_eq.mp heq))
    case h_2 => exact List.mem_cons_of_mem _ (ih h)

theorem child?_object_append (h : name ∉ before.map (·.1)) :
    (object (before ++ (name, v) :: after)).child? name = some v := by
  rw [child?]
  induction before with
  | nil => exact List.lookup_cons_self
  | cons m rest ih =>
    rw [List.map_cons, List.mem_cons, not_or] at h
    rw [List.cons_append, List.lookup_cons, beq_false_of_ne h.1]
    exact ih h.2

theorem putChild_object_append (h : name ∉ before.map (·.1)) :
    putChild name v (object (before ++ (name, j) :: after)) =
      object (before ++ (name, v) :: after) := by
  rw [putChild]
  refine congrArg object ?_
  induction before with
  | nil => exact if_pos rfl
  | cons m rest ih =>
    rw [List.map_cons, List.mem_cons, not_or] at h
    rw [List.cons_append, putChild.replace, if_neg (Ne.symm h.1), ih h.2]
    rfl

end Members

/-! ### Places -/

/-- A change below a name changes the child that the name leads to. -/
theorem put?_cons_eq_some {names : List String} :
    j.put? v (name :: names) = some j' ↔
      ∃ child inner, j.child? name = some child ∧ child.put? v names = some inner ∧
        putChild name inner j = j' := by
  rw [put?]
  cases j.child? name with
  | none => exact iff_of_false nofun (fun ⟨_, _, h, _⟩ => nomatch h)
  | some child =>
    cases hinner : child.put? v names with
    | none => simp [hinner]
    | some inner => simp [hinner]

/-- Something can be put where something is. -/
theorem isSome_put? : ∀ (names : List String) (j v : Json),
    (j.put? v names).isSome = (j.get? names).isSome
  | [], _, _ => rfl
  | name :: names, j, v => by
    rw [put?, get?]
    cases j.child? name with
    | none => rfl
    | some child =>
      have hchild := isSome_put? names child v
      cases hinner : child.put? v names with
      | none => simpa [hinner] using hchild
      | some inner => simpa [hinner] using hchild

/-- Putting what is at a place there changes nothing. -/
theorem put?_eq_self : ∀ {names : List String} {j : Json},
    j.get? names = some v → j.put? v names = some j
  | [], _, h => h.symm
  | _ :: _, _, h => by
    obtain ⟨child, hchild, hget⟩ := Option.bind_eq_some_iff.mp h
    exact put?_cons_eq_some.mpr ⟨child, child, hchild, put?_eq_self hget, putChild_eq_self hchild⟩

/-- What was put at a place before makes no difference to what is put there. -/
theorem put?_of_put?_eq_some {u : Json} : ∀ {names : List String} {j j' : Json},
    j.put? u names = some j' → j'.put? v names = j.put? v names
  | [], _, _, _ => rfl
  | name :: names, j, _, h => by
    obtain ⟨child, inner, hchild, hinner, rfl⟩ := put?_cons_eq_some.mp h
    rw [put?, put?, child?_putChild_self (by rw [hchild]; rfl), hchild]
    simp only [Option.bind_eq_bind, Option.bind_some, put?_of_put?_eq_some hinner,
      putChild_putChild]

/-- What is put at a place is found there. -/
theorem get?_put?_self : ∀ {names : List String} {j j' : Json},
    j.put? v names = some j' → j'.get? names = some v
  | [], _, _, h => by
    obtain rfl := Option.some.inj h
    rfl
  | name :: names, j, _, h => by
    obtain ⟨c, inner, hc, hinner, rfl⟩ := put?_cons_eq_some.mp h
    rw [get?, child?_putChild_self (by rw [hc]; rfl), Option.bind_some]
    exact get?_put?_self hinner

/-- What is at a place that is neither above nor below a changed one stays as it was. -/
theorem get?_put?_apart : ∀ {names names' : List String} {j j' : Json},
    j.put? v names = some j' → ¬ names <+: names' → ¬ names' <+: names →
      j'.get? names' = j.get? names'
  | [], _, _, _, _, h, _ => absurd (List.nil_prefix) h
  | _ :: _, [], _, _, _, _, h => absurd (List.nil_prefix) h
  | name :: names, name' :: names', j, _, h, hbelow, habove => by
    obtain ⟨c, inner, hc, hinner, rfl⟩ := put?_cons_eq_some.mp h
    by_cases hname : name' = name
    · subst hname
      rw [List.cons_prefix_cons, not_and] at hbelow habove
      rw [get?, get?, child?_putChild_self (by rw [hc]; rfl), hc, Option.bind_some,
        Option.bind_some]
      exact get?_put?_apart hinner (hbelow rfl) (habove rfl)
    · rw [get?, get?, child?_putChild_ne hname]

/-! ### Numbers -/

private theorem fits_child? (h : (Tree.ofJson j).Fits) (hchild : j.child? name = some v) :
    (Tree.ofJson v).Fits := by
  cases j with
  | object members =>
    obtain ⟨before, after, rfl, -⟩ := List.lookup_eq_some_iff.mp hchild
    exact Members.fits_ofJson.mp h (name, v) (by simp)
  | array elements =>
    obtain ⟨i, -, hi⟩ := Option.bind_eq_some_iff.mp hchild
    exact Elements.fits_ofJson.mp h v (List.mem_of_getElem? hi)
  | _ => exact nomatch hchild

private theorem fits_putChild (h : (Tree.ofJson j).Fits) (hv : (Tree.ofJson v).Fits) :
    (Tree.ofJson (putChild name v j)).Fits := by
  cases j with
  | object members =>
    have hreplace : ∀ members : List (String × Json), (Members.ofJson members).Fits →
        (Members.ofJson (putChild.replace name v members)).Fits := by
      intro members
      induction members with
      | nil => exact id
      | cons m rest ih =>
        rintro ⟨hm, hrest⟩
        rw [putChild.replace]
        split
        case isTrue => exact ⟨hv, hrest⟩
        case isFalse => exact ⟨hm, ih hrest⟩
    exact hreplace members h
  | array elements =>
    rw [putChild]
    cases index? name with
    | none => exact h
    | some i =>
      refine Elements.fits_ofJson.mpr fun u hu => ?_
      rcases List.mem_or_eq_of_mem_set hu with hu | rfl
      · exact Elements.fits_ofJson.mp h u hu
      · exact hv
  | _ => exact h

/-- A value that is changed at a place has only numbers of the old value and of the new one. -/
theorem fits_put? : ∀ {names : List String} {j j' : Json}, (Tree.ofJson j).Fits →
    (Tree.ofJson v).Fits → j.put? v names = some j' → (Tree.ofJson j').Fits
  | [], _, _, _, hv, h => by
    obtain rfl := Option.some.inj h
    exact hv
  | _ :: _, _, _, hj, hv, h => by
    obtain ⟨c, inner, hc, hinner, rfl⟩ := put?_cons_eq_some.mp h
    exact fits_putChild hj (fits_put? (fits_child? hj hc) hv hinner)

end InvoiceFields.Json
