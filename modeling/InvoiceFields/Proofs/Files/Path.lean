import InvoiceFields.Files.Path
import InvoiceFields.Proofs.Text.Trimming

/-!
# Paths in order

The lists of components are in a linear order (`before_trans`, `before_trichotomous`), so that
paths can be sorted (`pairwise_sort`). A path inside a directory leads to the entry that it names
(`fileName_join`).
-/

namespace InvoiceFields.Path

variable {a b : String} {as bs cs : List String} {path name : String}

/-! ### Components in order -/

/-- Whether one component comes before another. -/
def Comes (a b : String) : Prop := rank a < rank b ∨ rank a = rank b ∧ a < b

theorem comes_irrefl (a : String) : ¬ Comes a a := by
  rintro (h | ⟨-, h⟩)
  · exact Nat.lt_irrefl _ h
  · exact String.lt_irrefl a h

theorem Comes.trans {c : String} (h : Comes a b) (h' : Comes b c) : Comes a c := by
  obtain h | ⟨hrank, h⟩ := h
  · obtain h' | ⟨hrank', -⟩ := h'
    · exact .inl (Nat.lt_trans h h')
    · exact .inl (hrank' ▸ h)
  · obtain h' | ⟨hrank', h'⟩ := h'
    · exact .inl (hrank ▸ h')
    · exact .inr ⟨hrank.trans hrank', String.lt_trans h h'⟩

theorem comes_trichotomous (a b : String) : Comes a b ∨ a = b ∨ Comes b a := by
  obtain h | h | h := Nat.lt_trichotomy (rank a) (rank b)
  · exact .inl (.inl h)
  · by_cases hlt : a < b
    · exact .inl (.inr ⟨h, hlt⟩)
    · by_cases hgt : b < a
      · exact .inr (.inr (.inr ⟨h.symm, hgt⟩))
      · exact .inr (.inl (String.le_antisymm (String.not_lt.mp hgt) (String.not_lt.mp hlt)))
  · exact .inr (.inr (.inl h))

/-! ### Lists of components in order -/

theorem before_cons_cons :
    before (a :: as) (b :: bs) ↔ a = b ∧ before as bs ∨ Comes a b := by
  rw [before]
  split
  · rename_i h
    subst h
    simp [comes_irrefl]
  · rename_i h
    simp [h, Comes]

theorem before_irrefl : ∀ as : List String, ¬ before as as
  | [] => Bool.false_ne_true
  | a :: as => by
    rw [before_cons_cons]
    rintro (⟨-, h⟩ | h)
    · exact before_irrefl as h
    · exact comes_irrefl a h

theorem before_trans : ∀ {as bs cs : List String}, before as bs → before bs cs → before as cs
  | _, [], _, h, _ => by simp [before] at h
  | _, _ :: _, [], _, h => by simp [before] at h
  | [], _ :: _, _ :: _, _, _ => rfl
  | _ :: _, _ :: _, _ :: _, h, h' => by
    rw [before_cons_cons] at h h' ⊢
    obtain ⟨rfl, h⟩ | h := h
    · obtain ⟨rfl, h'⟩ | h' := h'
      · exact .inl ⟨rfl, before_trans h h'⟩
      · exact .inr h'
    · obtain ⟨rfl, -⟩ | h' := h'
      · exact .inr h
      · exact .inr (h.trans h')

theorem before_trichotomous : ∀ as bs : List String, before as bs ∨ as = bs ∨ before bs as
  | [], [] => .inr (.inl rfl)
  | [], _ :: _ => .inl rfl
  | _ :: _, [] => .inr (.inr rfl)
  | a :: as, b :: bs => by
    rw [before_cons_cons, before_cons_cons]
    obtain h | rfl | h := comes_trichotomous a b
    · exact .inl (.inr h)
    · obtain h | rfl | h := before_trichotomous as bs
      · exact .inl (.inl ⟨rfl, h⟩)
      · exact .inr (.inl rfl)
      · exact .inr (.inr (.inl ⟨rfl, h⟩))
    · exact .inr (.inr (.inr h))

theorem not_before_trans (h : ¬ before bs as) (h' : ¬ before cs bs) : ¬ before cs as := by
  intro hca
  obtain hab | rfl | hba := before_trichotomous as bs
  · exact h' (before_trans hca hab)
  · exact h' hca
  · exact h hba

theorem not_before_total (as bs : List String) : ¬ before bs as ∨ ¬ before as bs := by
  by_cases h : before bs as
  · exact .inr fun h' => before_irrefl as (before_trans h' h)
  · exact .inl h

/-! ### Sorting -/

theorem sort_perm (paths : List String) : (sort paths).Perm paths := List.mergeSort_perm _ _

/-- No path stands behind one that it comes before. -/
theorem pairwise_sort (paths : List String) :
    (sort paths).Pairwise fun a b => ¬ before (components b) (components a) := by
  have htrans : ∀ a b c : String, (!before (components b) (components a)) = true →
      (!before (components c) (components b)) = true →
        (!before (components c) (components a)) = true := by
    intro a b c
    simpa using not_before_trans
  have htotal : ∀ a b : String,
      (!before (components b) (components a) || !before (components a) (components b)) = true := by
    intro a b
    simpa using not_before_total (components a) (components b)
  refine (List.pairwise_mergeSort htrans htotal paths).imp fun h => ?_
  simpa using h

/-! ### Names of entries -/

/-- A text that can name an entry of a directory. -/
structure IsName (name : String) : Prop where
  nonempty : name ≠ ""
  notHere : name ≠ "."
  notAbove : name ≠ ".."
  noSlash : ∀ c ∈ name.toList, (c == '/') = false

/-- The name stands behind a slash. -/
theorem exists_toList_join {dir : String} (hname : IsName name) (hdir : dir ≠ "") :
    ∃ front, (join dir name).toList = front ++ '/' :: name.toList := by
  have hrelative : isAbsolute name = false := by
    rw [isAbsolute]
    cases hcs : name.toList with
    | nil => rfl
    | cons c cs =>
      have hc := hname.noSlash c (hcs ▸ List.mem_cons_self)
      simpa using hc
  rw [join, if_neg (by simp [hrelative, hdir])]
  split
  · rename_i hslash
    obtain ⟨front, hfront⟩ := List.getLast?_eq_some_iff.mp hslash
    exact ⟨front, by rw [String.toList_append, hfront, List.append_assoc]; rfl⟩
  · exact ⟨dir.toList, by rw [String.toList_append, String.toList_append, List.append_assoc]; rfl⟩

/-- A path inside a directory leads to the entry that it names. -/
theorem fileName_join {dir : String} (hname : IsName name) (hdir : dir ≠ "") :
    fileName (join dir name) = name := by
  obtain ⟨front, hfront⟩ := exists_toList_join hname hdir
  have hsplit : Text.splitWhere (· == '/') (join dir name).toList =
      Text.splitWhere (· == '/') front ++ [name.toList] := by
    rw [hfront, Text.splitWhere_append rfl, Text.splitWhere_eq_singleton hname.noSlash]
  have hlast : (components (join dir name)).getLast? = some name := by
    rw [components, hsplit]
    cases hpieces : Text.splitWhere (· == '/') front with
    | nil => exact absurd hpieces Text.splitWhere_ne_nil
    | cons first rest => simp [hname.nonempty, hname.notHere]
  simp [fileName, hlast, hname.notHere, hname.notAbove]

end InvoiceFields.Path
