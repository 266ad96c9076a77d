import InvoiceFields.Json.Basic
import Mathlib.Data.String.Basic

/-!
# Canonical forms of JSON values

The canonical form of an object has its members in another order. Where no name is repeated it has
all of them (`canonical_object`), and what is looked up by name is the canonical form of what stands
there (`filter_name_of_perm`).
-/

namespace InvoiceFields.Json

variable {α : Type} {key : String} {value : α} {sorted members members' : List (String × α)}

/-- No name is repeated. -/
def NamesDiffer (members : List (String × α)) : Prop := (members.map (·.1)).Nodup

theorem NamesDiffer.of_perm (h : NamesDiffer members) (hperm : members'.Perm members) :
    NamesDiffer members' :=
  (hperm.map Prod.fst).nodup_iff.mpr h

/-- The name of a member occurs neither before nor behind it. -/
theorem NamesDiffer.not_mem_split {before after : List (String × α)}
    (h : NamesDiffer (before ++ (key, value) :: after)) :
    key ∉ before.map (·.1) ∧ key ∉ after.map (·.1) := by
  have hfirst : NamesDiffer ((key, value) :: (before ++ after)) :=
    h.of_perm List.perm_middle.symm
  rw [NamesDiffer, List.map_cons, List.nodup_cons, List.map_append, List.mem_append, not_or]
    at hfirst
  exact hfirst.1

theorem canonicalElements_eq_map : ∀ js : List Json, canonicalElements js = js.map canonical
  | [] => rfl
  | j :: js => by rw [canonicalElements, List.map_cons, canonicalElements_eq_map js]

theorem canonicalMembers_eq_map :
    ∀ members : List (String × Json),
      canonicalMembers members = members.map fun m => (m.1, m.2.canonical)
  | [] => rfl
  | (k, j) :: rest => by rw [canonicalMembers, List.map_cons, canonicalMembers_eq_map rest]

/-! ### Sorting -/

theorem mem_insertMember {m : String × α} : ∀ {sorted : List (String × α)},
    m ∈ insertMember key value sorted → m = (key, value) ∨ m ∈ sorted
  | [], h => .inl (List.mem_singleton.mp h)
  | (k, v) :: rest, h => by
    rw [insertMember] at h
    split at h
    case isTrue => exact List.mem_cons.mp h
    case isFalse =>
      split at h
      case isTrue => exact (List.mem_cons.mp h).imp_right (List.mem_cons_of_mem _)
      case isFalse =>
        rcases List.mem_cons.mp h with rfl | h
        · exact .inr List.mem_cons_self
        · exact (mem_insertMember h).imp_right (List.mem_cons_of_mem _)

private theorem mem_foldl_insertMember {m : String × α} :
    ∀ (members sorted : List (String × α)),
      m ∈ members.foldl (fun sorted (k, v) => insertMember k v sorted) sorted →
        m ∈ members ∨ m ∈ sorted
  | [], _, h => .inr h
  | (_, _) :: rest, _, h => by
    rcases mem_foldl_insertMember rest _ h with h | h
    · exact .inl (List.mem_cons_of_mem _ h)
    · rcases mem_insertMember h with rfl | h
      · exact .inl List.mem_cons_self
      · exact .inr h

/-- Sorting adds no members. -/
theorem mem_of_mem_sortMembers {m : String × α} (h : m ∈ sortMembers members) : m ∈ members :=
  (mem_foldl_insertMember members [] h).resolve_right List.not_mem_nil

/-- A member of a new name is added. -/
theorem insertMember_perm :
    ∀ {sorted : List (String × α)}, key ∉ sorted.map (·.1) →
      (insertMember key value sorted).Perm ((key, value) :: sorted)
  | [], _ => .refl _
  | (k, v) :: rest, h => by
    rw [List.map_cons, List.mem_cons, not_or] at h
    rw [insertMember]
    split
    case isTrue => exact .refl _
    case isFalse =>
      rw [if_neg h.1]
      exact ((insertMember_perm h.2).cons (k, v)).trans (.swap _ _ _)

private theorem foldl_insertMember_perm :
    ∀ {members sorted : List (String × α)}, NamesDiffer (members ++ sorted) →
      (members.foldl (fun sorted (k, v) => insertMember k v sorted) sorted).Perm
        (members ++ sorted)
  | [], _, _ => .refl _
  | (k, v) :: rest, sorted, h => by
    have hnew : k ∉ sorted.map (·.1) := by
      rw [NamesDiffer, List.cons_append, List.map_cons, List.nodup_cons, List.map_append,
        List.mem_append, not_or] at h
      exact h.1.2
    have hinserted : (insertMember k v sorted).Perm ((k, v) :: sorted) := insertMember_perm hnew
    have hmoved : (rest ++ insertMember k v sorted).Perm ((k, v) :: rest ++ sorted) :=
      (hinserted.append_left rest).trans List.perm_middle
    exact (foldl_insertMember_perm (h.of_perm hmoved)).trans hmoved

/-- Members of different names can be inserted in any order. -/
theorem insertMember_comm {key₁ key₂ : String} (h : key₁ ≠ key₂) (a b : α) :
    ∀ sorted : List (String × α), insertMember key₁ a (insertMember key₂ b sorted) =
      insertMember key₂ b (insertMember key₁ a sorted)
  | [] => by
    rcases lt_trichotomy key₁ key₂ with hlt | heq | hgt
    · simp [insertMember, hlt, hlt.not_gt, h.symm]
    · exact absurd heq h
    · simp [insertMember, hgt, hgt.not_gt, h]
  | (k, v) :: rest => by
    have ih := insertMember_comm h a b rest
    have horder := lt_trichotomy key₁ key₂
    have hfirst := lt_trichotomy key₁ k
    have hsecond := lt_trichotomy key₂ k
    grind [insertMember]

/-- Sorting members of different names only changes their order. -/
theorem sortMembers_perm (h : NamesDiffer members) : (sortMembers members).Perm members := by
  have hempty : NamesDiffer (members ++ []) := by rwa [List.append_nil]
  have hperm := foldl_insertMember_perm hempty
  rwa [List.append_nil] at hperm

/-- The canonical form of an object without repeated names has the canonical forms of all its
members. -/
theorem canonical_object {members : List (String × Json)} (h : NamesDiffer members) :
    ∃ members', canonical (.object members) = .object members' ∧
      members'.Perm (members.map fun m => (m.1, m.2.canonical)) := by
  refine ⟨_, rfl, ?_⟩
  rw [canonicalMembers_eq_map]
  refine sortMembers_perm ?_
  rwa [NamesDiffer, List.map_map]

/-! ### Looking up -/

theorem filter_name_eq_nil (h : key ∉ members.map (·.1)) : members.filter (·.1 == key) = [] := by
  rw [List.filter_eq_nil_iff]
  intro m hm hkey
  exact h (List.mem_map.mpr ⟨m, hm, beq_iff_eq.mp hkey⟩)

theorem filter_other_names_eq_self (h : key ∉ members.map (·.1)) :
    members.filter (·.1 != key) = members := by
  rw [List.filter_eq_self]
  intro m hm
  rw [bne_iff_ne]
  exact fun hkey => h (List.mem_map.mpr ⟨m, hm, hkey⟩)

/-- At most one member has a name. -/
theorem filter_name_of_perm (h : NamesDiffer members) (hperm : members'.Perm members) :
    members'.filter (·.1 == key) = members.filter (·.1 == key) := by
  have hfilter := hperm.filter (·.1 == key)
  have hdiffer : ((members.filter (·.1 == key)).map (·.1)).Nodup :=
    (List.filter_sublist.map _).nodup h
  cases hfound : members.filter (·.1 == key) with
  | nil =>
    rw [hfound] at hfilter
    exact hfilter.eq_nil
  | cons a rest =>
    cases rest with
    | nil =>
      rw [hfound] at hfilter
      exact List.perm_singleton.mp hfilter
    | cons b rest =>
      have hname : ∀ m ∈ a :: b :: rest, m.1 = key := by
        intro m hm
        rw [← hfound] at hm
        exact beq_iff_eq.mp (List.mem_filter.mp hm).2
      have hsame : a.1 = b.1 := (hname a (by simp)).trans (hname b (by simp)).symm
      rw [hfound, List.map_cons, List.map_cons, hsame] at hdiffer
      exact absurd List.mem_cons_self (List.nodup_cons.mp hdiffer).1

end InvoiceFields.Json
