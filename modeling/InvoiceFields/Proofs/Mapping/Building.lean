import InvoiceFields.Proofs.Json.Reading
import InvoiceFields.Record.Mapping

/-!
# How mappings come about

A mapping starts empty and gets attempts for one field after another. `Mapping.Built` is what can
come about so; a built mapping lists a field at most once, and mappings in JSON are built.
-/

namespace InvoiceFields.Mapping

open Json (Tree)

variable {m m' : Mapping} {f g : Field} {attempts : List Attempt}

/-! ### Adding attempts -/

private theorem map_fst_pushEntry (f : Field) (attempts : List Attempt) :
    ∀ entries : List (Field × List Attempt), (pushEntry f attempts entries).map (·.1) =
      if f ∈ entries.map (·.1) then entries.map (·.1) else entries.map (·.1) ++ [f]
  | [] => rfl
  | (g, existing) :: rest => by
    rw [pushEntry]
    by_cases hgf : g = f
    · simp [hgf]
    · have hfg : ¬ f = g := fun h => hgf h.symm
      rw [if_neg hgf, List.map_cons, List.map_cons, map_fst_pushEntry f attempts rest]
      simp only [List.mem_cons, hfg, false_or]
      split <;> rfl

/-- A new field is listed behind the others. -/
theorem fields_push (m : Mapping) (f : Field) (attempts : List Attempt) :
    (m.push f attempts).fields = if f ∈ m.fields then m.fields else m.fields ++ [f] :=
  map_fst_pushEntry f attempts m.entries

private theorem lookup_pushEntry (f g : Field) (attempts : List Attempt) :
    ∀ entries : List (Field × List Attempt), (pushEntry f attempts entries).lookup g =
      if g = f then some ((entries.lookup f).getD [] ++ attempts) else entries.lookup g
  | [] => by
    rw [pushEntry, List.lookup_cons, List.lookup_nil, List.lookup_nil]
    by_cases hgf : g = f
    · simp [hgf]
    · rw [beq_eq_false_iff_ne.mpr hgf, if_neg hgf]
  | (h, existing) :: rest => by
    rw [pushEntry]
    by_cases hhf : h = f
    · subst hhf
      by_cases hgh : g = h
      · simp [hgh]
      · simp [List.lookup_cons, beq_eq_false_iff_ne.mpr hgh, hgh]
    · rw [if_neg hhf, List.lookup_cons, List.lookup_cons, List.lookup_cons,
        lookup_pushEntry f g attempts rest, beq_eq_false_iff_ne.mpr (Ne.symm hhf)]
      by_cases hgh : g = h
      · subst hgh
        simp [hhf]
      · rw [beq_eq_false_iff_ne.mpr hgh]

/-- Attempts are added behind those that the field has, and no other field gets any. -/
theorem attempts?_push (m : Mapping) (f : Field) (attempts : List Attempt) (g : Field) :
    (m.push f attempts).attempts? g =
      if g = f then some ((m.attempts? f).getD [] ++ attempts) else m.attempts? g :=
  lookup_pushEntry f g attempts m.entries

/-! ### Built mappings -/

/-- The mappings that can be built. -/
inductive Built : Mapping → Prop
  | empty : Built .empty
  | push {m : Mapping} (built : Built m) (f : Field) (attempts : List Attempt) :
      Built (m.push f attempts)

/-- A built mapping lists a field at most once. -/
theorem Built.nodup_fields (h : m.Built) : m.fields.Nodup := by
  induction h with
  | empty => exact List.nodup_nil
  | @push m built f attempts ih =>
    rw [fields_push]
    split
    case isTrue => exact ih
    case isFalse hnew =>
      rw [List.nodup_append]
      refine ⟨ih, List.nodup_cons.mpr ⟨List.not_mem_nil, List.nodup_nil⟩, ?_⟩
      rintro g hg _ hf rfl
      obtain rfl := List.mem_singleton.mp hf
      exact hnew hg

/-! ### Mappings in JSON -/

/-- A member adds the attempts of its records to the field that its key names. -/
theorem readMember_eq_ok {key : String} {value : Tree} :
    readMember m key value = .ok m' ↔ ∃ f records, Field.ofKey key = .ok f ∧
      value.list Tree.json = .ok records ∧ m.push f (records.map Attempt.ofRecord) = m' := by
  rw [readMember]
  cases Field.ofKey key with
  | error e => simp
  | ok f => simp only [bind_eq_ok, pure_eq_ok, Except.ok.injEq, exists_and_left, exists_eq_left']

theorem built_of_ofTree {t : Tree} (h : ofTree t = .ok m) : m.Built := by
  refine Tree.members_induction (fun m key value _ m' hm h => ?_) .empty h
  obtain ⟨f, records, -, -, rfl⟩ := readMember_eq_ok.mp h
  exact hm.push f _

end InvoiceFields.Mapping
