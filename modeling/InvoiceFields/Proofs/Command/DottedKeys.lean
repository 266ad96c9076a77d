import InvoiceFields.Command.Configuration
import InvoiceFields.Proofs.Json.Places

/-!
# Dotted keys

A dotted key stands for the place that the texts between its dots lead to, whatever characters they
hold: what is there is looked up, and a change of it is a change of nothing else
(`dottedKey_place`).
-/

namespace InvoiceFields.Command

variable {j j' v value : Json} {key : String}

/-- Looking up a key is looking at its place. -/
theorem lookup_eq_ok_iff : lookup j key = .ok v ↔ j.get? (Json.keyNames key) = some v := by
  rw [lookup, Json.atPointer?_keyPointer]
  cases j.get? (Json.keyNames key) <;> simp

/-- Assigning to a key is changing its place. -/
theorem assign_of_put? (h : j.put? value (Json.keyNames key) = some j') :
    assign j key value = (.ok (), j') := by
  rw [assign, Json.putAtPointer?_keyPointer, h]

theorem assign_of_put?_eq_none (h : j.put? value (Json.keyNames key) = none) :
    assign j key value = (.error (noSuchKey key), j) := by
  rw [assign, Json.putAtPointer?_keyPointer, h]

/-- Something is assigned to a key exactly if something is found there. -/
theorem assign_eq_ok_iff : (assign j key value).1 = .ok () ↔ ∃ v, lookup j key = .ok v := by
  simp only [lookup_eq_ok_iff, ← Option.isSome_iff_exists]
  rw [← Json.isSome_put? _ _ value]
  cases hput : j.put? value (Json.keyNames key) with
  | none => simp [assign_of_put?_eq_none hput]
  | some changed => simp [assign_of_put? hput]

/-- A failed assignment changes nothing. -/
theorem assign_of_ne_ok (h : (assign j key value).1 ≠ .ok ()) :
    assign j key value = (.error (noSuchKey key), j) := by
  cases hput : j.put? value (Json.keyNames key) with
  | none => exact assign_of_put?_eq_none hput
  | some changed => exact absurd (congrArg Prod.fst (assign_of_put? hput)) h

/-- **Dotted keys.** A dotted key addresses the place that the texts between its dots lead to,
verbatim. A value is found there if there is one. Assigning succeeds exactly in this case: the
assigned value is found there then, every place neither above nor below is as it was, and assigning
the old value gives the old whole. Otherwise nothing is changed. -/
theorem dottedKey_place (j : Json) (key : String) :
    Text.join "." (Json.keyNames key) = key ∧
    (∀ name ∈ Json.keyNames key, '.' ∉ name.toList) ∧
    (∀ v, lookup j key = .ok v ↔ j.Reaches (Json.keyNames key) v) ∧
    ∀ value,
      ((assign j key value).1 = .ok () ↔ ∃ v, lookup j key = .ok v) ∧
      (∀ old, lookup j key = .ok old →
        lookup (assign j key value).2 key = .ok value ∧
        (∀ names, ¬ Json.keyNames key <+: names → ¬ names <+: Json.keyNames key →
          ∀ v, (assign j key value).2.Reaches names v ↔ j.Reaches names v) ∧
        assign (assign j key value).2 key old = (.ok (), j)) ∧
      ((assign j key value).1 ≠ .ok () →
        assign j key value = (.error (noSuchKey key), j)) := by
  refine ⟨Json.join_keyNames key, fun _ => Json.dot_not_mem_of_mem_keyNames, fun v =>
    lookup_eq_ok_iff.trans Json.get?_eq_some_iff, fun value =>
    ⟨assign_eq_ok_iff, fun old hold => ?_, assign_of_ne_ok⟩⟩
  have hget : j.get? (Json.keyNames key) = some old := lookup_eq_ok_iff.mp hold
  obtain ⟨changed, hput⟩ := Option.isSome_iff_exists.mp
    ((Json.isSome_put? (Json.keyNames key) j value).trans (Option.isSome_of_eq_some hget))
  have hrestored : changed.put? old (Json.keyNames key) = some j :=
    (Json.put?_of_put?_eq_some hput).trans (Json.put?_eq_self hget)
  rw [assign_of_put? hput]
  refine ⟨lookup_eq_ok_iff.mpr (Json.get?_put?_self hput), fun names hbelow habove v => ?_,
    assign_of_put? hrestored⟩
  exact Json.reaches_congr (Json.get?_put?_apart hput hbelow habove)

/-- A name with a slash and a tilde in front of a digit, and an index. -/
theorem dottedKey_place_escaped :
    let j : Json := .object [("a/b~1", .array [.bool true, .null]), ("jobs", .null)]
    let j' : Json := .object [("a/b~1", .array [.bool true, .string "x"]), ("jobs", .null)]
    Json.keyPointer "a/b~1.1" = "/a~1b~01/1" ∧
    lookup j "a/b~1.1" = .ok .null ∧
    assign j "a/b~1.1" (.string "x") = (.ok (), j') ∧
    lookup j' "a/b~1.1" = .ok (.string "x") ∧
    assign j' "a/b~1.1" .null = (.ok (), j) := by
  intro j j'
  obtain ⟨-, -, -, hassign⟩ := dottedKey_place j "a/b~1.1"
  have hold : lookup j "a/b~1.1" = .ok .null := rfl
  have hnew : assign j "a/b~1.1" (.string "x") = (.ok (), j') := rfl
  obtain ⟨hfound, -, hrestored⟩ := (hassign (.string "x")).2.1 _ hold
  rw [hnew] at hfound hrestored
  exact ⟨rfl, hold, hnew, hfound, hrestored⟩

end InvoiceFields.Command
