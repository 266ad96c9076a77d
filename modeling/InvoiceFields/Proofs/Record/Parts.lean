import InvoiceFields.Proofs.Json.KeyPath
import InvoiceFields.Proofs.Json.Reading
import InvoiceFields.Record.Registry
import Mathlib.Data.List.Nodup

/-!
# Values that are changed in part

A value is written as JSON, changed at one place and read again. If the change is at a part of the
value, this changes that part alone, and the part becomes what is read at the place
(`Json.Editable`). A record is editable at its parts when they are (`Json.Editable.of_parts`).
-/

namespace InvoiceFields.Json

variable {α : Type}

/-! ### Records -/

/-- A record is read from its members one by one. -/
theorem Tree.record_object {σ : Type} {slots : List (Slot σ)} {s : σ}
    (members : List (String × Json)) :
    Tree.record slots s (Tree.ofJson (.object members)) =
      members.foldlM (fun s m => fillSlot slots s m.1 (Tree.ofJson m.2)) s := by
  rw [Tree.ofJson, Tree.record]
  · rw [Tree.members, if_neg Bool.false_ne_true, Members.fold_ofJson]
  · exact nofun

/-- A part that has not been read is read from its member. -/
theorem Slot.fillSlot_eq_ok {σ : Type} (slots : List (Slot σ)) (key : String) (t : Tree)
    (s s' : σ) {get : σ → Option α} {set : σ → α → σ} {read : Tree → Except Fault α}
    (hslot : slots.find? (·.key == key) = some (.part key get set read))
    (hempty : (get s).isSome = false) :
    fillSlot slots s key t = .ok s' ↔ ∃ x, read t = .ok x ∧ set s x = s' := by
  rw [fillSlot, hslot]
  show (if (get s).isSome = true then _ else (read t).map (set s)) = _ ↔ _
  rw [hempty, if_neg Bool.false_ne_true, map_eq_ok]

/-! ### Editing -/

/-- What is written is read again, and if it is changed at a place before, then what is read is
written with what `part` reads at that place. -/
structure Editable (read : Tree → Except Fault α) (write : α → Json)
    (part : List String → Tree → Except Fault Json) : Prop where
  reload : ∀ a, read (Tree.ofJson (write a)) = .ok a
  whole : ∀ t, part [] t = (read t).map write
  inside : ∀ {a name names v changed a'}, (write a).put? v (name :: names) = some changed →
    read (Tree.ofJson changed) = .ok a' →
      ∃ j, part (name :: names) (Tree.ofJson v) = .ok j ∧
        (write a).put? j (name :: names) = some (write a')

variable {read : Tree → Except Fault α} {write : α → Json}
  {part : List String → Tree → Except Fault Json} {a a' : α} {v changed : Json}
  {names : List String}

/-- A change at any place changes what is at that place. -/
theorem Editable.put (h : Editable read write part) (hput : (write a).put? v names = some changed)
    (hread : read (Tree.ofJson changed) = .ok a') :
    ∃ j, part names (Tree.ofJson v) = .ok j ∧ (write a).put? j names = some (write a') := by
  cases names with
  | nil =>
    obtain rfl := Option.some.inj hput
    exact ⟨write a', by rw [h.whole, hread]; rfl, rfl⟩
  | cons name names => exact h.inside hput hread

/-- What is written as a value without places inside can only be changed as a whole. -/
theorem Editable.of_leaf (hreload : ∀ a, read (Tree.ofJson (write a)) = .ok a)
    (hwhole : ∀ t, part [] t = (read t).map write)
    (hleaf : ∀ a name, (write a).child? name = none) : Editable read write part := by
  refine ⟨hreload, hwhole, fun {a name names v changed a'} hput _ => ?_⟩
  rw [put?, hleaf] at hput
  cases hput

/-! ### Parts of records -/

/-- A part of a record `α`, which is written as a member of an object. -/
structure Part (α : Type) where
  {Value : Type}
  key : String
  get : α → Value
  read : Tree → Except Fault Value
  write : Value → Json
  inside : List String → Tree → Except Fault Json
  editable : Editable read write inside

namespace Part

/-- What the part of a record is written as. -/
def value (p : Part α) (a : α) : Json := p.write (p.get a)

/-- What a value is read as is the part of a record. -/
def Reads (p : Part α) (j : Json) (a : α) : Prop := p.read (Tree.ofJson j) = .ok (p.get a)

/-- An object that has a member for each part. -/
def objectOf (parts : List (Part α)) (value : Part α → Json) : Json :=
  .object (parts.map fun p => (p.key, value p))

variable {parts : List (Part α)} {p : Part α} {value value' : Part α → Json}

theorem reads_value (p : Part α) (a : α) : p.Reads (p.value a) a := p.editable.reload (p.get a)

theorem Reads.value_eq (h : p.Reads (p.value a) a') : p.value a' = p.value a := by
  have hget : p.get a = p.get a' := Except.ok.inj ((p.reads_value a).symm.trans h)
  rw [Part.value, Part.value, hget]

theorem objectOf_congr (h : ∀ p ∈ parts, value p = value' p) :
    objectOf parts value = objectOf parts value' :=
  congrArg object (List.map_congr_left fun p hp => congrArg (p.key, ·) (h p hp))

private theorem exists_split (hkeys : (parts.map key).Nodup) (hp : p ∈ parts) :
    ∃ before after, parts = before ++ p :: after ∧ ∀ q ∈ before ++ after, q.key ≠ p.key := by
  obtain ⟨before, after, rfl⟩ := List.append_of_mem hp
  refine ⟨before, after, rfl, fun q hq heq => ?_⟩
  rw [List.map_append, List.map_cons, List.nodup_middle, ← List.map_append] at hkeys
  exact (List.nodup_cons.mp hkeys).1 (heq ▸ List.mem_map_of_mem hq)

private theorem key_not_mem (h : ∀ q ∈ parts, q.key ≠ p.key) :
    p.key ∉ (parts.map fun q => (q.key, value q)).map (·.1) := by
  simpa only [List.map_map, List.mem_map, Function.comp_apply, not_exists, not_and] using h

theorem child?_objectOf (hkeys : (parts.map key).Nodup) (hp : p ∈ parts) :
    (objectOf parts value).child? p.key = some (value p) := by
  obtain ⟨before, after, rfl, hne⟩ := exists_split hkeys hp
  rw [objectOf, List.map_append, List.map_cons]
  exact child?_object_append (key_not_mem fun q hq => hne q (List.mem_append_left _ hq))

theorem putChild_objectOf (hkeys : (parts.map key).Nodup) (hp : p ∈ parts) (j : Json) :
    putChild p.key j (objectOf parts value) =
      objectOf parts fun q => if q.key = p.key then j else value q := by
  obtain ⟨before, after, rfl, hne⟩ := exists_split hkeys hp
  have hothers : ∀ qs : List (Part α), qs ⊆ before ++ after →
      (qs.map fun q => (q.key, if q.key = p.key then j else value q)) =
        qs.map fun q => (q.key, value q) := by
    intro qs hqs
    exact List.map_congr_left fun q hq => congrArg (q.key, ·) (if_neg (hne q (hqs hq)))
  rw [objectOf, objectOf, List.map_append, List.map_append, List.map_cons, List.map_cons,
    if_pos rfl, hothers before (List.subset_append_left _ _),
    hothers after (List.subset_append_right _ _)]
  exact putChild_object_append (key_not_mem fun q hq => hne q (List.mem_append_left _ hq))

end Part

/-- A record is editable at its parts, if reading an object with a member for each part reads every
part from its member. -/
theorem Editable.of_parts {parts : List (Part α)} (hkeys : (parts.map Part.key).Nodup)
    (hwrite : ∀ a, write a = Part.objectOf parts (·.value a))
    (hread : ∀ value a, read (Tree.ofJson (Part.objectOf parts value)) = .ok a ↔
      ∀ p ∈ parts, p.Reads (value p) a)
    (hwhole : ∀ t, part [] t = (read t).map write)
    (hpart : ∀ p ∈ parts, ∀ names t, part (p.key :: names) t = p.inside names t) :
    Editable read write part := by
  refine ⟨fun a => ?_, hwhole, fun {a name names v changed a'} hput hchanged => ?_⟩
  · rw [hwrite, hread]
    exact fun p _ => p.reads_value a
  · obtain ⟨child, inner, hchild, hinner, rfl⟩ := put?_cons_eq_some.mp hput
    obtain ⟨p, hp, rfl⟩ : ∃ p ∈ parts, p.key = name := by
      rw [hwrite] at hchild
      simpa using mem_names_of_child?_object hchild
    rw [hwrite, Part.child?_objectOf hkeys hp] at hchild
    obtain rfl := Option.some.inj hchild
    rw [hwrite, Part.putChild_objectOf hkeys hp, hread] at hchanged
    have hsame : ∀ q ∈ parts, q.key ≠ p.key → q.value a' = q.value a := by
      intro q hq hne
      have hreads := hchanged q hq
      rw [if_neg hne] at hreads
      exact hreads.value_eq
    have hnew := hchanged p hp
    rw [if_pos rfl] at hnew
    obtain ⟨j, hj, hputj⟩ := p.editable.put hinner hnew
    refine ⟨j, (hpart p hp names _).trans hj, ?_⟩
    refine put?_cons_eq_some.mpr ⟨p.value a, p.value a', ?_, hputj, ?_⟩
    · rw [hwrite, Part.child?_objectOf hkeys hp]
    · -- the other members are what they were
      rw [hwrite, hwrite, Part.putChild_objectOf hkeys hp]
      refine Part.objectOf_congr fun q hq => ?_
      by_cases hkey : q.key = p.key
      · rw [if_pos hkey, List.inj_on_of_nodup_map hkeys hq hp hkey]
      · rw [if_neg hkey, hsame q hq hkey]

end InvoiceFields.Json
