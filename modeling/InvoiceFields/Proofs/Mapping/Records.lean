import InvoiceFields.Proofs.Json.Canonical
import InvoiceFields.Proofs.Json.Reading
import InvoiceFields.Record.Rule

/-!
# What records are read as

A record that is an attempt (`Attempt.Parses`) makes that attempt, and any other record makes one
that matches no document. Records are read in canonical form, where members are sorted and those of
a repeated name are lost; without repeated names this makes no difference (`ofRecord_of_parses`,
`ofRecord_of_not_parses`).
-/

namespace InvoiceFields

open Json (Fault Tree Members NamesDiffer)

variable {members members' : List (String × Json)} {key : String} {j : Json}

/-! ### Canonical members

Members that are looked up by name are read the same in canonical form. -/

theorem textOf?_canonical (j : Json) : textOf? j.canonical = textOf? j := by
  cases j <;> rfl

theorem integerOf?_canonical (j : Json) : integerOf? j.canonical = integerOf? j := by
  cases j <;> rfl

theorem textsOf?_canonical (j : Json) : textsOf? j.canonical = textsOf? j := by
  cases j with
  | array js =>
    rw [Json.canonical, textsOf?, textsOf?, Json.canonicalElements_eq_map, List.mapM_map]
    congr 1
    exact funext textOf?_canonical
  | _ => rfl

theorem Segment.ofJson?_canonical (j : Json) : Segment.ofJson? j.canonical = Segment.ofJson? j := by
  cases j <;> rfl

theorem RuleKind.ofJson?_canonical (j : Json) :
    RuleKind.ofJson? j.canonical = RuleKind.ofJson? j := by
  cases j <;> rfl

theorem mem_of_onlyMember? (h : onlyMember? key members = some j) : (key, j) ∈ members := by
  rw [onlyMember?] at h
  split at h
  case h_1 key' j' hfound =>
    obtain rfl := Option.some.inj h
    have hmem : (key', j') ∈ members.filter (·.1 == key) := by
      rw [hfound]
      exact List.mem_cons_self
    obtain ⟨hmem, hkey⟩ := List.mem_filter.mp hmem
    exact beq_iff_eq.mp hkey ▸ hmem
  case h_2 => exact nomatch h

/-- Some members are the canonical forms of others, in any order. -/
structure CanonicalOf (members' members : List (String × Json)) : Prop where
  only : ∀ key, onlyMember? key members' = (onlyMember? key members).map Json.canonical
  has : ∀ key, hasMember key members' = hasMember key members

theorem canonicalOf_of_perm (h : NamesDiffer members)
    (hperm : members'.Perm (members.map fun m => (m.1, m.2.canonical))) :
    CanonicalOf members' members := by
  have hdiffer : NamesDiffer (members.map fun m => (m.1, m.2.canonical)) := by
    rwa [NamesDiffer, List.map_map]
  have hfilter : ∀ key, members'.filter (·.1 == key) =
      (members.filter (·.1 == key)).map fun m => (m.1, m.2.canonical) := by
    intro key
    rw [Json.filter_name_of_perm hdiffer hperm, List.filter_map]
    rfl
  constructor
  · intro key
    rw [onlyMember?, onlyMember?, hfilter]
    generalize members.filter (·.1 == key) = found
    rcases found with _ | ⟨m, _ | ⟨m', rest⟩⟩ <;> rfl
  · intro key
    rw [hasMember, hasMember, hperm.any_eq, List.any_map]
    rfl

theorem Rule.ofMembers?_canonical (h : CanonicalOf members' members) (kind : RuleKind) :
    Rule.ofMembers? members' kind = Rule.ofMembers? members kind := by
  cases kind with
  | unsupported => rfl
  | _ =>
    simp only [Rule.ofMembers?, h.only, h.has, Option.bind_eq_bind, Option.bind_map,
      Function.comp_def, textOf?_canonical, integerOf?_canonical, textsOf?_canonical,
      Segment.ofJson?_canonical]

/-! ### Conditions -/

/-- An object is a condition when a name is its only key and null the value. -/
theorem Validator.ofTree_object_eq_ok {v : Validator} :
    Validator.ofTree (Tree.ofJson (.object members)) = .ok v ↔
      ∃ name, members = [(name, .null)] ∧ Validator.ofNameText name = .ok v := by
  cases members with
  | nil =>
    refine iff_of_false (fun h => by cases h) ?_
    rintro ⟨_, h, -⟩
    cases h
  | cons m rest =>
    obtain ⟨name, j⟩ := m
    rw [Tree.ofJson, Members.ofJson, Validator.ofTree, if_neg Bool.false_ne_true]
    simp only [bind_eq_ok, Except.ok.injEq, exists_eq_left']
    constructor
    · rintro ⟨a, ha, h⟩
      -- only null may follow, and nothing behind it
      cases j <;> try cases h
      cases rest <;> cases h
      exact ⟨name, rfl, ha⟩
    · rintro ⟨name', h, hname⟩
      cases h
      exact ⟨v, hname, rfl⟩

/-- The condition of a record has no repeated names. -/
def Validator.Unrepeated : Json → Prop
  | .object inner => NamesDiffer inner
  | _ => True

private theorem eq_null_of_canonical (h : j.canonical = .null) : j = .null := by
  cases j <;> first | rfl | exact nomatch h

/-- A condition is read the same in canonical form. -/
theorem Validator.ofTree_canonical {v : Validator} (h : Validator.Unrepeated j) :
    Validator.ofTree (Tree.ofJson j.canonical) = .ok v ↔
      Validator.ofTree (Tree.ofJson j) = .ok v := by
  cases j with
  | object inner =>
    obtain ⟨sorted, hsorted, hperm⟩ := Json.canonical_object h
    rw [hsorted, ofTree_object_eq_ok, ofTree_object_eq_ok]
    refine exists_congr fun name => and_congr_left fun _ => ?_
    constructor
    · rintro rfl
      have hmap : [(name, Json.null)] = inner.map fun m => (m.1, m.2.canonical) :=
        List.singleton_perm.mp hperm
      obtain ⟨⟨name', j⟩, rfl, hj⟩ := List.map_eq_singleton_iff.mp hmap.symm
      obtain ⟨rfl, hnull⟩ := Prod.mk.inj hj
      obtain rfl : j = .null := eq_null_of_canonical hnull
      rfl
    · rintro rfl
      exact List.perm_singleton.mp hperm
  | array js => exact iff_of_false (nofun) (nofun)
  | _ => exact Iff.rfl

theorem Validator.optional_canonical {x : Option Validator} (h : Validator.Unrepeated j) :
    (Tree.ofJson j.canonical).optional Validator.ofTree = .ok x ↔
      (Tree.ofJson j).optional Validator.ofTree = .ok x := by
  cases j with
  | object inner =>
    have hobject : ∀ members : List (String × Json),
        (Tree.ofJson (.object members)).optional Validator.ofTree = .ok x ↔
          ∃ v, Validator.ofTree (Tree.ofJson (.object members)) = .ok v ∧ some v = x :=
      fun _ => map_eq_ok
    have hsame : ∀ v, Validator.ofTree (Tree.ofJson (Json.object inner).canonical) = .ok v ↔
        Validator.ofTree (Tree.ofJson (.object inner)) = .ok v := fun v => ofTree_canonical h
    rw [Json.canonical] at hsame ⊢
    rw [hobject, hobject]
    exact exists_congr fun v => and_congr_left fun _ => hsame v
  | array js => exact iff_of_false (nofun) (nofun)
  | _ => exact Iff.rfl

/-! ### Attempts -/

namespace Attempt

/-- A record is an attempt. -/
def Parses (record : Json) (a : Attempt) : Prop := ofTree (Tree.ofJson record) = .ok a

/-- Neither a record nor its condition has repeated names. Canonical form loses all but one member
of a name, so that a condition given twice would be one. -/
def Unrepeated : Json → Prop
  | .object members =>
    NamesDiffer members ∧ ∀ j, ("validator", j) ∈ members → Validator.Unrepeated j
  | _ => True

/-- The condition among the members of a record. -/
def readCondition (members : List (String × Json)) : Except Fault (Option Validator) :=
  match onlyMember? "validator" members with
  | some j => (Tree.ofJson j).optional Validator.ofTree
  | none => .ok none

/-- Members other than the condition are kept. -/
private theorem foldlM_readMember :
    ∀ {members : List (String × Json)} {s : Option (Option Validator) × List (String × Json)},
      "validator" ∉ members.map (·.1) →
      members.foldlM (fun s m => readMember s m.1 (Tree.ofJson m.2)) s = .ok (s.1, s.2 ++ members)
  | [], s, _ => by
    rw [List.append_nil]
    rfl
  | (key, j) :: rest, s, h => by
    rw [List.map_cons, List.mem_cons, not_or] at h
    have hstep : readMember s key (Tree.ofJson j) = .ok (s.1, s.2 ++ [(key, j)]) := by
      rw [readMember, if_neg (Ne.symm h.1), Tree.json_ofJson]
      rfl
    rw [List.foldlM_cons, bind_eq_ok]
    refine ⟨_, hstep, ?_⟩
    rw [foldlM_readMember h.2, List.append_assoc, List.singleton_append]

/-- Going through members of different names reads the condition and keeps all others. -/
private theorem foldlM_readMember_eq (h : NamesDiffer members) :
    members.foldlM (fun s m => readMember s m.1 (Tree.ofJson m.2)) (none, []) =
      match onlyMember? "validator" members with
      | some j => ((Tree.ofJson j).optional Validator.ofTree).map fun condition =>
          (some condition, members.filter (·.1 != "validator"))
      | none => .ok (none, members.filter (·.1 != "validator")) := by
  by_cases hmem : "validator" ∈ members.map (·.1)
  · obtain ⟨⟨key, j⟩, hmember, rfl⟩ := List.mem_map.mp hmem
    obtain ⟨before, after, rfl⟩ := List.append_of_mem hmember
    obtain ⟨hbefore, hafter⟩ := h.not_mem_split
    have honly : onlyMember? "validator" (before ++ ("validator", j) :: after) = some j := by
      rw [onlyMember?, List.filter_append, List.filter_cons, Json.filter_name_eq_nil hbefore,
        Json.filter_name_eq_nil hafter]
      rfl
    have hothers : (before ++ ("validator", j) :: after).filter (·.1 != "validator") =
        before ++ after := by
      rw [List.filter_append, List.filter_cons, Json.filter_other_names_eq_self hbefore,
        Json.filter_other_names_eq_self hafter]
      rfl
    rw [honly, hothers, List.foldlM_append, foldlM_readMember hbefore]
    simp only [List.foldlM_cons, List.nil_append, bind, Except.bind, readMember, if_true]
    cases (Tree.ofJson j).optional Validator.ofTree with
    | error f => rfl
    | ok condition => exact foldlM_readMember hafter
  · rw [foldlM_readMember hmem, onlyMember?, Json.filter_name_eq_nil hmem,
      Json.filter_other_names_eq_self hmem]
    rfl

/-- A record without repeated names is an attempt when its condition and its rule are read. -/
theorem parses_object {a : Attempt} (h : NamesDiffer members) :
    Parses (.object members) a ↔ readCondition members = .ok a.validator ∧
      rule? (members.filter (·.1 != "validator")) = some a.rule := by
  rw [Parses, ofTree, Tree.ofJson, Tree.members, if_neg Bool.false_ne_true, Members.fold_ofJson,
    foldlM_readMember_eq h, readCondition]
  obtain ⟨rule, validator⟩ := a
  generalize members.filter (·.1 != "validator") = others
  cases onlyMember? "validator" members with
  | none =>
    simp only [bind, Except.bind]
    cases rule? others with
    | none => simp
    | some rule' => simp [pure, Except.pure, and_comm]
  | some j =>
    simp only [bind, Except.bind]
    cases (Tree.ofJson j).optional Validator.ofTree with
    | error f => simp [Except.map]
    | ok condition =>
      simp only [Except.map]
      cases rule? others with
      | none => simp
      | some rule' => simp [pure, Except.pure, and_comm]

/-- Where no name is repeated, a record is read in canonical form as it is. -/
theorem parses_canonical {record : Json} {a : Attempt} (h : Unrepeated record) :
    Parses record.canonical a ↔ Parses record a := by
  cases record with
  | object members =>
    obtain ⟨hdiffer, hcondition⟩ := h
    obtain ⟨members', hmembers', hperm⟩ := Json.canonical_object hdiffer
    have hdiffer' : NamesDiffer members' := by
      refine NamesDiffer.of_perm ?_ hperm
      rwa [NamesDiffer, List.map_map]
    rw [hmembers', parses_object hdiffer', parses_object hdiffer]
    refine and_congr ?_ ?_
    · rw [readCondition, readCondition, (canonicalOf_of_perm hdiffer hperm).only]
      cases honly : onlyMember? "validator" members with
      | none => exact Iff.rfl
      | some j =>
        exact Validator.optional_canonical (hcondition j (mem_of_onlyMember? honly))
    · have hothers : (members'.filter (·.1 != "validator")).Perm
          ((members.filter (·.1 != "validator")).map fun m => (m.1, m.2.canonical)) := by
        have hfilter := hperm.filter (·.1 != "validator")
        rwa [List.filter_map] at hfilter
      have hcanonical := canonicalOf_of_perm ((List.filter_sublist.map _).nodup hdiffer) hothers
      have hrule : ∀ members : List (String × Json), rule? members =
          ((onlyMember? "type" members).bind RuleKind.ofJson?).bind (Rule.ofMembers? members) :=
        fun members => by rw [rule?, Option.bind_assoc]; rfl
      rw [hrule, hrule, hcanonical.only, Option.bind_map]
      simp only [Function.comp_def, RuleKind.ofJson?_canonical]
      rw [funext (Rule.ofMembers?_canonical hcanonical)]
  | array js => exact iff_of_false (fun h => by cases h) fun h => by cases h
  | _ => exact Iff.rfl

/-- A record that is an attempt makes it. -/
theorem ofRecord_of_parses {record : Json} {a : Attempt} (h : Unrepeated record)
    (hparses : Parses record a) : ofRecord record = a := by
  rw [ofRecord, (parses_canonical h).mpr hparses]

/-- A record that is no attempt makes the one that never succeeds. -/
theorem ofRecord_of_not_parses {record : Json} (h : Unrepeated record)
    (hparses : ∀ a, ¬ Parses record a) : ofRecord record = inert := by
  rw [ofRecord]
  cases hread : ofTree (Tree.ofJson record.canonical) with
  | error f => rfl
  | ok a => exact absurd ((parses_canonical h).mp hread) (hparses a)

end Attempt

end InvoiceFields
