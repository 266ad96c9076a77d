import InvoiceFields.Proofs.Mapping.Lenient
import InvoiceFields.Proofs.Mapping.Resolution
import InvoiceFields.Proofs.Registry.Loading

/-!
# The order of declarations

Rules and overrides are declared one after another, by calls or by the members of JSON objects.
What a profile has for a field depends on the declarations for that field alone
(`Mapping.attempts?_foldl_push`, `Profile.override?_withOverrides`). Declarations in another order
that leaves those of each field in place therefore make a profile of the same rules
(`Profile.alike_of_calls`, `ProfileRecord.alike_of_reordered`).
-/

namespace InvoiceFields

open Json (Fault Members NamesDiffer Tree)

section SameByKey

variable {κ α : Type} [BEq κ] [LawfulBEq κ] {ds ds' : List (κ × α)} {k : κ} {a : α}

/-- The declarations under each key are the same, in the same order. -/
def SameByKey {κ α : Type} [BEq κ] (ds ds' : List (κ × α)) : Prop :=
  ∀ k, ds.filter (·.1 == k) = ds'.filter (·.1 == k)

theorem SameByKey.mem_iff (h : SameByKey ds ds') {d : κ × α} : d ∈ ds ↔ d ∈ ds' := by
  have hmem : ∀ ds : List (κ × α), d ∈ ds ↔ d ∈ ds.filter (·.1 == d.1) := by
    intro ds
    rw [List.mem_filter, beq_self_eq_true, and_iff_left rfl]
  rw [hmem ds, hmem ds', h d.1]

/-- The first declaration stands somewhere in the other order, behind none of its key. -/
theorem SameByKey.exists_split (h : SameByKey ((k, a) :: ds) ds') :
    ∃ before after, ds' = before ++ (k, a) :: after ∧ (∀ d ∈ before, d.1 ≠ k) ∧
      SameByKey ds (before ++ after) := by
  have hk := h k
  rw [List.filter_cons, if_pos (beq_self_eq_true k)] at hk
  obtain ⟨before, after, rfl, hbefore, -, hafter⟩ := List.filter_eq_cons_iff.mp hk.symm
  have hne : ∀ d ∈ before, d.1 ≠ k := fun d hd hdk => hbefore d hd (beq_iff_eq.mpr hdk)
  have hnone : before.filter (·.1 == k) = [] := List.filter_eq_nil_iff.mpr hbefore
  refine ⟨before, after, rfl, hne, fun j => ?_⟩
  have hj := h j
  rw [List.filter_append, List.filter_cons, List.filter_cons] at hj
  rw [List.filter_append]
  by_cases hkj : (k == j) = true
  · obtain rfl := beq_iff_eq.mp hkj
    rw [hnone, List.nil_append, hafter]
  · rwa [if_neg hkj, if_neg hkj] at hj

end SameByKey

/-! ### Rules -/

namespace Mapping

variable {m m' : Mapping} {f : Field}

/-- The mapping that declarations make. -/
def pushAll (ds : List (Field × List Attempt)) : Mapping :=
  ds.foldl (fun m d => m.push d.1 d.2) .empty

theorem built_pushAll (ds : List (Field × List Attempt)) : (pushAll ds).Built :=
  List.foldlRecOn ds _ Built.empty fun _ hm d _ => hm.push d.1 d.2

/-- A field gets the attempts of its declarations behind those that it has. -/
theorem attempts?_foldl_push (f : Field) (ds : List (Field × List Attempt)) (m : Mapping) :
    ((ds.foldl (fun m d => m.push d.1 d.2) m).attempts? f).getD [] =
      (m.attempts? f).getD [] ++ (ds.filter (·.1 == f)).flatMap (·.2) := by
  induction ds generalizing m with
  | nil => simp
  | cons d ds ih =>
    rw [List.foldl_cons, ih, attempts?_push, List.filter_cons]
    by_cases hf : d.1 = f
    · rw [if_pos hf.symm, if_pos (beq_iff_eq.mpr hf), Option.getD_some, List.flatMap_cons, hf,
        List.append_assoc]
    · rw [if_neg (Ne.symm hf), if_neg (by simpa using hf)]

/-! ### Rules in JSON -/

/-- A member of rules in JSON is read when its key names a field and its value lists records. -/
def Declares (member : String × Json) (f : Field) (records : List Json) : Prop :=
  f.HasKey member.1 ∧ member.2 = .array records

/-- The attempts that a member declares. -/
def attemptsOf : Json → List Attempt
  | .array records => records.map Attempt.ofRecord
  | _ => []

/-- Reads a member of rules in JSON. -/
private def readJson (m : Mapping) (member : String × Json) : Except Fault Mapping :=
  readMember m member.1 (Tree.ofJson member.2)

theorem list_json_eq_ok {j : Json} {records : List Json} :
    (Tree.ofJson j).list Tree.json = .ok records ↔ j = .array records := by
  cases j with
  | array js => rw [Tree.list_json_ofJson, Except.ok.injEq, Json.array.injEq]
  | number n => simp [Tree.ofJson, Tree.list]
  | _ => simp [Tree.ofJson, Tree.list]

private theorem readJson_eq_ok {member : String × Json} :
    readJson m member = .ok m' ↔ ∃ f records, Declares member f records ∧
      m.push f (records.map Attempt.ofRecord) = m' := by
  simp only [readJson, readMember_eq_ok, ProfileRecord.ofKey_eq_ok, Field.ofKey?_eq_some,
    list_json_eq_ok, Declares, and_assoc]

private theorem exists_foldlM_readJson {members : List (String × Json)} :
    (∃ m', members.foldlM readJson m = .ok m') ↔
      ∀ member ∈ members, ∃ f records, Declares member f records := by
  refine exists_foldlM_eq_ok fun m member => ?_
  simp only [readJson_eq_ok]
  constructor
  · rintro ⟨-, f, records, hdeclares, -⟩
    exact ⟨f, records, hdeclares⟩
  · rintro ⟨f, records, hdeclares⟩
    exact ⟨_, f, records, hdeclares, rfl⟩

/-- A field gets the attempts of the members with its keys. -/
private theorem attempts?_of_foldlM {members : List (String × Json)}
    (h : members.foldlM readJson m = .ok m') :
    (m'.attempts? f).getD [] = (m.attempts? f).getD [] ++
      (members.filter (f.HasKey ·.1)).flatMap (attemptsOf ·.2) := by
  induction members generalizing m with
  | nil =>
    cases h
    simp
  | cons member rest ih =>
    rw [List.foldlM_cons] at h
    obtain ⟨m₁, hstep, hrest⟩ := bind_eq_ok.mp h
    obtain ⟨g, records, ⟨hg, hrecords⟩, rfl⟩ := readJson_eq_ok.mp hstep
    rw [ih hrest, attempts?_push, List.filter_cons]
    by_cases hf : f.HasKey member.1
    · obtain rfl := Field.eq_of_hasKey hf hg
      rw [if_pos rfl, if_pos (decide_eq_true hf), Option.getD_some, List.flatMap_cons, hrecords,
        attemptsOf, List.append_assoc]
    · have hne : f ≠ g := fun hfg => hf (hfg ▸ hg)
      rw [if_neg hne, if_neg (by simpa using hf)]

private theorem ofTree_object (members : List (String × Json)) :
    ofTree (Tree.ofJson (.object members)) = members.foldlM readJson .empty := by
  rw [ofTree, Tree.ofJson, Tree.members, if_neg Bool.false_ne_true, Members.fold_ofJson]
  rfl

/-- Rules in JSON whose members stand in another order, but those of each field in the same, give
every field the same attempts. -/
theorem attempts?_of_reordered {members members' : List (String × Json)}
    (hperm : members'.Perm members)
    (hsame : ∀ f : Field, members'.filter (f.HasKey ·.1) = members.filter (f.HasKey ·.1))
    (h : ofTree (Tree.ofJson (.object members)) = .ok m) :
    ∃ m', ofTree (Tree.ofJson (.object members')) = .ok m' ∧
      ∀ f, (m'.attempts? f).getD [] = (m.attempts? f).getD [] := by
  rw [ofTree_object] at h
  have hmembers := exists_foldlM_readJson.mp ⟨m, h⟩
  obtain ⟨m', h'⟩ : ∃ m', members'.foldlM readJson .empty = .ok m' :=
    exists_foldlM_readJson.mpr fun member hmember => hmembers member (hperm.mem_iff.mp hmember)
  refine ⟨m', by rw [ofTree_object, h'], fun f => ?_⟩
  rw [attempts?_of_foldlM h', attempts?_of_foldlM h, hsame f]

end Mapping

/-! ### Overrides -/

namespace Profile

variable {p p' q : Profile} {f g : Field} {name : String}

/-- The override of a field. -/
def override? (p : Profile) (f : Field) : Option Override := p.overrides.lookup f

theorem override?_replaced (p : Profile) (f g : Field) (o : Override) :
    (p.overrides.filter (·.1 != f) ++ [(f, o)]).lookup g =
      if g = f then some o else p.override? g := by
  have hkept := lookup_filter_fst (fun h => h != f) g p.overrides
  rw [List.lookup_append, hkept]
  by_cases hgf : g = f
  · simp [hgf]
  · have hother : (g == f) = false := beq_eq_false_iff_ne.mpr hgf
    simp [List.lookup_cons, hgf, hother, override?]

/-- Declares overrides one after another. -/
def withOverrides (p : Profile) (names : List (Field × String)) : Except ConfigError Profile :=
  names.foldlM (fun p d => p.withOverride d.1 d.2) p

/-- Overrides can be declared when all their names stand for some. -/
theorem exists_withOverrides {names : List (Field × String)} :
    (∃ q, p.withOverrides names = .ok q) ↔ ∀ d ∈ names, ∃ o, Override.ofName? d.2 = some o := by
  refine exists_foldlM_eq_ok fun p d => ?_
  simp only [withOverride_eq_ok]
  constructor
  · rintro ⟨-, o, ho, -⟩
    exact ⟨o, ho⟩
  · rintro ⟨o, ho⟩
    exact ⟨_, o, ho, rfl⟩

theorem mapping_of_withOverrides {names : List (Field × String)}
    (h : p.withOverrides names = .ok q) : q.mapping = p.mapping := by
  induction names generalizing p with
  | nil =>
    cases h
    rfl
  | cons d names ih =>
    rw [withOverrides, List.foldlM_cons] at h
    obtain ⟨p₁, hstep, hrest⟩ := bind_eq_ok.mp h
    obtain ⟨o, -, rfl⟩ := withOverride_eq_ok.mp hstep
    have hmapping := ih hrest
    exact hmapping

/-- The last override that is declared for a field is the one that it has. -/
theorem override?_withOverrides {names : List (Field × String)}
    (h : p.withOverrides names = .ok q) :
    q.override? f =
      (names.filter (·.1 == f)).foldl (fun _ d => Override.ofName? d.2) (p.override? f) := by
  induction names generalizing p with
  | nil =>
    cases h
    rfl
  | cons d names ih =>
    rw [withOverrides, List.foldlM_cons] at h
    obtain ⟨p₁, hstep, hrest⟩ := bind_eq_ok.mp h
    obtain ⟨o, ho, rfl⟩ := withOverride_eq_ok.mp hstep
    rw [ih hrest, override?, override?_replaced, List.filter_cons]
    by_cases hf : d.1 = f
    · rw [if_pos hf.symm, if_pos (beq_iff_eq.mpr hf), List.foldl_cons, ho]
    · rw [if_neg (Ne.symm hf), if_neg (by simpa using hf)]

/-! ### Profiles with the same rules -/

/-- Two profiles have the same attempts and the same override for each field. -/
structure Alike (p q : Profile) : Prop where
  attempts : ∀ f, (p.mapping.attempts? f).getD [] = (q.mapping.attempts? f).getD []
  overrides : ∀ f, p.override? f = q.override? f

/-- Calls that declare rules and overrides in another order, but those of each field in the same,
make a profile of the same rules. -/
theorem alike_of_calls {rules rules' : List (Field × List Attempt)}
    {names names' : List (Field × String)} (hrules : SameByKey rules' rules)
    (hnames : SameByKey names' names)
    (h : (p.withMapping (.pushAll rules)).withOverrides names = .ok q) :
    ∃ q', (p.withMapping (.pushAll rules')).withOverrides names' = .ok q' ∧ q'.Alike q := by
  have hresolvable := exists_withOverrides.mp ⟨q, h⟩
  obtain ⟨q', h'⟩ : ∃ q', (p.withMapping (.pushAll rules')).withOverrides names' = .ok q' :=
    exists_withOverrides.mpr fun d hd => hresolvable d (hnames.mem_iff.mp hd)
  refine ⟨q', h', ⟨fun f => ?_, fun f => ?_⟩⟩
  · rw [mapping_of_withOverrides h', mapping_of_withOverrides h]
    show ((Mapping.pushAll rules').attempts? f).getD [] =
      ((Mapping.pushAll rules).attempts? f).getD []
    rw [Mapping.pushAll, Mapping.pushAll, Mapping.attempts?_foldl_push,
      Mapping.attempts?_foldl_push, hrules f]
  · rw [override?_withOverrides h', override?_withOverrides h, hnames f]
    rfl

end Profile

end InvoiceFields
