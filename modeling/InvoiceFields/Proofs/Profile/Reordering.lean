import InvoiceFields.Proofs.Json.Canonical
import InvoiceFields.Proofs.Profile.Declarations

/-!
# Profiles in JSON with declarations in another order

The rules and the overrides of a profile are members of objects. When these stand in another order,
but those of each field or key in the same, the record of the profile is read as before, with rules
that give every field the same attempts (`ProfileRecord.exists_of_reordered`), and it makes a
profile of the same rules (`ProfileRecord.alike_of_reordered`).
-/

namespace InvoiceFields

open Json (Fault Members Slot Tree)

namespace ProfileRecord

variable {r r' s s' : ProfileRecord} {p q : Profile}

/-! ### Names of overrides -/

/-- The text of a value that is one. -/
def textOf : Json → String
  | .string text => text
  | _ => ""

/-- Reads a member that names an override. -/
private def readName (names : List (String × String)) (member : String × Json) :
    Except Fault (List (String × String)) :=
  readOverride names member.1 (Tree.ofJson member.2)

private theorem readName_eq_ok {names names' : List (String × String)} {member : String × Json} :
    readName names member = .ok names' ↔ (∃ text, member.2 = .string text) ∧
      Json.insertMember member.1 (textOf member.2) names = names' := by
  obtain ⟨key, j⟩ := member
  cases j with
  | string text => simp [readName, readOverride, Tree.ofJson, Tree.text, textOf, bind, Except.bind,
      pure, Except.pure]
  | number n => simp [readName, readOverride, Tree.ofJson, Tree.text, bind, Except.bind]
  | _ => simp [readName, readOverride, Tree.ofJson, Tree.text, bind, Except.bind]

private theorem foldlM_readName_eq_ok {members : List (String × Json)}
    {names names' : List (String × String)} :
    members.foldlM readName names = .ok names' ↔
      (∀ member ∈ members, ∃ text, member.2 = .string text) ∧
        members.foldl (fun names m => Json.insertMember m.1 (textOf m.2) names) names = names' := by
  induction members generalizing names with
  | nil => simp [pure_eq_ok]
  | cons member rest ih =>
    rw [List.foldlM_cons, bind_eq_ok, List.forall_mem_cons, List.foldl_cons]
    simp only [readName_eq_ok, ih]
    constructor
    · rintro ⟨_, ⟨htext, rfl⟩, hrest, h⟩
      exact ⟨⟨htext, hrest⟩, h⟩
    · rintro ⟨⟨htext, hrest⟩, h⟩
      exact ⟨_, ⟨htext, rfl⟩, hrest, h⟩

/-- A member can be inserted in front of others of different names or behind them. -/
private theorem foldl_insertMember_swap (key : String) (text : String) :
    ∀ (members : List (String × Json)) (names : List (String × String)),
      (∀ m ∈ members, m.1 ≠ key) →
        members.foldl (fun names m => Json.insertMember m.1 (textOf m.2) names)
            (Json.insertMember key text names) =
          Json.insertMember key text
            (members.foldl (fun names m => Json.insertMember m.1 (textOf m.2) names) names)
  | [], _, _ => rfl
  | m :: rest, names, h => by
    obtain ⟨hm, hrest⟩ := List.forall_mem_cons.mp h
    rw [List.foldl_cons, List.foldl_cons, Json.insertMember_comm hm,
      foldl_insertMember_swap key text rest _ hrest]

private theorem foldl_insertMember_eq {members members' : List (String × Json)}
    (h : SameByKey members members') (names : List (String × String)) :
    members.foldl (fun names m => Json.insertMember m.1 (textOf m.2) names) names =
      members'.foldl (fun names m => Json.insertMember m.1 (textOf m.2) names) names := by
  induction members generalizing members' names with
  | nil =>
    have hnil : members' = [] := List.eq_nil_iff_forall_not_mem.mpr fun m hm =>
      List.not_mem_nil (h.mem_iff.mpr hm)
    rw [hnil]
  | cons member rest ih =>
    obtain ⟨key, j⟩ := member
    obtain ⟨before, after, rfl, hne, hrest⟩ := h.exists_split
    rw [List.foldl_cons, ih hrest, List.foldl_append, List.foldl_append, List.foldl_cons,
      foldl_insertMember_swap key _ before names hne]

/-- Names of overrides whose members stand in another order, but those of each key in the same,
are read as the same. -/
theorem overrides_of_reordered {members members' : List (String × Json)}
    {names : List (String × String)} (hsame : SameByKey members members')
    (h : (Tree.ofJson (.object members)).members readOverride [] = .ok names) :
    (Tree.ofJson (.object members')).members readOverride [] = .ok names := by
  have hfold : ∀ members : List (String × Json),
      (Tree.ofJson (.object members)).members readOverride [] = members.foldlM readName [] := by
    intro members
    rw [Tree.ofJson, Tree.members, if_neg Bool.false_ne_true, Members.fold_ofJson]
    rfl
  rw [hfold] at h ⊢
  obtain ⟨htexts, hnames⟩ := foldlM_readName_eq_ok.mp h
  refine foldlM_readName_eq_ok.mpr ⟨fun m hm => htexts m (hsame.mem_iff.mpr hm), ?_⟩
  rw [← foldl_insertMember_eq hsame, hnames]

/-! ### Records -/

/-- A member of a profile in JSON, and the same with its rules or overrides in another order that
leaves those of each field or key in place. -/
inductive Reordered : String × Json → String × Json → Prop
  | same (member : String × Json) : Reordered member member
  | fields {members members' : List (String × Json)} (moved : members'.Perm members)
      (kept : ∀ f : Field, members'.filter (f.HasKey ·.1) = members.filter (f.HasKey ·.1)) :
      Reordered ("fields", .object members) ("fields", .object members')
  | overrides {members members' : List (String × Json)} (kept : SameByKey members members') :
      Reordered ("overrides", .object members) ("overrides", .object members')

/-- Two records agree but for the order of the fields in their rules. -/
structure Like (r r' : ProfileRecord) : Prop where
  name : r.name = r'.name
  keywords : r.keywords = r'.keywords
  taxIds : r.taxIds = r'.taxIds
  rate : r.rate = r'.rate
  fields : r.fields.isSome = r'.fields.isSome
  attempts : ∀ f, ((r.fields.getD .empty).attempts? f).getD [] =
    ((r'.fields.getD .empty).attempts? f).getD []
  overrides : r.overrides = r'.overrides

theorem Like.refl (r : ProfileRecord) : r.Like r :=
  ⟨rfl, rfl, rfl, rfl, rfl, fun _ => rfl, rfl⟩

/-- Whatever fills a part of a record fills it in one that agrees. -/
private theorem exists_fill_of_like {slot : Slot ProfileRecord} (hslot : slot ∈ slots)
    (hlike : r.Like r') :
    slot.isFilled r = slot.isFilled r' ∧
      ∀ t, slot.fill r t = .ok s → ∃ s', slot.fill r' t = .ok s' ∧ s.Like s' := by
  have hpart : ∀ {α : Type} {key : String} {get : ProfileRecord → Option α}
      {set : ProfileRecord → α → ProfileRecord} {read : Tree → Except Fault α}
      (_ : (get r).isSome = (get r').isSome) (_ : ∀ x, (set r x).Like (set r' x)),
      (Slot.part key get set read).isFilled r = (Slot.part key get set read).isFilled r' ∧
        ∀ t, (Slot.part key get set read).fill r t = .ok s →
          ∃ s', (Slot.part key get set read).fill r' t = .ok s' ∧ s.Like s' := by
    intro α key get set read hget hset
    refine ⟨hget, fun t h => ?_⟩
    obtain ⟨x, hx, rfl⟩ := map_eq_ok.mp h
    exact ⟨set r' x, map_eq_ok.mpr ⟨x, hx, rfl⟩, hset x⟩
  simp only [slots, List.mem_cons, List.not_mem_nil, or_false] at hslot
  rcases hslot with rfl | rfl | rfl | rfl | rfl | rfl
  · exact hpart (congrArg Option.isSome hlike.name) fun x => { hlike with name := rfl }
  · exact hpart (congrArg Option.isSome hlike.keywords) fun x => { hlike with keywords := rfl }
  · exact hpart (congrArg Option.isSome hlike.taxIds) fun x => { hlike with taxIds := rfl }
  · exact hpart (congrArg Option.isSome hlike.rate) fun x => { hlike with rate := rfl }
  · exact hpart hlike.fields fun x => { hlike with fields := rfl, attempts := fun _ => rfl }
  · exact hpart (congrArg Option.isSome hlike.overrides) fun x => { hlike with overrides := rfl }

/-- Reads a member of a profile in JSON. -/
private def readPart (r : ProfileRecord) (member : String × Json) : Except Fault ProfileRecord :=
  Json.fillSlot slots r member.1 (Tree.ofJson member.2)

private theorem readPart_fields_eq_ok {j : Json} :
    readPart r ("fields", j) = .ok s ↔ r.fields.isSome = false ∧
      ∃ m, Mapping.ofTree (Tree.ofJson j) = .ok m ∧ { r with fields := some m } = s := by
  have hslot : slots.find? (·.key == "fields") =
      some (.part "fields" fields (fun r x => { r with fields := some x }) Mapping.ofTree) := rfl
  rw [readPart, Json.fillSlot_eq_ok, hslot]
  simp [Slot.part, map_eq_ok]

private theorem readPart_overrides_eq_ok {j : Json} :
    readPart r ("overrides", j) = .ok s ↔ r.overrides.isSome = false ∧
      ∃ names, (Tree.ofJson j).members readOverride [] = .ok names ∧
        { r with overrides := some names } = s := by
  have hslot : slots.find? (·.key == "overrides") =
      some (.part "overrides" overrides (fun r x => { r with overrides := some x })
        (Tree.members readOverride [])) := rfl
  rw [readPart, Json.fillSlot_eq_ok, hslot]
  simp [Slot.part, map_eq_ok]

/-- A member is read into records that agree as the same with its declarations in another order
is. -/
private theorem exists_readPart_of_reordered {member member' : String × Json}
    (hmember : Reordered member member') (hlike : r.Like r') (h : readPart r member = .ok s) :
    ∃ s', readPart r' member' = .ok s' ∧ s.Like s' := by
  cases hmember with
  | same =>
    rcases Json.fillSlot_eq_ok.mp h with ⟨slot, hslot, hopen, hs⟩ | ⟨hslot, hskip, rfl⟩
    · obtain ⟨hfilled, hfill⟩ := exists_fill_of_like (List.mem_of_find?_eq_some hslot) hlike
      obtain ⟨s', hs', hlike'⟩ := hfill _ hs
      have hopen' : slot.isFilled r' = false := hfilled.symm.trans hopen
      exact ⟨s', Json.fillSlot_eq_ok.mpr (.inl ⟨slot, hslot, hopen', hs'⟩), hlike'⟩
    · exact ⟨r', Json.fillSlot_eq_ok.mpr (.inr ⟨hslot, hskip, rfl⟩), hlike⟩
  | fields moved kept =>
    obtain ⟨hopen, m, hm, rfl⟩ := readPart_fields_eq_ok.mp h
    obtain ⟨m', hm', hattempts⟩ := Mapping.attempts?_of_reordered moved kept hm
    have hopen' : r'.fields.isSome = false := hlike.fields.symm.trans hopen
    exact ⟨_, readPart_fields_eq_ok.mpr ⟨hopen', m', hm', rfl⟩,
      { hlike with fields := rfl, attempts := fun f => (hattempts f).symm }⟩
  | overrides kept =>
    obtain ⟨hopen, names, hnames, rfl⟩ := readPart_overrides_eq_ok.mp h
    have hopen' : r'.overrides.isSome = false := hlike.overrides ▸ hopen
    exact ⟨_, readPart_overrides_eq_ok.mpr
      ⟨hopen', names, overrides_of_reordered kept hnames, rfl⟩, { hlike with overrides := rfl }⟩

private theorem exists_foldlM_readPart {members members' : List (String × Json)}
    (hmembers : List.Forall₂ Reordered members members') (hlike : r.Like r')
    (h : members.foldlM readPart r = .ok s) :
    ∃ s', members'.foldlM readPart r' = .ok s' ∧ s.Like s' := by
  induction hmembers generalizing r r' with
  | nil =>
    cases h
    exact ⟨r', rfl, hlike⟩
  | cons hmember _ ih =>
    rw [List.foldlM_cons] at h
    obtain ⟨r₁, hstep, hrest⟩ := bind_eq_ok.mp h
    obtain ⟨r₁', hstep', hlike'⟩ := exists_readPart_of_reordered hmember hlike hstep
    obtain ⟨s', hrest', hs'⟩ := ih hlike' hrest
    refine ⟨s', ?_, hs'⟩
    rw [List.foldlM_cons]
    exact bind_eq_ok.mpr ⟨r₁', hstep', hrest'⟩

private theorem ofTree_object_eq_ok {members : List (String × Json)} :
    ofTree (Tree.ofJson (.object members)) = .ok r ↔
      members.foldlM readPart empty = .ok r ∧ r.name.isSome = true := by
  have hrecord : (Tree.ofJson (.object members)).record slots empty =
      members.foldlM readPart empty := by
    rw [Tree.ofJson, Tree.record, Tree.members, if_neg Bool.false_ne_true, Members.fold_ofJson]
    · rfl
    · rintro deep elements ⟨⟩
  rw [ofTree, hrecord, bind_eq_ok]
  constructor
  · rintro ⟨s, hs, h⟩
    split at h
    case isTrue hname =>
      obtain rfl := pure_eq_ok.mp h
      exact ⟨hs, hname⟩
    case isFalse => cases h
  · rintro ⟨hr, hname⟩
    refine ⟨r, hr, ?_⟩
    rw [if_pos hname]
    rfl

/-- A profile in JSON with its declarations in another order is read, and the records agree. -/
theorem exists_of_reordered {members members' : List (String × Json)}
    (hmembers : List.Forall₂ Reordered members members')
    (h : ofTree (Tree.ofJson (.object members)) = .ok r) :
    ∃ r', ofTree (Tree.ofJson (.object members')) = .ok r' ∧ r.Like r' := by
  obtain ⟨hr, hname⟩ := ofTree_object_eq_ok.mp h
  obtain ⟨r', hr', hlike⟩ := exists_foldlM_readPart hmembers (.refl empty) hr
  exact ⟨r', ofTree_object_eq_ok.mpr ⟨hr', hlike.name ▸ hname⟩, hlike⟩

/-! ### Profiles -/

private theorem foldlM_addOverride_withMapping {entries : List (String × String)} (m : Mapping)
    (h : entries.foldlM addOverride p = .ok q) :
    entries.foldlM addOverride (p.withMapping m) = .ok (q.withMapping m) := by
  induction entries generalizing p with
  | nil =>
    cases h
    rfl
  | cons entry rest ih =>
    rw [List.foldlM_cons] at h ⊢
    obtain ⟨p₁, hstep, hrest⟩ := bind_eq_ok.mp h
    obtain ⟨f, o, hf, ho, rfl⟩ := addOverride_eq_ok.mp hstep
    exact bind_eq_ok.mpr ⟨_, addOverride_eq_ok.mpr ⟨f, o, hf, ho, rfl⟩, ih hrest⟩

/-- Records that agree make profiles of the same rules. -/
theorem exists_profile_of_like (hlike : r.Like r') (h : r.profile = .ok p) :
    ∃ p', r'.profile = .ok p' ∧ p'.Alike p := by
  have hmapping : p.mapping = r.fields.getD .empty := (of_profile_eq_ok h).2.1
  rw [profile_eq_foldlM] at h
  have h' := foldlM_addOverride_withMapping (r'.fields.getD .empty) h
  have hdeclared : r.declared.withMapping (r'.fields.getD .empty) = r'.declared := by
    rw [declared, declared, title, title, hlike.name, hlike.keywords, hlike.taxIds, hlike.rate]
    rfl
  have hnames : r.overrideNames = r'.overrideNames := by
    rw [overrideNames, overrideNames, hlike.overrides]
  rw [hdeclared, hnames, ← profile_eq_foldlM] at h'
  refine ⟨_, h', ⟨fun f => ?_, fun _ => rfl⟩⟩
  rw [hmapping, hlike.attempts f]
  rfl

/-- A profile in JSON with its declarations in another order makes a profile of the same rules. -/
theorem alike_of_reordered {members members' : List (String × Json)}
    (hmembers : List.Forall₂ Reordered members members')
    (hread : ofTree (Tree.ofJson (.object members)) = .ok r) (h : r.profile = .ok p) :
    ∃ r' p', ofTree (Tree.ofJson (.object members')) = .ok r' ∧ r'.profile = .ok p' ∧
      p'.Alike p := by
  obtain ⟨r', hr', hlike⟩ := exists_of_reordered hmembers hread
  obtain ⟨p', hp', halike⟩ := exists_profile_of_like hlike h
  exact ⟨r', p', hr', hp', halike⟩

end ProfileRecord

end InvoiceFields
