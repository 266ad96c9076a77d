import InvoiceFields.Proofs.Json.Numbers
import InvoiceFields.Proofs.Json.Rereading
import InvoiceFields.Proofs.Mapping.Records
import InvoiceFields.Proofs.Record.Segment

/-!
# Attempts that are written and read

An attempt that was read from a text has lines and distances of 64 bits and segments that are read
again from what they are written as (`Attempt.Storable`). So its record is a text from which an
attempt is read: the same, unless its segment is a token beyond `2 ^ 63`
(`Attempt.reloads_iff`).
-/

namespace InvoiceFields

open Json (Fault Tree NamesDiffer)

variable {j : Json} {members : List (String × Json)}

/-! ### Rules -/

namespace Rule

/-- The segment of a rule that has one. -/
def segment? : Rule → Option Segment
  | line _ segment | anchored _ _ segment => some segment
  | constant _ | unsupported => none

/-- Integers of a rule have 64 bits, and its segment is one that is read. -/
def Storable : Rule → Prop
  | line number segment => inWord number = true ∧ segment.IsRead
  | anchored _ offset segment => inWord offset = true ∧ segment.IsRead
  | constant _ | unsupported => True

/-- The rule that is read in place of one that was written. -/
def reloaded : Rule → Rule
  | line number segment => line number segment.reloaded
  | anchored markers offset segment => anchored markers offset segment.reloaded
  | rule => rule

theorem reloaded_eq_self {rule : Rule} :
    rule.reloaded = rule ↔ ∀ k, rule.segment? = some (.token k) → k < twoTo 63 := by
  cases rule with
  | line number segment =>
    simp only [reloaded, segment?, line.injEq, true_and, Option.some.injEq,
      Segment.reloaded_eq_self]
  | anchored markers offset segment =>
    simp only [reloaded, segment?, anchored.injEq, true_and, Option.some.injEq,
      Segment.reloaded_eq_self]
  | constant value => exact iff_of_true rfl nofun
  | unsupported => exact iff_of_true rfl nofun

/-! ### Written rules -/

theorem inWord_iff {i : Int} : inWord i = true ↔ -(twoTo 63 : Int) ≤ i ∧ i < twoTo 63 :=
  decide_eq_true_iff

theorem integerOf?_ofInt {i : Int} (h : inWord i = true) : integerOf? (.ofInt i) = some i :=
  if_pos (inWord_iff.mp h).2

theorem textsOf?_map_string (texts : List String) :
    textsOf? (.array (texts.map .string)) = some texts := by
  rw [textsOf?]
  induction texts with
  | nil => rfl
  | cons s texts ih =>
    rw [List.map_cons, List.mapM_cons, ih]
    rfl

/-- The members of a rule have different names, none of which is that of a condition. -/
theorem namesDiffer_toMembers (rule : Rule) :
    NamesDiffer rule.toMembers ∧ "validator" ∉ rule.toMembers.map (·.1) := by
  cases rule <;> simp [NamesDiffer, toMembers]

/-- The members of a rule make a rule. -/
theorem rule?_toMembers {rule : Rule} (h : rule.Storable) :
    Attempt.rule? rule.toMembers = some rule.reloaded := by
  have hkind : RuleKind.ofName rule.kind.name = rule.kind := by cases rule.kind <;> decide
  have htype : onlyMember? "type" rule.toMembers = some (.string rule.kind.name) := by
    cases rule <;> rfl
  have hread : ofMembers? rule.toMembers rule.kind = some rule.reloaded := by
    cases rule with
    | constant value => rfl
    | line number segment =>
      obtain ⟨hnumber, hsegment⟩ := h
      show (do
        return line (← integerOf? (.ofInt number)) (← Segment.ofJson? segment.toJson)) = _
      rw [integerOf?_ofInt hnumber, Segment.ofJson?_toJson hsegment]
      rfl
    | anchored markers offset segment =>
      obtain ⟨hoffset, hsegment⟩ := h
      show (do
        let texts ← textsOf? (.array (markers.map .string))
        let distance ← integerOf? (.ofInt offset)
        return anchored texts distance (← Segment.ofJson? segment.toJson)) = _
      rw [textsOf?_map_string, integerOf?_ofInt hoffset, Segment.ofJson?_toJson hsegment]
      rfl
    | unsupported => rfl
  rw [Attempt.rule?, htype]
  show (RuleKind.ofName rule.kind.name |> some).bind (ofMembers? rule.toMembers) = _
  rw [hkind]
  exact hread

/-- What is written of a rule are numbers of 64 bits, texts, and lists of texts. -/
theorem isWhole_of_mem_toMembers {rule : Rule} (h : rule.Storable) :
    ∀ m ∈ rule.toMembers, m.2.IsWhole ∧ m.2.depth ≤ 1 := by
  have hinteger : ∀ {i}, inWord i = true → (Json.ofInt i).IsWhole ∧ (Json.ofInt i).depth ≤ 1 := by
    intro i hi
    have hpowers : twoTo 64 = 2 * twoTo 63 := rfl
    obtain ⟨hlow, hhigh⟩ := inWord_iff.mp hi
    exact ⟨⟨hlow, by omega⟩, Nat.zero_le 1⟩
  have hsegment : ∀ {s : Segment}, s.IsRead → s.toJson.IsWhole ∧ s.toJson.depth ≤ 1 := by
    intro s hs
    cases s with
    | token k =>
      refine hinteger (inWord_iff.mpr ?_)
      have hpowers : twoTo 64 = 2 * twoTo 63 := rfl
      obtain ⟨-, hlt⟩ := hs
      rw [Segment.signed_eq hlt]
      split <;> omega
    | range first last => exact ⟨trivial, Nat.zero_le 1⟩
    | invalid raw => exact ⟨trivial, Nat.zero_le 1⟩
  have htext : ∀ s : String, (Json.string s).IsWhole ∧ (Json.string s).depth ≤ 1 := fun s =>
    ⟨trivial, Nat.zero_le 1⟩
  intro m hm
  cases rule with
  | constant value =>
    simp only [toMembers, List.mem_cons, List.not_mem_nil, or_false] at hm
    rcases hm with rfl | rfl <;> exact htext _
  | line number segment =>
    obtain ⟨hnumber, hread⟩ := h
    simp only [toMembers, List.mem_cons, List.not_mem_nil, or_false] at hm
    rcases hm with rfl | rfl | rfl
    · exact htext _
    · exact hinteger hnumber
    · exact hsegment hread
  | anchored markers offset segment =>
    obtain ⟨hoffset, hread⟩ := h
    simp only [toMembers, List.mem_cons, List.not_mem_nil, or_false] at hm
    rcases hm with rfl | rfl | rfl | rfl
    · exact htext _
    · constructor
      · refine Json.areWhole_iff.mpr fun j hj => ?_
        obtain ⟨s, -, rfl⟩ := List.mem_map.mp hj
        exact (htext s).1
      · refine Nat.succ_le_succ (Json.depthElements_le fun j hj => ?_)
        obtain ⟨s, -, rfl⟩ := List.mem_map.mp hj
        exact Nat.le_refl 0
    · exact hinteger hoffset
    · exact hsegment hread
  | unsupported =>
    obtain rfl := List.mem_singleton.mp hm
    exact htext _

/-! ### Rules that were read -/

/-- A rule that is read from members, all integers among which have 64 bits, is storable. -/
theorem storable_of_ofMembers? {kind : RuleKind} {rule : Rule}
    (hfits : ∀ m ∈ members, ∀ n, m.2 = .number n → n.Fits)
    (h : ofMembers? members kind = some rule) : rule.Storable := by
  have hinteger : ∀ {key : String} {i : Int},
      ((onlyMember? key members).bind integerOf?) = some i → inWord i = true := by
    intro key i hi
    obtain ⟨j, hj, hi⟩ := Option.bind_eq_some_iff.mp hi
    unfold integerOf? at hi
    split at hi
    case h_1 i' =>
      split at hi
      case isTrue hlt =>
        cases hi
        obtain ⟨hlow, -⟩ := hfits _ (mem_of_onlyMember? hj) _ rfl
        exact inWord_iff.mpr ⟨hlow, hlt⟩
      case isFalse => exact nomatch hi
    case h_2 => exact nomatch hi
  cases kind with
  | constant =>
    obtain ⟨j, -, h⟩ := Option.bind_eq_some_iff.mp h
    obtain ⟨value, -, h⟩ := Option.bind_eq_some_iff.mp h
    cases h
    trivial
  | line =>
    obtain ⟨j, hj, h⟩ := Option.bind_eq_some_iff.mp h
    obtain ⟨number, hnumber, h⟩ := Option.bind_eq_some_iff.mp h
    obtain ⟨j', -, h⟩ := Option.bind_eq_some_iff.mp h
    obtain ⟨segment, hsegment, h⟩ := Option.bind_eq_some_iff.mp h
    cases h
    exact ⟨hinteger (Option.bind_eq_some_iff.mpr ⟨j, hj, hnumber⟩),
      Segment.isRead_of_ofJson?_eq_some hsegment⟩
  | anchored =>
    obtain ⟨j, -, h⟩ := Option.bind_eq_some_iff.mp h
    obtain ⟨markers, -, h⟩ := Option.bind_eq_some_iff.mp h
    dsimp only at h
    split at h
    case isTrue =>
      obtain ⟨j', hj', h⟩ := Option.bind_eq_some_iff.mp h
      obtain ⟨offset, hoffset, h⟩ := Option.bind_eq_some_iff.mp h
      obtain ⟨j'', -, h⟩ := Option.bind_eq_some_iff.mp h
      obtain ⟨segment, hsegment, h⟩ := Option.bind_eq_some_iff.mp h
      cases h
      exact ⟨hinteger (Option.bind_eq_some_iff.mpr ⟨j', hj', hoffset⟩),
        Segment.isRead_of_ofJson?_eq_some hsegment⟩
    case isFalse =>
      obtain ⟨offset, hoffset, h⟩ := Option.bind_eq_some_iff.mp h
      obtain ⟨j', -, h⟩ := Option.bind_eq_some_iff.mp h
      obtain ⟨segment, hsegment, h⟩ := Option.bind_eq_some_iff.mp h
      cases hoffset
      cases h
      exact ⟨by decide, Segment.isRead_of_ofJson?_eq_some hsegment⟩
  | unsupported =>
    cases h
    trivial

end Rule

/-! ### Attempts -/

namespace Attempt

variable {a : Attempt} {text : String}

/-- The attempt that is read in place of one that was written. -/
def reloaded (a : Attempt) : Attempt := ⟨a.rule.reloaded, a.validator⟩

theorem reloaded_eq_self :
    a.reloaded = a ↔ ∀ k, a.rule.segment? = some (.token k) → k < twoTo 63 := by
  obtain ⟨rule, validator⟩ := a
  rw [reloaded, mk.injEq, Rule.reloaded_eq_self]
  exact and_iff_left rfl

/-- The members of an attempt. -/
theorem toJson_eq (a : Attempt) : ∃ condition : List (String × Json),
    a.toJson = .object (a.rule.toMembers ++ condition) ∧
      (a.validator = none ∧ condition = [] ∨
        ∃ v, a.validator = some v ∧ condition = [("validator", .string v.name)]) := by
  obtain ⟨rule, validator⟩ := a
  cases validator with
  | none => exact ⟨[], rfl, .inl ⟨rfl, rfl⟩⟩
  | some v => exact ⟨_, rfl, .inr ⟨v, rfl, rfl⟩⟩

/-- The record of a storable attempt is one. -/
theorem parses_toJson (h : a.rule.Storable) : Parses a.toJson a.reloaded := by
  obtain ⟨hdiffer, hname⟩ := Rule.namesDiffer_toMembers a.rule
  have hothers := Json.filter_other_names_eq_self hname
  have hrule := Rule.rule?_toMembers h
  obtain ⟨condition, hjson, hcondition⟩ := toJson_eq a
  rw [hjson]
  rcases hcondition with ⟨hnone, rfl⟩ | ⟨v, hsome, rfl⟩
  · rw [List.append_nil, parses_object hdiffer, readCondition, onlyMember?,
      Json.filter_name_eq_nil hname, hothers]
    exact ⟨congrArg Except.ok hnone.symm, hrule⟩
  · have hnames : NamesDiffer (a.rule.toMembers ++ [("validator", Json.string v.name)]) := by
      rw [NamesDiffer, List.map_append]
      refine List.nodup_append.mpr ⟨hdiffer, List.pairwise_singleton _ _, ?_⟩
      rintro name hname' _ hlast rfl
      obtain rfl := List.mem_singleton.mp hlast
      exact hname hname'
    have hv : Validator.ofName? v.name = some v := by cases v <;> decide
    rw [parses_object hnames, readCondition, onlyMember?, List.filter_append, List.filter_append,
      Json.filter_name_eq_nil hname, hothers]
    refine ⟨?_, ?_⟩
    · show (Validator.ofNameText v.name).map some = .ok a.validator
      rw [Validator.ofNameText, hv, hsome]
      rfl
    · show rule? (a.rule.toMembers ++ []) = _
      rw [List.append_nil, hrule]
      rfl

/-- An attempt that is read from numbers of 64 bits is storable. -/
theorem storable_of_ofTree {t : Tree} (ht : t.Fits) (h : ofTree t = .ok a) : a.rule.Storable := by
  rw [ofTree] at h
  obtain ⟨⟨validator, members⟩, hmembers, h⟩ := bind_eq_ok.mp h
  have hfits : ∀ m ∈ members, ∀ n, m.2 = .number n → n.Fits := by
    refine Tree.members_induction (P := fun s => ∀ m ∈ s.2, ∀ n, m.2 = .number n → n.Fits)
      (fun s key value hvalue s' hs hstep => ?_) (fun _ hm => absurd hm List.not_mem_nil) hmembers
    rw [readMember] at hstep
    split at hstep
    case isTrue =>
      -- the condition is kept apart from the members of the rule
      split at hstep
      case isTrue => cases hstep
      case isFalse =>
        obtain ⟨condition, -, hstep⟩ := bind_eq_ok.mp hstep
        obtain rfl := pure_eq_ok.mp hstep
        exact hs
    case isFalse =>
      obtain ⟨j, hj, hstep⟩ := bind_eq_ok.mp hstep
      obtain rfl := pure_eq_ok.mp hstep
      intro m hm n hn
      rcases List.mem_append.mp hm with hm | hm
      · exact hs m hm n hn
      · obtain rfl := List.mem_singleton.mp hm
        obtain rfl : j = .number n := hn
        exact (ht.part hvalue).ofJson hj
  dsimp only at h
  split at h
  case h_1 rule hrule =>
    obtain rfl := pure_eq_ok.mp h
    obtain ⟨j, -, hrule⟩ := Option.bind_eq_some_iff.mp hrule
    obtain ⟨kind, -, hrule⟩ := Option.bind_eq_some_iff.mp hrule
    exact Rule.storable_of_ofMembers? hfits hrule
  case h_2 => cases h

/-- A storable attempt is written as a value of whole numbers that is hardly nested. -/
theorem isWhole_toJson (h : a.rule.Storable) : a.toJson.IsWhole ∧ a.toJson.depth ≤ 2 := by
  obtain ⟨condition, hjson, hcondition⟩ := toJson_eq a
  have hmembers : ∀ m ∈ a.rule.toMembers ++ condition, m.2.IsWhole ∧ m.2.depth ≤ 1 := by
    intro m hm
    rcases List.mem_append.mp hm with hm | hm
    · exact Rule.isWhole_of_mem_toMembers h m hm
    · rcases hcondition with ⟨-, rfl⟩ | ⟨v, -, rfl⟩
      · exact nomatch hm
      · obtain rfl := List.mem_singleton.mp hm
        exact ⟨trivial, Nat.zero_le 1⟩
  rw [hjson]
  exact ⟨Json.membersAreWhole_iff.mpr fun m hm => (hmembers m hm).1,
    Nat.succ_le_succ (Json.depthMembers_le fun m hm => (hmembers m hm).2)⟩

/-- **Saving and reloading.** An attempt that was read from a text is written, with or without
indentation, as a text from which an attempt is read. It is the same, unless its segment is a token
beyond `2 ^ 63`: that one is written as a negative number. As a text, every segment is read again
as it was. -/
theorem reloads_iff {text : String} {a : Attempt} (h : Json.decode ofTree text = .ok a)
    (s : String) :
    Json.decode ofTree a.toJson.compact = .ok a.reloaded ∧
      Json.decode ofTree a.toJson.pretty = .ok a.reloaded ∧
      (a.reloaded = a ↔ ∀ k, a.rule.segment? = some (.token k) → k < twoTo 63) ∧
      Segment.ofText (Segment.ofText s).text = Segment.ofText s := by
  have hstorable : a.rule.Storable :=
    storable_of_ofTree (Json.Reading.fits_tree text) (Json.decode_eq_ok.mp h).1
  obtain ⟨hwhole, hdepth⟩ := isWhole_toJson hstorable
  have hlimit : a.toJson.depth ≤ Tree.maxDepth := Nat.le_trans hdepth (by decide)
  have hparses : ofTree (Tree.ofJson a.toJson) = .ok a.reloaded := parses_toJson hstorable
  exact ⟨((Json.isTextOf_compact hwhole).decode_eq hlimit).mpr hparses,
    ((Json.isTextOf_pretty hwhole).decode_eq hlimit).mpr hparses, reloaded_eq_self,
    Segment.ofText_text (Segment.isRead_ofText s)⟩

/-- A token at the limit is read again as it was. -/
theorem reloads_iff_largest :
    Json.decode ofTree "\x7b\"type\":\"FIXED\",\"line\":1,\"segment\":\"9223372036854775807\"\x7d" =
        .ok ⟨.line 1 (.token 9223372036854775807), none⟩ ∧
      reloaded ⟨.line 1 (.token 9223372036854775807), none⟩ =
        ⟨.line 1 (.token 9223372036854775807), none⟩ := by
  have hload : Json.decode ofTree
      "\x7b\"type\":\"FIXED\",\"line\":1,\"segment\":\"9223372036854775807\"\x7d" =
        .ok ⟨.line 1 (.token 9223372036854775807), none⟩ := eq_ok_of_toOption (by decide +kernel)
  obtain ⟨-, -, hsame, -⟩ := reloads_iff hload "1:3"
  refine ⟨hload, hsame.mpr fun k hk => ?_⟩
  cases hk
  decide

/-- A token beyond the limit is not read again as it was. -/
theorem exists_not_reloaded : ∃ a a' : Attempt,
    Json.decode ofTree "\x7b\"type\":\"FIXED\",\"line\":1,\"segment\":\"9223372036854775808\"\x7d" =
        .ok a ∧
      Json.decode ofTree a.toJson.compact = .ok a' ∧ a' ≠ a ∧
      a'.rule.segment? = some (.invalid "-9223372036854775808") := by
  refine ⟨⟨.line 1 (.token 9223372036854775808), none⟩,
    ⟨.line 1 (.invalid "-9223372036854775808"), none⟩, eq_ok_of_toOption (by decide +kernel),
    eq_ok_of_toOption (by decide +kernel), by decide, rfl⟩

end Attempt

end InvoiceFields
