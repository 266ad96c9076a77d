import InvoiceFields.Proofs.Extraction.Lookup
import InvoiceFields.Proofs.Json.Depth
import InvoiceFields.Proofs.Mapping.Building
import InvoiceFields.Proofs.Mapping.Records
import Mathlib.Data.List.Forall2
import Mathlib.Data.List.Nodup

/-!
# Mappings with records that are no attempts

A mapping in JSON lists records for the keys of fields. It can always be read: each record makes one
attempt, and one that is no attempt makes one that matches no document. Such records keep their
place in the list and change nothing that is extracted (`loads_every_record`).
-/

namespace InvoiceFields

open Json (Token Tree Members IsTextOf)

/-! ### Keys -/

namespace Field

variable {f g : Field} {key : String}

/-- A key names a field, whatever the case of its ASCII letters and the blanks around it. -/
def HasKey (f : Field) (key : String) : Prop :=
  Text.equalIgnoringAsciiCase f.key (Text.trim key) = true

/-- The key of a field in small letters. -/
private def smallKey (f : Field) : List Char := f.key.toList.map Text.asciiLowerChar

/-- A key names one field at most. -/
theorem eq_of_hasKey (hf : f.HasKey key) (hg : g.HasKey key) : f = g := by
  have hdiffer : (all.map smallKey).Nodup := by decide +kernel
  rw [HasKey, Text.equalIgnoringAsciiCase, beq_iff_eq] at hf hg
  have hsame : smallKey f = smallKey g := hf.trans hg.symm
  exact List.inj_on_of_nodup_map hdiffer (mem_all f) (mem_all g) hsame

theorem ofKey?_eq_some : ofKey? key = some f ↔ f.HasKey key := by
  have hfound : ∀ {g : Field}, ofKey? key = some g → g.HasKey key := by
    intro g h
    rw [ofKey?] at h
    have hkey := List.find?_some h
    exact hkey
  refine ⟨hfound, fun h => ?_⟩
  cases hg : ofKey? key with
  | none => exact absurd h (List.find?_eq_none.mp hg f (mem_all f))
  | some g => rw [eq_of_hasKey h (hfound hg)]

instance (f : Field) (key : String) : Decidable (f.HasKey key) :=
  inferInstanceAs (Decidable (Text.equalIgnoringAsciiCase f.key (Text.trim key) = true))

end Field

/-! ### Attempts that match nothing -/

namespace Attempt

/-- Attempts without those of unsupported rules. -/
def live (attempts : List Attempt) : List Attempt := attempts.filter (·.rule != .unsupported)

/-- An attempt of an unsupported rule gives no value. -/
theorem value?_of_unsupported {doc : Document} {settings : Settings} {f : Field} {a : Attempt}
    (h : a.rule = .unsupported) : a.value? doc settings f = none := by
  rw [value?, h]
  rfl

/-- Only attempts of supported rules count. -/
theorem firstValue?_live (doc : Document) (settings : Settings) (f : Field) :
    ∀ attempts : List Attempt,
      firstValue? doc settings f (live attempts) = firstValue? doc settings f attempts
  | [] => rfl
  | a :: rest => by
    have ih := firstValue?_live doc settings f rest
    rw [firstValue?, live] at ih
    rw [firstValue?, firstValue?, live, List.filter_cons, List.findSome?_cons]
    split
    case isTrue => rw [List.findSome?_cons, ih, firstValue?]
    case isFalse hdead =>
      have hrule : a.rule = .unsupported := by simpa using hdead
      rw [value?_of_unsupported hrule, ih, firstValue?]

end Attempt

namespace Mapping

variable {m m' : Mapping} {f : Field} {attempts attempts' : List Attempt}
variable {doc : Document} {settings : Settings} {rate : VatRate}

/-- A mapping without attempts of unsupported rules. -/
def live (m : Mapping) : Mapping := ⟨m.entries.map fun entry => (entry.1, Attempt.live entry.2)⟩

private theorem map_live_pushEntry (f : Field) (attempts : List Attempt) :
    ∀ entries : List (Field × List Attempt),
      (pushEntry f attempts entries).map (fun entry => (entry.1, Attempt.live entry.2)) =
        pushEntry f (Attempt.live attempts)
          (entries.map fun entry => (entry.1, Attempt.live entry.2))
  | [] => rfl
  | (g, existing) :: rest => by
    rw [pushEntry, List.map_cons, pushEntry]
    split
    case isTrue => rw [List.map_cons, Attempt.live, List.filter_append]; rfl
    case isFalse => rw [List.map_cons, map_live_pushEntry f attempts rest]

theorem live_push (m : Mapping) (f : Field) (attempts : List Attempt) :
    (m.push f attempts).live = m.live.push f (Attempt.live attempts) :=
  congrArg Mapping.mk (map_live_pushEntry f attempts m.entries)

/-- Attempts of unsupported rules change nothing that is extracted. -/
theorem extract_live (m : Mapping) (doc : Document) (settings : Settings) (rate : VatRate) :
    m.live.extract doc settings rate = m.extract doc settings rate := by
  have hresolve : ∀ skip : Field → Bool,
      m.live.resolve doc settings skip = m.resolve doc settings skip := by
    intro skip
    rw [resolve, resolve, live, List.filter_map, List.foldl_map]
    simp only [Attempt.firstValue?_live]
    rfl
  rw [extract, extract, hresolve]

/-! ### Lists of records -/

variable {lists before after : List (String × List Json)} {key : String}

/-- A mapping in JSON: lists of records by the keys of fields. -/
def objectOf (lists : List (String × List Json)) : Json :=
  .object (lists.map fun entry => (entry.1, .array entry.2))

/-- The records of a field, in their order under all its keys. -/
def recordsOf (f : Field) (lists : List (String × List Json)) : List Json :=
  (lists.filter fun entry => f.HasKey entry.1).flatMap (·.2)

/-- Adds the attempts of the records of a key. -/
def pushRecords (m : Mapping) (entry : String × List Json) : Mapping :=
  match Field.ofKey? entry.1 with
  | some f => m.push f (entry.2.map Attempt.ofRecord)
  | none => m

/-- A mapping in JSON is read when its keys name fields. -/
theorem ofTree_objectOf (hkeys : ∀ entry ∈ lists, ∃ f : Field, f.HasKey entry.1) :
    ofTree (Tree.ofJson (objectOf lists)) = .ok (lists.foldl pushRecords .empty) := by
  have hfold : ∀ m : Mapping,
      (lists.map fun entry => (entry.1, Json.array entry.2)).foldlM
        (fun m member => readMember m member.1 (Tree.ofJson member.2)) m =
          .ok (lists.foldl pushRecords m) := by
    induction lists with
    | nil => exact fun _ => rfl
    | cons entry rest ih =>
      intro m
      obtain ⟨⟨f, hf⟩, hrest⟩ := List.forall_mem_cons.mp hkeys
      have hkey := Field.ofKey?_eq_some.mpr hf
      have hstep : readMember m entry.1 (Tree.ofJson (.array entry.2)) =
          .ok (pushRecords m entry) := by
        refine readMember_eq_ok.mpr ⟨f, entry.2, ?_, Tree.list_json_ofJson entry.2, ?_⟩
        · rw [Field.ofKey, hkey]
        · rw [pushRecords, hkey]
      rw [List.map_cons, List.foldlM_cons, List.foldl_cons, bind_eq_ok]
      exact ⟨pushRecords m entry, hstep, ih hrest (pushRecords m entry)⟩
  rw [ofTree, objectOf, Tree.ofJson, Tree.members, if_neg Bool.false_ne_true, Members.fold_ofJson,
    hfold]

private theorem recordsOf_eq_nil (h : ¬ ∃ entry ∈ lists, f.HasKey entry.1) :
    recordsOf f lists = [] := by
  have hnone : lists.filter (fun entry => f.HasKey entry.1) = [] := by
    rw [List.filter_eq_nil_iff]
    exact fun entry hentry hkey => h ⟨entry, hentry, of_decide_eq_true hkey⟩
  rw [recordsOf, hnone, List.flatMap_nil]

private theorem recordsOf_cons (f : Field) (entry : String × List Json)
    (rest : List (String × List Json)) :
    recordsOf f (entry :: rest) =
      if f.HasKey entry.1 then entry.2 ++ recordsOf f rest else recordsOf f rest := by
  rw [recordsOf, List.filter_cons]
  by_cases hf : f.HasKey entry.1
  · rw [if_pos (decide_eq_true hf), if_pos hf, List.flatMap_cons, recordsOf]
  · rw [if_neg (by simpa using hf), if_neg hf, recordsOf]

/-- A field gets the attempts of its records behind those that it has, if a key names it. -/
theorem attempts?_foldl (f : Field) (hkeys : ∀ entry ∈ lists, ∃ f : Field, f.HasKey entry.1) :
    ∀ m : Mapping, (lists.foldl pushRecords m).attempts? f =
      if ∃ entry ∈ lists, f.HasKey entry.1 then
        some ((m.attempts? f).getD [] ++ (recordsOf f lists).map Attempt.ofRecord)
      else m.attempts? f := by
  induction lists with
  | nil => exact fun m => by rw [List.foldl_nil, if_neg fun ⟨_, h, _⟩ => nomatch h]
  | cons entry rest ih =>
    intro m
    obtain ⟨⟨g, hg⟩, hrest⟩ := List.forall_mem_cons.mp hkeys
    have hpush : pushRecords m entry = m.push g (entry.2.map Attempt.ofRecord) := by
      rw [pushRecords, Field.ofKey?_eq_some.mpr hg]
    rw [List.foldl_cons, ih hrest, hpush, attempts?_push, recordsOf_cons]
    by_cases hf : f.HasKey entry.1
    · obtain rfl := Field.eq_of_hasKey hf hg
      have hsome : ∃ entry' ∈ entry :: rest, f.HasKey entry'.1 :=
        ⟨entry, List.mem_cons_self, hf⟩
      rw [if_pos hf, if_pos rfl, if_pos hsome, Option.getD_some]
      split
      case isTrue => rw [List.map_append, List.append_assoc]
      case isFalse hnone => rw [recordsOf_eq_nil hnone, List.append_nil]
    · have hne : ¬ f = g := fun h => hf (h ▸ hg)
      have hexists : (∃ entry' ∈ entry :: rest, f.HasKey entry'.1) ↔
          ∃ entry' ∈ rest, f.HasKey entry'.1 := by
        simp only [List.mem_cons, exists_eq_or_imp, hf, false_or]
      rw [if_neg hne, if_neg hf]
      simp only [hexists]

/-! ### Records that are no attempts -/

private theorem live_pushRecords (h : m.live = m'.live) (entry : String × List Json) :
    (pushRecords m entry).live = (pushRecords m' entry).live := by
  rw [pushRecords, pushRecords]
  split
  case h_1 => rw [live_push, live_push, h]
  case h_2 => exact h

private theorem live_foldl_pushRecords (h : m.live = m'.live) :
    (lists.foldl pushRecords m).live = (lists.foldl pushRecords m').live := by
  induction lists generalizing m m' with
  | nil => exact h
  | cons entry rest ih =>
    rw [List.foldl_cons, List.foldl_cons]
    exact ih (live_pushRecords h entry)

/-- A record that makes the attempt that never succeeds changes no attempt that counts. -/
theorem live_foldl_insert {records₁ records₂ : List Json} {record : Json}
    (h : Attempt.ofRecord record = .inert) :
    ((before ++ (key, records₁ ++ record :: records₂) :: after).foldl pushRecords m).live =
      ((before ++ (key, records₁ ++ records₂) :: after).foldl pushRecords m).live := by
  have hlive : Attempt.live ((records₁ ++ record :: records₂).map Attempt.ofRecord) =
      Attempt.live ((records₁ ++ records₂).map Attempt.ofRecord) := by
    rw [List.map_append, List.map_cons, List.map_append, h, Attempt.live, Attempt.live,
      List.filter_append, List.filter_cons, List.filter_append]
    rfl
  rw [List.foldl_append, List.foldl_append, List.foldl_cons, List.foldl_cons]
  refine live_foldl_pushRecords ?_
  rw [pushRecords, pushRecords]
  cases Field.ofKey? key with
  | none => rfl
  | some f =>
    dsimp only
    rw [live_push, live_push, hlive]

/-! ### Reading lists of records -/

/-- Every key names a field, and every record is nested at most 100 levels deep and has no repeated
names. -/
def Readable (lists : List (String × List Json)) : Prop :=
  ∀ entry ∈ lists, (∃ f : Field, f.HasKey entry.1) ∧
    ∀ record ∈ entry.2, record.depth ≤ 100 ∧ Attempt.Unrepeated record

/-- A record stands in one of the lists, which are else the same. -/
def Inserted (record : Json) (lists lists' : List (String × List Json)) : Prop :=
  ∃ before key records₁ records₂ after,
    lists = before ++ (key, records₁ ++ records₂) :: after ∧
      lists' = before ++ (key, records₁ ++ record :: records₂) :: after

theorem Readable.keys (h : Readable lists) (entry : String × List Json) (hentry : entry ∈ lists) :
    ∃ f : Field, f.HasKey entry.1 := (h entry hentry).1

theorem Readable.depth_le (h : Readable lists) : (objectOf lists).depth ≤ Tree.maxDepth := by
  have hmembers : Json.depthMembers (lists.map fun entry => (entry.1, .array entry.2)) ≤ 101 := by
    refine Json.depthMembers_le fun m hm => ?_
    obtain ⟨entry, hentry, rfl⟩ := List.mem_map.mp hm
    exact Nat.succ_le_succ
      (Json.depthElements_le fun record hrecord => ((h entry hentry).2 record hrecord).1)
  rw [objectOf, Json.depth, Tree.maxDepth]
  omega

theorem Readable.inserted {record : Json} {lists' : List (String × List Json)}
    (h : Readable lists) (hdepth : record.depth ≤ 100) (hunrepeated : Attempt.Unrepeated record)
    (hinserted : Inserted record lists lists') : Readable lists' := by
  obtain ⟨before, key, records₁, records₂, after, rfl, rfl⟩ := hinserted
  intro entry hentry
  rcases List.mem_append.mp hentry with hentry | hentry
  · exact h entry (List.mem_append_left _ hentry)
  · rcases List.mem_cons.mp hentry with rfl | hentry
    · obtain ⟨hkey, hrecords⟩ :=
        h (key, records₁ ++ records₂) (List.mem_append_right _ List.mem_cons_self)
      refine ⟨hkey, fun r hr => ?_⟩
      rcases List.mem_append.mp hr with hr | hr
      · exact hrecords r (List.mem_append_left _ hr)
      · rcases List.mem_cons.mp hr with rfl | hr
        · exact ⟨hdepth, hunrepeated⟩
        · exact hrecords r (List.mem_append_right _ hr)
    · exact h entry (List.mem_append_right _ (List.mem_cons_of_mem _ hentry))

/-- A text of readable lists is read as the attempts of their records. -/
theorem decode_objectOf {text : String} (h : Readable lists)
    (htext : IsTextOf text (objectOf lists)) :
    Json.decode ofTree text = .ok (lists.foldl pushRecords .empty) :=
  (htext.decode_eq h.depth_le).mpr (ofTree_objectOf h.keys)

/-- A record makes an attempt: the one that it is, or else one that matches no document. -/
def Makes (record : Json) (a : Attempt) : Prop :=
  Attempt.Parses record a ∨
    (∀ b, ¬ Attempt.Parses record b) ∧ ∀ doc, a.rule.evaluate? doc = none

theorem makes_ofRecord {record : Json} (h : Attempt.Unrepeated record) :
    Makes record (Attempt.ofRecord record) := by
  by_cases hparses : ∃ a, Attempt.Parses record a
  · obtain ⟨a, ha⟩ := hparses
    rw [Attempt.ofRecord_of_parses h ha]
    exact .inl ha
  · rw [not_exists] at hparses
    rw [Attempt.ofRecord_of_not_parses h hparses]
    exact .inr ⟨hparses, fun _ => rfl⟩

/-- **A mapping is read with one attempt for each record.** A field has attempts if a key names it:
one for each record under its keys, in order. A record that is an attempt makes that attempt, and
any other makes one that matches no document; such a record may stand anywhere and changes nothing
that is extracted. -/
theorem loads_every_record {text : String} (h : Readable lists)
    (htext : IsTextOf text (objectOf lists)) :
    ∃ m, Json.decode ofTree text = .ok m ∧
      (∀ f, (m.attempts? f = none ↔ ∀ entry ∈ lists, ¬ f.HasKey entry.1) ∧
        List.Forall₂ Makes (recordsOf f lists) ((m.attempts? f).getD [])) ∧
      ∀ record lists' text', Inserted record lists lists' → record.depth ≤ 100 →
        Attempt.Unrepeated record → (∀ a, ¬ Attempt.Parses record a) →
        IsTextOf text' (objectOf lists') →
        ∃ m', Json.decode ofTree text' = .ok m' ∧ ∀ doc settings rate,
          m'.extract doc settings rate = m.extract doc settings rate := by
  refine ⟨_, decode_objectOf h htext, fun f => ?_, ?_⟩
  · rw [attempts?_foldl f h.keys]
    split
    case isTrue hsome =>
      obtain ⟨entry, hentry, hkey⟩ := hsome
      refine ⟨iff_of_false (nofun) fun hnone => hnone entry hentry hkey, ?_⟩
      rw [Option.getD_some, empty, attempts?, List.lookup_nil, Option.getD_none, List.nil_append,
        List.forall₂_map_right_iff, List.forall₂_same]
      intro record hrecord
      obtain ⟨entry, hentry, hrecord⟩ := List.mem_flatMap.mp hrecord
      exact makes_ofRecord ((h entry (List.mem_filter.mp hentry).1).2 record hrecord).2
    case isFalse hnone =>
      rw [recordsOf_eq_nil hnone]
      exact ⟨iff_of_true rfl fun entry hentry hkey => hnone ⟨entry, hentry, hkey⟩, .nil⟩
  · intro record lists' text' hinserted hdepth hunrepeated hparses htext'
    have h' : Readable lists' := h.inserted hdepth hunrepeated hinserted
    refine ⟨_, decode_objectOf h' htext', fun doc settings rate => ?_⟩
    obtain ⟨before, key, records₁, records₂, after, rfl, rfl⟩ := hinserted
    rw [← extract_live, live_foldl_insert (Attempt.ofRecord_of_not_parses hunrepeated hparses),
      extract_live]

/-- A record that puts a fixed text into a field. -/
private def fixedRecord : Json := .object [("type", .string "FIXED_VALUE"), ("value", .string "7")]

/-- A mapping with that record. -/
private def fixedText : String :=
  "\x7b\"tax\":[\x7b\"type\":\"FIXED_VALUE\",\"value\":\"7\"\x7d]\x7d"

/-- The mapping with a null in front of that record. -/
private def nullText : String :=
  "\x7b\"tax\":[null,\x7b\"type\":\"FIXED_VALUE\",\"value\":\"7\"\x7d]\x7d"

/-- The token of a word in quotes. -/
private def quotedWord (s : String) : Token := .string (.ok s) (.ok ())

/-- The tokens of the record. -/
private def fixedTokens : List Token :=
  [.openObject, quotedWord "type", .colon, quotedWord "FIXED_VALUE", .comma, quotedWord "value",
    .colon, quotedWord "7", .closeObject]

/-- A null in front of a record makes a mapping that extracts the same. -/
theorem loads_every_record_fixed :
    ∃ m m', Json.decode ofTree fixedText = .ok m ∧ Json.decode ofTree nullText = .ok m' ∧
      List.Forall₂ Makes [fixedRecord] ((m.attempts? .tax).getD []) ∧
      ∀ doc settings rate, m'.extract doc settings rate = m.extract doc settings rate := by
  have hreadable : Readable [("tax", [fixedRecord])] := by
    intro entry hentry
    rw [List.mem_singleton.mp hentry]
    refine ⟨⟨.tax, by decide +kernel⟩, fun record hrecord => ?_⟩
    rw [List.mem_singleton.mp hrecord]
    exact ⟨by decide +kernel, (by decide : List.Nodup ["type", "value"]), by simp⟩
  have hfixed : IsTextOf fixedText (.object [("tax", .array [fixedRecord])]) := by
    have htokens : Token.ofChars fixedText.toList =
        [.openObject, quotedWord "tax", .colon, .openArray] ++ fixedTokens ++
          [.closeArray, .closeObject] := rfl
    exact .of_tokens htokens (by cbv)
  have hnull : IsTextOf nullText (.object [("tax", .array [.null, fixedRecord])]) := by
    have htokens : Token.ofChars nullText.toList =
        [.openObject, quotedWord "tax", .colon, .openArray, .null, .comma] ++ fixedTokens ++
          [.closeArray, .closeObject] := rfl
    exact .of_tokens htokens (by cbv)
  have hinserted : Inserted .null [("tax", [fixedRecord])] [("tax", [.null, fixedRecord])] :=
    ⟨[], "tax", [], _, [], rfl, rfl⟩
  obtain ⟨m, hm, hfields, hinsert⟩ := loads_every_record hreadable hfixed
  have hparses : ∀ a, ¬ Attempt.Parses .null a := by
    intro a h
    cases h
  obtain ⟨m', hm', hsame⟩ := hinsert _ _ _ hinserted (by decide +kernel) trivial hparses hnull
  exact ⟨m, m', hm, hm', (hfields .tax).2, hsame⟩

end Mapping

end InvoiceFields
