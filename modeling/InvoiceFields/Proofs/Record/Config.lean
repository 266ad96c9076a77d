import InvoiceFields.Proofs.Decimal.Rereading
import InvoiceFields.Proofs.Json.Canonical
import InvoiceFields.Proofs.Json.Rereading
import InvoiceFields.Proofs.Record.Parts
import InvoiceFields.Record.Config
import Mathlib.Logic.Basic

/-!
# Configurations that are changed in part

A configuration is written as JSON and read again (`Config.ofTree_toJson`). If its canonical form is
changed at a place before, then what is read is the configuration with that part changed, and the
part is what its own type reads at the place (`Config.editable`). The reason is the same for every
record in it: an object with a member for each part is read part by part (`Config.ofTree_parts`).
-/

namespace InvoiceFields

open Json (Fault Tree Slot Editable fillSlot)

/-! ### Scalars and lists -/

/-- What is read at a place of a value without places inside. -/
def Json.scalarPart {α : Type} (read : Tree → Except Fault α) (write : α → Json) :
    List String → Tree → Except Fault Json
  | [], t => (read t).map write
  | _, t => .error t.misfit

/-- A list of texts as JSON. -/
def Json.ofTexts (texts : List String) : Json := .array (texts.map .string)

/-- What is read at a place of a list of texts. -/
def Json.textsPart : List String → Tree → Except Fault Json
  | [], t => (t.list Tree.text).map ofTexts
  | [_], t => t.text.map .string
  | _, t => .error t.misfit

namespace Json

theorem editable_rate : Editable VatRate.ofTree VatRate.toJson
    (scalarPart VatRate.ofTree VatRate.toJson) := by
  refine .of_leaf (fun rate => ?_) (fun _ => rfl) fun _ _ => rfl
  rw [VatRate.toJson, Tree.ofJson, VatRate.ofTree]
  simp only [VatRate.readDecimal, Decimal.read?_text, VatRate.ofFraction, rate.positive, bind,
    Except.bind, dif_pos]
  rfl

theorem editable_optionalText : Editable (Tree.optional Tree.text) (ofOption .string)
    (scalarPart (Tree.optional Tree.text) (ofOption .string)) := by
  refine .of_leaf (fun text => ?_) (fun _ => rfl) fun text _ => ?_
  · cases text <;> rfl
  · cases text <;> rfl

theorem editable_count : Editable Tree.count ofNat (scalarPart Tree.count ofNat) := by
  refine .of_leaf (fun n => ?_) (fun _ => rfl) fun _ _ => rfl
  rw [ofNat, ofInt, Tree.ofJson, Tree.count, if_pos (Int.natCast_nonneg n)]
  rfl

theorem editable_flag : Editable Tree.flag .bool (scalarPart Tree.flag .bool) :=
  .of_leaf (fun _ => rfl) (fun _ => rfl) fun _ _ => rfl

private theorem each_text_map_string : ∀ texts : List String,
    (Elements.ofJson (texts.map .string)).each Tree.text = .ok texts
  | [] => rfl
  | text :: texts => by
    rw [List.map_cons, Elements.ofJson, Elements.each, each_text_map_string texts]
    rfl

/-- Elements of which one has been replaced are texts if the new one is. -/
private theorem each_text_set : ∀ {texts texts' : List String} {i : Nat} {v : Json},
    (Elements.ofJson ((texts.map .string).set i v)).each Tree.text = .ok texts' →
      i < texts.length → ∃ s, (Tree.ofJson v).text = .ok s ∧ texts' = texts.set i s
  | text :: texts, texts', 0, v, h, _ => by
    rw [List.map_cons, List.set_cons_zero, Elements.ofJson, Elements.each,
      each_text_map_string texts] at h
    obtain ⟨s, hs, h⟩ := bind_eq_ok.mp h
    obtain ⟨_, hrest, h⟩ := bind_eq_ok.mp h
    cases hrest
    exact ⟨s, hs, (pure_eq_ok.mp h).symm⟩
  | text :: texts, texts', i + 1, v, h, hi => by
    rw [List.map_cons, List.set_cons_succ, Elements.ofJson, Elements.each] at h
    obtain ⟨_, htext, h⟩ := bind_eq_ok.mp h
    obtain ⟨rest, hrest, h⟩ := bind_eq_ok.mp h
    cases htext
    obtain ⟨s, hs, rfl⟩ := each_text_set hrest (Nat.lt_of_succ_lt_succ hi)
    exact ⟨s, hs, (pure_eq_ok.mp h).symm⟩

private theorem list_text_array (js : List Json) : (Tree.ofJson (.array js)).list Tree.text =
    (Elements.ofJson js).each Tree.text := by
  rw [Tree.ofJson, Tree.list, if_neg Bool.false_ne_true]

theorem editable_texts : Editable (Tree.list Tree.text) ofTexts textsPart := by
  refine ⟨fun texts => ?_, fun _ => rfl, fun {texts name names v changed texts'} hput hread => ?_⟩
  · rw [ofTexts, list_text_array, each_text_map_string]
  · obtain ⟨child, inner, hchild, hinner, rfl⟩ := put?_cons_eq_some.mp hput
    obtain ⟨i, hi, hchild⟩ := Option.bind_eq_some_iff.mp hchild
    rw [List.getElem?_map] at hchild
    obtain ⟨text, htext, rfl⟩ := Option.map_eq_some_iff.mp hchild
    have hlt : i < texts.length := (List.getElem?_eq_some_iff.mp htext).1
    have hchange : ∀ j, putChild name j (ofTexts texts) = .array ((texts.map .string).set i j) := by
      intro j
      rw [ofTexts, putChild, hi]
      rfl
    cases names with
    | cons => cases hinner
    | nil =>
      obtain rfl := Option.some.inj hinner
      rw [hchange, list_text_array] at hread
      obtain ⟨s, hs, rfl⟩ := each_text_set hread hlt
      refine ⟨.string s, by rw [textsPart, hs]; rfl, ?_⟩
      refine put?_cons_eq_some.mpr ⟨.string text, .string s, ?_, rfl, ?_⟩
      · rw [ofTexts, child?, hi, Option.bind_some, List.getElem?_map, htext, Option.map_some]
      · rw [hchange, ofTexts, List.map_set]

end Json

/-! ### Batches -/

/-- What is read at a place inside the configuration of a batch. -/
def BatchConfig.readPart : List String → Tree → Except Fault Json
  | [], t => (ofTree t).map (·.toJson.canonical)
  | "jobs" :: names, t => Json.scalarPart Tree.count Json.ofNat names t
  | "extensions" :: names, t => Json.textsPart names t
  | _, t => .error t.misfit

namespace BatchConfig

/-- The parts of a configuration, sorted. -/
def parts : List (Json.Part BatchConfig) := [
  ⟨"extensions", extensions, Tree.list Tree.text, .ofTexts, Json.textsPart, Json.editable_texts⟩,
  ⟨"jobs", jobs, Tree.count, .ofNat, Json.scalarPart Tree.count .ofNat, Json.editable_count⟩]

theorem toJson_canonical (c : BatchConfig) :
    c.toJson.canonical = Json.Part.objectOf parts (·.value c) := by
  have htexts : (Json.ofTexts c.extensions).canonical = .ofTexts c.extensions := by
    rw [Json.ofTexts, Json.canonical, Json.canonicalElements_eq_map, List.map_map]
    rfl
  show Json.object (Json.sortMembers
    [("jobs", .ofNat c.jobs), ("extensions", (Json.ofTexts c.extensions).canonical)]) = _
  rw [htexts]
  rfl

theorem ofTree_parts (value : Json.Part BatchConfig → Json) (c : BatchConfig) :
    ofTree (Tree.ofJson (Json.Part.objectOf parts value)) = .ok c ↔
      ∀ p ∈ parts, p.Reads (value p) c := by
  obtain ⟨n, texts⟩ := c
  have hextensions := fun j s s' =>
    Slot.fillSlot_eq_ok BatchParts.slots "extensions" (Tree.ofJson j) s s' rfl
  have hjobs := fun j s s' => Slot.fillSlot_eq_ok BatchParts.slots "jobs" (Tree.ofJson j) s s' rfl
  rw [ofTree, Json.Part.objectOf, Tree.record_object]
  simp (disch := simp) only [parts, List.map_cons, List.map_nil, List.foldlM_cons, List.foldlM_nil,
    bind_eq_ok, hextensions, hjobs, pure_eq_ok, exists_eq_left', exists_exists_and_eq_and,
    bind_assoc, Option.getD_some, mk.injEq, List.forall_mem_cons, Json.Part.Reads]
  constructor
  · rintro ⟨_, htexts, _, hn, rfl, rfl⟩
    exact ⟨htexts, hn, List.forall_mem_nil _⟩
  · rintro ⟨htexts, hn, -⟩
    exact ⟨_, htexts, _, hn, rfl, rfl⟩

theorem ofTree_toJson (c : BatchConfig) : ofTree (Tree.ofJson c.toJson) = .ok c := by
  have hjobs := Json.editable_count.reload c.jobs
  have htexts := Json.editable_texts.reload c.extensions
  rw [toJson, ← Json.ofTexts, ofTree, Tree.record_object]
  simp [fillSlot, BatchParts.slots, Slot.part, hjobs, htexts, Except.map, bind, Except.bind]
  rfl

theorem editable : Editable ofTree (·.toJson.canonical) readPart := by
  refine .of_parts (by decide) toJson_canonical ofTree_parts (fun _ => rfl) ?_
  simp only [parts, List.forall_mem_cons]
  exact ⟨fun _ _ => rfl, fun _ _ => rfl, List.forall_mem_nil _⟩

end BatchConfig

/-! ### The extraction -/

/-- What is read at a place inside the configuration of the extraction. -/
def ExtractionConfig.readPart : List String → Tree → Except Fault Json
  | [], t => (ofTree t).map (·.toJson.canonical)
  | "vat_rate" :: names, t => Json.scalarPart VatRate.ofTree VatRate.toJson names t
  | "receiver_tax_id" :: names, t =>
    Json.scalarPart (Tree.optional Tree.text) (Json.ofOption .string) names t
  | "header_scan_lines" :: names, t => Json.scalarPart Tree.count Json.ofNat names t
  | "validate_tax_ids" :: names, t => Json.scalarPart Tree.flag .bool names t
  | "rules_path" :: names, t =>
    Json.scalarPart (Tree.optional Tree.text) (Json.ofOption .string) names t
  | _, t => .error t.misfit

namespace ExtractionConfig

/-- A text that may be left out, as a part of a configuration. -/
def optionalPart (key : String) (get : ExtractionConfig → Option String) :
    Json.Part ExtractionConfig :=
  ⟨key, get, Tree.optional Tree.text, .ofOption .string,
    Json.scalarPart (Tree.optional Tree.text) (.ofOption .string), Json.editable_optionalText⟩

/-- The parts of a configuration, sorted. -/
def parts : List (Json.Part ExtractionConfig) := [
  ⟨"header_scan_lines", headerLines, Tree.count, .ofNat, Json.scalarPart Tree.count .ofNat,
    Json.editable_count⟩,
  optionalPart "receiver_tax_id" receiver,
  optionalPart "rules_path" rulesPath,
  ⟨"validate_tax_ids", validated, Tree.flag, .bool, Json.scalarPart Tree.flag .bool,
    Json.editable_flag⟩,
  ⟨"vat_rate", rate, VatRate.ofTree, VatRate.toJson, Json.scalarPart VatRate.ofTree VatRate.toJson,
    Json.editable_rate⟩]

theorem toJson_canonical (c : ExtractionConfig) :
    c.toJson.canonical = Json.Part.objectOf parts (·.value c) := by
  have hoption : ∀ text : Option String,
      (Json.ofOption Json.string text).canonical = .ofOption .string text := by
    rintro (_ | _) <;> rfl
  show Json.object (Json.sortMembers [
    ("vat_rate", c.rate.toJson),
    ("receiver_tax_id", (Json.ofOption .string c.receiver).canonical),
    ("header_scan_lines", .ofNat c.headerLines),
    ("validate_tax_ids", .bool c.validated),
    ("rules_path", (Json.ofOption .string c.rulesPath).canonical)]) = _
  rw [hoption, hoption]
  rfl

theorem ofTree_parts (value : Json.Part ExtractionConfig → Json) (c : ExtractionConfig) :
    ofTree (Tree.ofJson (Json.Part.objectOf parts value)) = .ok c ↔
      ∀ p ∈ parts, p.Reads (value p) c := by
  obtain ⟨r, text, n, b, path⟩ := c
  have hlines := fun j s s' => Slot.fillSlot_eq_ok ExtractionParts.slots "header_scan_lines"
    (Tree.ofJson j) s s' rfl
  have hreceiver := fun j s s' => Slot.fillSlot_eq_ok ExtractionParts.slots "receiver_tax_id"
    (Tree.ofJson j) s s' rfl
  have hpath := fun j s s' => Slot.fillSlot_eq_ok ExtractionParts.slots "rules_path"
    (Tree.ofJson j) s s' rfl
  have hvalidated := fun j s s' => Slot.fillSlot_eq_ok ExtractionParts.slots "validate_tax_ids"
    (Tree.ofJson j) s s' rfl
  have hrate := fun j s s' => Slot.fillSlot_eq_ok ExtractionParts.slots "vat_rate"
    (Tree.ofJson j) s s' rfl
  rw [ofTree, Json.Part.objectOf, Tree.record_object]
  simp (disch := simp) only [parts, optionalPart, List.map_cons, List.map_nil, List.foldlM_cons,
    List.foldlM_nil, bind_eq_ok, hlines, hreceiver, hpath, hvalidated, hrate, pure_eq_ok,
    exists_eq_left', exists_exists_and_eq_and, bind_assoc, Option.getD_some, mk.injEq,
    List.forall_mem_cons, Json.Part.Reads]
  constructor
  · rintro ⟨_, hn, _, htext, _, hpath, _, hb, _, hr, rfl, rfl, rfl, rfl, rfl⟩
    exact ⟨hn, htext, hpath, hb, hr, List.forall_mem_nil _⟩
  · rintro ⟨hn, htext, hpath, hb, hr, -⟩
    exact ⟨_, hn, _, htext, _, hpath, _, hb, _, hr, rfl, rfl, rfl, rfl, rfl⟩

/-- A configuration that is written in any order is read again. -/
theorem ofTree_toJson (c : ExtractionConfig) : ofTree (Tree.ofJson c.toJson) = .ok c := by
  have hrate := Json.editable_rate.reload c.rate
  have hreceiver := Json.editable_optionalText.reload c.receiver
  have hlines := Json.editable_count.reload c.headerLines
  have hpath := Json.editable_optionalText.reload c.rulesPath
  rw [toJson, ofTree, Tree.record_object]
  simp [fillSlot, ExtractionParts.slots, Slot.part, hrate, hreceiver, hlines, hpath, Except.map,
    bind, Except.bind]
  rfl

theorem editable : Editable ofTree (·.toJson.canonical) readPart := by
  refine .of_parts (by decide) toJson_canonical ofTree_parts (fun _ => rfl) ?_
  simp only [parts, List.forall_mem_cons]
  exact ⟨fun _ _ => rfl, fun _ _ => rfl, fun _ _ => rfl, fun _ _ => rfl, fun _ _ => rfl,
    List.forall_mem_nil _⟩

end ExtractionConfig

/-! ### The whole configuration -/

/-- What is read at a place inside a configuration. -/
def Config.readPart : List String → Tree → Except Fault Json
  | [], t => (ofTree t).map (·.toJson.canonical)
  | "extraction" :: names, t => ExtractionConfig.readPart names t
  | "batch" :: names, t => BatchConfig.readPart names t
  | _, t => .error t.misfit

namespace Config

variable {c : Config}

/-- The parts of a configuration, sorted. -/
def parts : List (Json.Part Config) := [
  ⟨"batch", batch, BatchConfig.ofTree, (·.toJson.canonical), BatchConfig.readPart,
    BatchConfig.editable⟩,
  ⟨"extraction", extraction, ExtractionConfig.ofTree, (·.toJson.canonical),
    ExtractionConfig.readPart, ExtractionConfig.editable⟩]

theorem toJson_canonical (c : Config) :
    c.toJson.canonical = Json.Part.objectOf parts (·.value c) := by
  show c.toJson.canonical = .object
    [("batch", c.batch.toJson.canonical), ("extraction", c.extraction.toJson.canonical)]
  rw [toJson]
  generalize c.batch.toJson = b, c.extraction.toJson = e
  rfl

theorem ofTree_parts (value : Json.Part Config → Json) (c : Config) :
    ofTree (Tree.ofJson (Json.Part.objectOf parts value)) = .ok c ↔
      ∀ p ∈ parts, p.Reads (value p) c := by
  obtain ⟨e, b⟩ := c
  have hbatch := fun j s s' =>
    Slot.fillSlot_eq_ok ConfigParts.slots "batch" (Tree.ofJson j) s s' rfl
  have hextraction := fun j s s' =>
    Slot.fillSlot_eq_ok ConfigParts.slots "extraction" (Tree.ofJson j) s s' rfl
  rw [ofTree, Json.Part.objectOf, Tree.record_object]
  simp (disch := simp) only [parts, List.map_cons, List.map_nil, List.foldlM_cons, List.foldlM_nil,
    bind_eq_ok, hbatch, hextraction, pure_eq_ok, exists_eq_left', exists_exists_and_eq_and,
    bind_assoc, Option.getD_some, mk.injEq, List.forall_mem_cons, Json.Part.Reads]
  constructor
  · rintro ⟨_, hb, _, he, rfl, rfl⟩
    exact ⟨hb, he, List.forall_mem_nil _⟩
  · rintro ⟨hb, he, -⟩
    exact ⟨_, hb, _, he, rfl, rfl⟩

theorem ofTree_toJson (c : Config) : ofTree (Tree.ofJson c.toJson) = .ok c := by
  have hextraction := ExtractionConfig.ofTree_toJson c.extraction
  have hbatch := BatchConfig.ofTree_toJson c.batch
  rw [toJson, ofTree, Tree.record_object]
  simp [fillSlot, ConfigParts.slots, Slot.part, hextraction, hbatch, Except.map, bind, Except.bind]
  rfl

/-- A configuration that is changed in one part is read with that part changed. -/
theorem editable : Editable ofTree (·.toJson.canonical) readPart := by
  refine .of_parts (by decide) toJson_canonical ofTree_parts (fun _ => rfl) ?_
  simp only [parts, List.forall_mem_cons]
  exact ⟨fun _ _ => rfl, fun _ _ => rfl, List.forall_mem_nil _⟩

/-! ### Texts of configurations -/

/-- The numbers of a configuration have 64 bits. -/
structure Storable (c : Config) : Prop where
  headerLines : c.extraction.headerLines < twoTo 64
  jobs : c.batch.jobs < twoTo 64

theorem storable_standard : standard.Storable := ⟨by decide, by decide⟩

/-- A storable configuration is written as a value of whole numbers that is hardly nested. -/
theorem isWhole_toJson (h : c.Storable) : c.toJson.IsWhole ∧ c.toJson.depth ≤ 3 := by
  have hnumber : ∀ n, n < twoTo 64 → (Json.ofNat n).IsWhole := by
    intro n hn
    refine ⟨?_, ?_⟩ <;> show _ <;> omega
  have hoption : ∀ text : Option String, (Json.ofOption .string text).IsWhole ∧
      (Json.ofOption .string text).depth = 0 := by
    rintro (_ | _) <;> exact ⟨trivial, rfl⟩
  have htexts : (Json.ofTexts c.batch.extensions).IsWhole ∧
      (Json.ofTexts c.batch.extensions).depth ≤ 1 := by
    constructor
    · refine Json.areWhole_iff.mpr fun j hj => ?_
      obtain ⟨s, -, rfl⟩ := List.mem_map.mp hj
      trivial
    · refine Nat.succ_le_succ (Json.depthElements_le fun j hj => ?_)
      obtain ⟨s, -, rfl⟩ := List.mem_map.mp hj
      exact Nat.le_refl 0
  obtain ⟨hreceiver, hreceiverDepth⟩ := hoption c.extraction.receiver
  obtain ⟨hpath, hpathDepth⟩ := hoption c.extraction.rulesPath
  have hextraction : c.extraction.toJson.IsWhole ∧ c.extraction.toJson.depth ≤ 2 := by
    refine ⟨⟨trivial, hreceiver, hnumber _ h.headerLines, trivial, hpath, trivial⟩, ?_⟩
    simp only [ExtractionConfig.toJson, Json.depth, Json.depthMembers, hreceiverDepth, hpathDepth,
      VatRate.toJson, Json.ofNat, Json.ofInt]
    decide
  have hbatch : c.batch.toJson.IsWhole ∧ c.batch.toJson.depth ≤ 2 := by
    refine ⟨⟨hnumber _ h.jobs, htexts.1, trivial⟩, ?_⟩
    exact Nat.succ_le_succ (Nat.max_le.mpr
      ⟨Nat.zero_le 1, Nat.max_le.mpr ⟨htexts.2, Nat.zero_le 1⟩⟩)
  refine ⟨⟨hextraction.1, hbatch.1, trivial⟩, ?_⟩
  exact Nat.succ_le_succ (Nat.max_le.mpr
    ⟨hextraction.2, Nat.max_le.mpr ⟨hbatch.2, Nat.zero_le 2⟩⟩)

/-- A storable configuration is read again from the text that it is written as. -/
theorem ofText_pretty (h : c.Storable) : ofText c.toJson.pretty = .ok c := by
  obtain ⟨hwhole, hdepth⟩ := isWhole_toJson h
  have hlimit : c.toJson.depth ≤ Tree.maxDepth := Nat.le_trans hdepth (by decide)
  exact ((Json.isTextOf_pretty hwhole).decode_eq hlimit).mpr (ofTree_toJson c)

private theorem headerLines_lt {t : Tree} {e : ExtractionConfig} (ht : t.Fits)
    (h : ExtractionConfig.ofTree t = .ok e) : e.headerLines < twoTo 64 := by
  obtain ⟨s, hs, h⟩ := bind_eq_ok.mp h
  obtain rfl := pure_eq_ok.mp h
  have hlines : ∀ n, s.headerLines = some n → n < twoTo 64 := by
    refine Tree.record_induction (P := fun s => ∀ n, s.headerLines = some n → n < twoTo 64)
      (fun slot hslot s part hpart s' hs hfill => ?_) (by rintro _ ⟨⟩) hs
    simp only [ExtractionParts.slots, List.mem_cons, List.not_mem_nil, or_false] at hslot
    rcases hslot with rfl | rfl | rfl | rfl | rfl
    case inr.inr.inl =>
      obtain ⟨n, hn, rfl⟩ := map_eq_ok.mp hfill
      rintro _ ⟨⟩
      exact Tree.lt_of_count_eq_ok (ht.part hpart) hn
    all_goals
      obtain ⟨x, -, rfl⟩ := map_eq_ok.mp hfill
      exact hs
  cases hsome : s.headerLines with
  | none => exact storable_standard.headerLines
  | some n => exact hlines n hsome

private theorem jobs_lt {t : Tree} {b : BatchConfig} (ht : t.Fits)
    (h : BatchConfig.ofTree t = .ok b) : b.jobs < twoTo 64 := by
  obtain ⟨s, hs, h⟩ := bind_eq_ok.mp h
  obtain rfl := pure_eq_ok.mp h
  have hjobs : ∀ n, s.jobs = some n → n < twoTo 64 := by
    refine Tree.record_induction (P := fun s => ∀ n, s.jobs = some n → n < twoTo 64)
      (fun slot hslot s part hpart s' hs hfill => ?_) (by rintro _ ⟨⟩) hs
    simp only [BatchParts.slots, List.mem_cons, List.not_mem_nil, or_false] at hslot
    rcases hslot with rfl | rfl
    · obtain ⟨n, hn, rfl⟩ := map_eq_ok.mp hfill
      rintro _ ⟨⟩
      exact Tree.lt_of_count_eq_ok (ht.part hpart) hn
    · obtain ⟨x, -, rfl⟩ := map_eq_ok.mp hfill
      exact hs
  cases hsome : s.jobs with
  | none => exact storable_standard.jobs
  | some n => exact hjobs n hsome

/-- A configuration that is read from numbers of 64 bits is storable. -/
theorem storable_of_ofTree {t : Tree} (ht : t.Fits) (h : ofTree t = .ok c) : c.Storable := by
  obtain ⟨s, hs, h⟩ := bind_eq_ok.mp h
  obtain rfl := pure_eq_ok.mp h
  have hparts : (∀ e, s.extraction = some e → e.headerLines < twoTo 64) ∧
      ∀ b, s.batch = some b → b.jobs < twoTo 64 := by
    refine Tree.record_induction
      (P := fun s => (∀ e, s.extraction = some e → e.headerLines < twoTo 64) ∧
        ∀ b, s.batch = some b → b.jobs < twoTo 64)
      (fun slot hslot s part hpart s' hs hfill => ?_)
      (by constructor <;> rintro _ ⟨⟩) hs
    simp only [ConfigParts.slots, List.mem_cons, List.not_mem_nil, or_false] at hslot
    rcases hslot with rfl | rfl
    · obtain ⟨e, he, rfl⟩ := map_eq_ok.mp hfill
      refine ⟨?_, hs.2⟩
      rintro _ ⟨⟩
      exact headerLines_lt (ht.part hpart) he
    · obtain ⟨b, hb, rfl⟩ := map_eq_ok.mp hfill
      refine ⟨hs.1, ?_⟩
      rintro _ ⟨⟩
      exact jobs_lt (ht.part hpart) hb
  constructor
  · cases hsome : s.extraction with
    | none => exact storable_standard.headerLines
    | some e => exact hparts.1 e hsome
  · cases hsome : s.batch with
    | none => exact storable_standard.jobs
    | some b => exact hparts.2 b hsome

end Config

end InvoiceFields
