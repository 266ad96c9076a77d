import InvoiceFields.Heuristics
import InvoiceFields.Proofs.Extraction.Derived
import InvoiceFields.Proofs.Profile.Resolution
import InvoiceFields.Proofs.TaxId.Search

/-!
# What the heuristics find

Two of the fields that the heuristics look for come from searches for tax identifiers, which may
break down; `scan_eq_ok` says what is found once both have answered. The issuer's identifier is
never the receiver's (`isReceiver_of_first?`), and the client's always is
(`isReceiver_of_clientTaxId`).
-/

namespace InvoiceFields.Heuristics

variable {doc : Document} {settings : Settings} {e e' : Extraction} {f : Field} {v : FieldValue}
variable {id : String} {fault : Breakdown} {rate : VatRate}

/-! ### The parties -/

/-- The issuer's identifier is canonical and not the receiver's. -/
theorem isReceiver_of_first? (h : settings.search.first? doc = .ok (some id)) :
    TaxId.normalize id = id ∧ settings.isReceiver id = false := by
  obtain ⟨line, -, hid, haccepts⟩ := TaxId.Search.firstIn_eq_ok_some h
  rw [← Settings.search_excludes]
  exact ⟨TaxId.normalize_of_mem_candidates hid, (TaxId.Search.accepts_eq_ok_true.mp haccepts).1⟩

/-- The text that stands for the client: behind the first client header or, when nothing does, on
the next line that is not blank. -/
def clientText? (doc : Document) : Option String :=
  (clientSection? doc.lines).bind fun (behind, below) =>
    if behind.isEmpty then (below.map Text.trim).find? (!·.isEmpty) else some (String.ofList behind)

/-- The client is the text that stands there, if it is a name. -/
theorem client?_eq_filter (doc : Document) : client? doc = (clientText? doc).filter isName := by
  have hguard : Option.guard isName = fun c => if isName c then some c else none :=
    funext fun _ => Option.guard_eq_ite
  rw [client?, clientText?, ← Option.bind_guard, Option.bind_assoc, hguard]
  refine Option.bind_congr fun ⟨behind, below⟩ _ => ?_
  dsimp only
  split <;> rfl

/-- The client's identifier is the receiver's in canonical form, if one of the identifiers of the
document is the receiver's. -/
theorem clientTaxId_eq_ok {receiver : String} {client : Option String}
    (hreceiver : settings.receiver = some receiver) : clientTaxId doc settings = .ok client ↔
      ∃ ids, (TaxId.Search.excluding settings.validated none).all doc = .ok ids ∧
        (if ids.any settings.isReceiver then some (TaxId.normalize receiver) else none) =
          client := by
  rw [clientTaxId, hreceiver]
  simp only [bind_eq_ok, pure_eq_ok]

theorem exists_receiver_of_clientTaxId (h : clientTaxId doc settings = .ok (some id)) :
    ∃ receiver, settings.receiver = some receiver := by
  cases hreceiver : settings.receiver with
  | none => simp [clientTaxId, hreceiver] at h
  | some receiver => exact ⟨receiver, rfl⟩

/-- The client's identifier is the receiver's. -/
theorem isReceiver_of_clientTaxId (h : clientTaxId doc settings = .ok (some id)) :
    settings.isReceiver id = true := by
  obtain ⟨r, hr⟩ := exists_receiver_of_clientTaxId h
  obtain ⟨ids, -, hid⟩ := (clientTaxId_eq_ok hr).mp h
  obtain ⟨hany, hid⟩ := Option.ite_none_right_eq_some.mp hid
  obtain rfl := Option.some.inj hid
  -- the identifier that was found shows that the receiver's own is not empty
  obtain ⟨found, -, hfound⟩ := List.any_eq_true.mp hany
  obtain ⟨r', hr', hsame⟩ := Settings.isReceiver_eq_true.mp hfound
  obtain rfl : r = r' := Option.some.inj (hr.symm.trans hr')
  refine Settings.isReceiver_eq_true.mpr ⟨r, hr, ?_⟩
  rw [TaxId.same_normalize_right, TaxId.same_eq_true]
  exact ⟨(TaxId.same_eq_true.mp hsame).1, rfl⟩

/-- Looking for the receiver breaks down at every candidate that cannot be checked. -/
theorem clientTaxId_eq_error :
    clientTaxId doc settings = .error fault ↔ fault = .dividedCharacter ∧
      settings.receiver ≠ none ∧ settings.validated = true ∧
        ∃ line ∈ doc.lines, ∃ id ∈ TaxId.candidates line, TaxId.Divided id := by
  have hbreaks : ∀ id, (TaxId.Search.excluding settings.validated none).BreaksAt id ↔
      settings.validated = true ∧ TaxId.Divided id := by
    intro id
    simp [TaxId.Search.BreaksAt, TaxId.Search.excludes, TaxId.Search.excluding]
  rw [clientTaxId]
  cases settings.receiver with
  | none => simp
  | some r =>
    simp only [bind_eq_error, pure_ne_error, and_false, exists_false, or_false,
      TaxId.Search.all_eq_error, hbreaks]
    constructor
    · rintro ⟨rfl, line, hline, id, hid, hvalidated, hdivided⟩
      exact ⟨rfl, Option.some_ne_none r, hvalidated, line, hline, id, hid, hdivided⟩
    · rintro ⟨rfl, -, hvalidated, line, hline, id, hid, hdivided⟩
      exact ⟨rfl, line, hline, id, hid, hvalidated, hdivided⟩

/-! ### All fields -/

/-- The value of a field, given the identifiers of the issuer and the client. -/
def scanned? (doc : Document) (settings : Settings) (issuerTaxId clientTaxId : Option String) :
    Field → Option FieldValue
  | .type => (kind? doc).map .text
  | .date => (doc.lines.findSome? Date.find?).map .text
  | .invoiceNumber => (invoiceNumber? doc).map .text
  | .issuer => (issuer? doc settings.headerLines).map .text
  | .issuerTaxId => issuerTaxId.map .text
  | .client => (client? doc).map .text
  | .clientTaxId => clientTaxId.map .text
  | .vehiclePlate => (Plate.findIn? doc).map .text
  | .total => (total? doc).map .amount
  | .base => (base? doc).map .amount
  | _ => none

/-- The heuristics answer when the searches for both parties do. -/
theorem scan_eq_ok :
    scan doc settings = .ok e ↔ ∃ issuerTaxId client,
      settings.search.first? doc = .ok issuerTaxId ∧ clientTaxId doc settings = .ok client ∧
        ∀ f, e.get? f = scanned? doc settings issuerTaxId client f := by
  simp only [scan, bind_eq_ok, pure_eq_ok, exists_and_left]
  refine exists_congr fun issuerTaxId => and_congr_right fun _ =>
    exists_congr fun client => and_congr_right fun _ => ?_
  constructor
  · rintro rfl f
    cases f <;> rfl
  · intro h
    ext f
    rw [h]
    cases f <;> rfl

theorem scan_eq_error :
    scan doc settings = .error fault ↔
      settings.search.first? doc = .error fault ∨ clientTaxId doc settings = .error fault := by
  simp only [scan, bind_eq_error, pure_ne_error, and_false, exists_false, or_false]
  constructor
  · rintro (h | ⟨-, -, h⟩)
    · exact .inl h
    · exact .inr h
  · rintro (h | h)
    · exact .inl h
    · -- there is one kind of fault only, so it does not matter which search has it first
      cases hfirst : settings.search.first? doc with
      | ok issuerTaxId => exact .inr ⟨issuerTaxId, rfl, h⟩
      | error fault' =>
        obtain ⟨rfl, -⟩ := TaxId.Search.firstIn_eq_error.mp hfirst
        obtain ⟨rfl, -⟩ := clientTaxId_eq_error.mp h
        exact .inl rfl

/-- The heuristics find amounts in monetary fields and texts in others. -/
theorem holds_of_scan (h : scan doc settings = .ok e) : e.Forall Field.Holds := by
  obtain ⟨issuerTaxId, client, -, -, hget⟩ := scan_eq_ok.mp h
  intro f v hv
  rw [hget] at hv
  cases f with
  | vehicleModel | tax | fees => exact nomatch hv
  | total | base =>
    obtain ⟨d, -, rfl⟩ := Option.map_eq_some_iff.mp hv
    exact Field.holds_amount.mpr rfl
  | _ =>
    obtain ⟨s, -, rfl⟩ := Option.map_eq_some_iff.mp hv
    exact Field.holds_text.mpr rfl

/-- No value of the heuristics gives the receiver as the issuer. -/
theorem accepts_of_scan (h : scan doc settings = .ok e) :
    e.Forall (settings.accepts · · = true) := by
  obtain ⟨issuerTaxId, client, hissuer, -, hget⟩ := scan_eq_ok.mp h
  intro f v hv
  rw [hget] at hv
  refine Settings.accepts_eq_true.mpr ?_
  rintro id rfl rfl
  obtain ⟨_, rfl, heq⟩ := Option.map_eq_some_iff.mp hv
  cases heq
  exact (isReceiver_of_first? hissuer).2

/-- What holds of the values that the heuristics find, and of amounts in monetary fields, holds of
the values with the missing amounts. -/
theorem forall_extract {P : Field → FieldValue → Prop}
    (hscan : ∀ e, scan doc settings = .ok e → e.Forall P)
    (hamount : ∀ f d, f.isMonetary = true → P f (.amount d))
    (h : extract doc settings rate = .ok e) : e.Forall P := by
  obtain ⟨e', hscan', h⟩ := bind_eq_ok.mp h
  obtain ⟨⟨e'', added⟩, hderive, h⟩ := bind_eq_ok.mp h
  obtain rfl := pure_eq_ok.mp h
  exact Extraction.Forall.derive (hscan e' hscan') hamount hderive

theorem extract_eq_error (hrate : rate.Addable) :
    extract doc settings rate = .error fault ↔ scan doc settings = .error fault := by
  simp only [extract, bind_eq_error, pure_ne_error, Extraction.derive_ne_error hrate, and_false,
    exists_false, or_false]

end InvoiceFields.Heuristics
