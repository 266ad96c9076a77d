import InvoiceFields.Proofs.Heuristics.Scan

/-!
# Further lines below a document

A look into a document is `Lasting` when what it sees is still seen once further lines follow.
Every heuristic prefers the evidence that stands first, so all fields but the type last
(`get?_scan_followedBy`). Those that read the line below a keyword see more of it at the very last
line only, and there a look that saw something did so without the line below
(`lasting_withNext_findSome?`).
-/

namespace InvoiceFields

namespace Document

variable {α β : Type}

/-- The document with further lines below it. -/
def followedBy (doc : Document) (more : List String) : Document := ⟨doc.lines ++ more⟩

@[simp]
theorem lines_followedBy (doc : Document) (more : List String) :
    (doc.followedBy more).lines = doc.lines ++ more := rfl

/-- What is seen in a document is still seen when further lines follow. -/
def Lasting (look : Document → Option α) : Prop :=
  ∀ doc more a, look doc = some a → look (doc.followedBy more) = some a

/-- What is made of something that lasts does so, too. -/
theorem Lasting.map {look : Document → Option α} (h : Lasting look) (wrap : α → β) :
    Lasting fun doc => (look doc).map wrap := by
  intro doc more b hb
  obtain ⟨a, ha, rfl⟩ := Option.map_eq_some_iff.mp hb
  exact Option.map_eq_some_iff.mpr ⟨a, h doc more a ha, rfl⟩

/-- So does what passes a test. -/
theorem Lasting.filter {look : Document → Option α} (h : Lasting look) (p : α → Bool) :
    Lasting fun doc => (look doc).filter p := by
  intro doc more a ha
  obtain ⟨ha, hp⟩ := Option.filter_eq_some_iff.mp ha
  exact Option.filter_eq_some_iff.mpr ⟨h doc more a ha, hp⟩

/-- The first line of a kind is still the first. -/
theorem lasting_findSome? (f : String → Option α) :
    Lasting fun doc => doc.lines.findSome? f := by
  intro doc more a ha
  dsimp only at ha ⊢
  rw [lines_followedBy, List.findSome?_append, ha, Option.some_or]

/-- The first of the lines at the top, however they are read, is still the first. -/
theorem lasting_take_find? (n : Nat) (read : String → String) (p : String → Bool) :
    Lasting fun doc => ((doc.lines.take n).map read).find? p := by
  intro doc more a ha
  dsimp only at ha ⊢
  rw [lines_followedBy, List.take_append, List.map_append, List.find?_append, ha, Option.some_or]

/-! ### Lines with the line below them -/

theorem withNext_cons (line : String) (rest : List String) :
    withNext ⟨line :: rest⟩ = (line, rest.head?) :: withNext ⟨rest⟩ := by
  cases rest <;> simp [withNext]

/-- The first line of a kind is still the first, also when the line below it is read, provided that
what is seen at the last line of all does not depend on the line below. -/
theorem lasting_withNext_findSome? {f : String × Option String → Option α}
    (hlast : ∀ line next a, f (line, none) = some a → f (line, next) = some a) :
    Lasting fun doc => doc.withNext.findSome? f := by
  rintro ⟨lines⟩ more a h
  dsimp only [followedBy] at h ⊢
  induction lines with
  | nil => exact nomatch h
  | cons line rest ih =>
    rw [withNext_cons, List.findSome?_cons] at h
    rw [List.cons_append, withNext_cons, List.findSome?_cons]
    cases rest with
    | cons below rest =>
      -- the line below is the same
      rw [List.cons_append, List.head?_cons] at *
      cases hline : f (line, some below) with
      | some b => rwa [hline] at h
      | none =>
        rw [hline] at h
        exact ih h
    | nil =>
      cases hline : f (line, none) with
      | none =>
        rw [List.head?_nil, hline] at h
        exact nomatch h
      | some b =>
        rw [List.head?_nil, hline] at h
        rw [hlast line _ b hline]
        exact h

/-- So is the first line of a kind that shows something, itself or by the line below it. -/
theorem lasting_withNext_or (p : String → Bool) (own : String → Option α)
    (below : Option String → Option α) (hbelow : below none = none) :
    Lasting fun doc => doc.withNext.findSome? fun (line, next) =>
      if p line then (own line).or (below next) else none := by
  refine lasting_withNext_findSome? fun line next a h => ?_
  dsimp only at h ⊢
  split at h
  case isTrue hkind =>
    rw [hbelow, Option.or_none] at h
    rw [if_pos hkind, h, Option.some_or]
  case isFalse => exact nomatch h

end Document

namespace Heuristics

open Document (Lasting)

variable {doc : Document} {settings : Settings} {more : List String} {e e' : Extraction}
variable {f : Field} {v : FieldValue} {id : String}

/-! ### The heuristics one by one -/

theorem lasting_invoiceNumber? : Lasting invoiceNumber? :=
  Document.lasting_withNext_or (Pattern.invoiceKeyword.occursIn ·.toList) announcedNumber?
    (·.bind announcedNumber?) rfl

theorem lasting_total? : Lasting total? :=
  Document.lasting_withNext_or isTotalLine Amount.last? (fun (next : Option String) =>
    (next.filter fun (line : String) => !Pattern.notTotalKeyword.occursIn line.toList).bind
      Amount.first?) rfl

theorem lasting_issuer? (headerLines : Nat) : Lasting (issuer? · headerLines) :=
  Document.lasting_take_find? headerLines Text.trim Party.isCompanyLine

theorem lasting_base? : Lasting base? := Document.lasting_findSome? _

theorem lasting_plate : Lasting Plate.findIn? := Document.lasting_findSome? _

/-- The section of the client begins at the same line and has more lines below it. -/
theorem clientSection?_append {lines below : List String} {behind : List Char}
    (h : clientSection? lines = some (behind, below)) (more : List String) :
    clientSection? (lines ++ more) = some (behind, below ++ more) := by
  induction lines with
  | nil => exact nomatch h
  | cons line rest ih =>
    rw [clientSection?] at h
    rw [List.cons_append, clientSection?]
    split at h
    case h_1 m hm =>
      obtain ⟨rfl, rfl⟩ := Prod.mk.inj (Option.some.inj h)
      rfl
    case h_2 => exact ih h

theorem lasting_clientText? : Lasting clientText? := by
  intro doc more text h
  obtain ⟨⟨behind, below⟩, hsection, h⟩ := Option.bind_eq_some_iff.mp h
  refine Option.bind_eq_some_iff.mpr ⟨_, clientSection?_append hsection more, ?_⟩
  dsimp only at h ⊢
  split at h
  case isTrue hbehind =>
    rw [if_pos hbehind, List.map_append, List.find?_append, h, Option.some_or]
  case isFalse hbehind => rwa [if_neg hbehind]

theorem lasting_client? : Lasting client? := by
  rw [funext client?_eq_filter]
  exact lasting_clientText?.filter isName

/-- The receiver is mentioned as long as some line of the document mentions it. -/
theorem clientTaxId_followedBy {client : Option String}
    (h : clientTaxId doc settings = .ok (some id))
    (h' : clientTaxId (doc.followedBy more) settings = .ok client) : client = some id := by
  obtain ⟨receiver, hreceiver⟩ := exists_receiver_of_clientTaxId h
  obtain ⟨ids, hall, hid⟩ := (clientTaxId_eq_ok hreceiver).mp h
  obtain ⟨ids', hall', rfl⟩ := (clientTaxId_eq_ok hreceiver).mp h'
  obtain ⟨hany, hid⟩ := Option.ite_none_right_eq_some.mp hid
  obtain rfl := Option.some.inj hid
  obtain ⟨found, hfound, hsame⟩ := List.any_eq_true.mp hany
  obtain ⟨line, hline, hcandidate⟩ := (TaxId.Search.mem_all hall).mp hfound
  have hfound' : found ∈ ids' :=
    (TaxId.Search.mem_all hall').mpr ⟨line, List.mem_append_left more hline, hcandidate⟩
  rw [if_pos (List.any_eq_true.mpr ⟨found, hfound', hsame⟩)]

/-! ### All fields -/

/-- What is found in a document, its type apart, is found as well when further lines follow. -/
theorem get?_scan_followedBy (h : scan doc settings = .ok e)
    (h' : scan (doc.followedBy more) settings = .ok e') (htype : f ≠ .type)
    (hv : e.get? f = some v) : e'.get? f = some v := by
  obtain ⟨issuerTaxId, client, hissuer, hclient, hget⟩ := scan_eq_ok.mp h
  obtain ⟨issuerTaxId', client', hissuer', hclient', hget'⟩ := scan_eq_ok.mp h'
  rw [hget] at hv
  rw [hget']
  cases f with
  | type => exact absurd rfl htype
  | date => exact (Document.lasting_findSome? Date.find?).map _ _ more v hv
  | invoiceNumber => exact lasting_invoiceNumber?.map _ _ more v hv
  | issuer => exact (lasting_issuer? settings.headerLines).map _ _ more v hv
  | client => exact lasting_client?.map _ _ more v hv
  | vehiclePlate => exact lasting_plate.map _ _ more v hv
  | total => exact lasting_total?.map _ _ more v hv
  | base => exact lasting_base?.map _ _ more v hv
  | issuerTaxId =>
    obtain ⟨id, rfl, rfl⟩ := Option.map_eq_some_iff.mp hv
    -- the search for the issuer stops at the same line
    have hfirst := TaxId.Search.firstIn_append hissuer more
    obtain rfl := Except.ok.inj (hfirst.symm.trans hissuer')
    rfl
  | clientTaxId =>
    obtain ⟨id, rfl, rfl⟩ := Option.map_eq_some_iff.mp hv
    obtain rfl := clientTaxId_followedBy hclient hclient'
    rfl
  | vehicleModel | tax | fees => exact nomatch hv

/-- A correction that follows changes the type of the document but not its client. -/
theorem get?_scan_followedBy_correction :
    let doc : Document := ⟨["Factura", "Cliente: Ana"]⟩
    ∃ e e', scan doc .standard = .ok e ∧
      scan (doc.followedBy ["Factura rectificativa", "Cliente: Luis"]) .standard = .ok e' ∧
      e.get? .type = some (.text "factura") ∧ e'.get? .type = some (.text "rectificativa") ∧
      e'.get? .client = some (.text "Ana") := by
  intro doc
  have hcheck : ((scan doc .standard).toOption.any fun e =>
      decide (e.get? .type = some (.text "factura") ∧ e.get? .client = some (.text "Ana"))) =
        true := by decide +kernel
  have hcheck' : ((scan (doc.followedBy ["Factura rectificativa", "Cliente: Luis"])
      .standard).toOption.any fun e =>
        decide (e.get? .type = some (.text "rectificativa"))) = true := by decide +kernel
  obtain ⟨e, hscan, hfields⟩ := exists_eq_ok_of_any hcheck
  obtain ⟨e', hscan', htype⟩ := exists_eq_ok_of_any hcheck'
  obtain ⟨hfactura, hclient⟩ := of_decide_eq_true hfields
  have hother : Field.client ≠ .type := by decide
  have hclient' := get?_scan_followedBy hscan hscan' hother hclient
  exact ⟨e, e', hscan, hscan', hfactura, of_decide_eq_true htype, hclient'⟩

end Heuristics

end InvoiceFields
