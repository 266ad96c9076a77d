import InvoiceFields.Proofs.Mapping.Building
import InvoiceFields.Proofs.Profile.Resolution

/-!
# What a mapping resolves

`Attempt.Finds` says what an attempt finds, by the conditions on its rule, its validator and its
value. A mapping resolves each field by the attempts for it (`Mapping.get?_resolve`); the entries
for the other fields, and their order, do not count.
-/

namespace InvoiceFields

variable {doc : Document} {settings : Settings} {f : Field} {v : FieldValue}

/-! ### Attempts -/

/-- An attempt finds a value: its rule evaluates to a text that its validator accepts, and this
text is an amount for a monetary field, or the value itself for any other and not the receiver's
identifier as the issuer's. -/
inductive Attempt.Finds (doc : Document) (settings : Settings) (f : Field) (a : Attempt) :
    FieldValue → Prop
  | amount {s : String} {d : Decimal} (evaluates : a.rule.evaluate? doc = some s)
      (valid : ∀ validator, a.validator = some validator → validator.accepts s = true)
      (monetary : f.isMonetary = true) (normalizes : Amount.normalize? s = some d) :
      Finds doc settings f a (.amount d)
  | text {s : String} (evaluates : a.rule.evaluate? doc = some s)
      (valid : ∀ validator, a.validator = some validator → validator.accepts s = true)
      (textual : f.isMonetary = false)
      (foreign : f = .issuerTaxId → settings.isReceiver s = false) :
      Finds doc settings f a (.text s)

private theorem all_accepts_eq_true {validator : Option Validator} {s : String} :
    validator.all (·.accepts s) = true ↔
      ∀ validator', validator = some validator' → validator'.accepts s = true := by
  cases validator <;> simp

theorem Attempt.value?_eq_some {a : Attempt} :
    a.value? doc settings f = some v ↔ Attempt.Finds doc settings f a v := by
  constructor
  · intro h
    obtain ⟨s, hs, h⟩ := Option.bind_eq_some_iff.mp h
    split at h
    case isFalse => exact nomatch h
    case isTrue hvalid =>
      obtain ⟨hvalue, haccepts⟩ := Option.filter_eq_some_iff.mp h
      rw [Field.value?] at hvalue
      split at hvalue
      case isTrue hf =>
        obtain ⟨d, hd, rfl⟩ := Option.map_eq_some_iff.mp hvalue
        exact .amount hs (all_accepts_eq_true.mp hvalid) hf hd
      case isFalse hf =>
        obtain rfl := Option.some.inj hvalue
        exact .text hs (all_accepts_eq_true.mp hvalid) (Bool.eq_false_iff.mpr hf)
          fun hissuer => Settings.accepts_eq_true.mp haccepts s hissuer rfl
  · intro h
    refine Option.bind_eq_some_iff.mpr ?_
    cases h with
    | @amount s d hs hvalid hf hd =>
      refine ⟨s, hs, ?_⟩
      rw [if_pos (all_accepts_eq_true.mpr hvalid), Field.value?, if_pos hf, hd]
      rfl
    | @text s hs hvalid hf hforeign =>
      have haccepts : settings.accepts f (.text s) = true := by
        refine Settings.accepts_eq_true.mpr fun id hissuer hid => ?_
        rw [← FieldValue.text.inj hid]
        exact hforeign hissuer
      refine ⟨s, hs, ?_⟩
      rw [if_pos (all_accepts_eq_true.mpr hvalid), Field.value?,
        if_neg (Bool.eq_false_iff.mp hf), Option.filter_some, if_pos haccepts]

/-! ### Look-ups -/

/-- What a key that passes a test stands for does not depend on the keys that fail it. -/
theorem lookup_filter_fst {κ α : Type} [BEq κ] [LawfulBEq κ] (keep : κ → Bool) (k : κ) :
    ∀ l : List (κ × α), (l.filter (keep ·.1)).lookup k = if keep k then l.lookup k else none
  | [] => by
    rw [List.filter_nil, List.lookup_nil]
    split <;> rfl
  | (k', a) :: l => by
    rw [List.filter_cons, List.lookup_cons]
    have ih := lookup_filter_fst keep k l
    cases hkk' : k == k' with
    | true =>
      obtain rfl := beq_iff_eq.mp hkk'
      by_cases hkeep : keep k = true
      · rw [if_pos hkeep, if_pos hkeep, List.lookup_cons, hkk']
      · rw [if_neg hkeep, if_neg hkeep, ih, if_neg hkeep]
    | false =>
      split
      case isTrue => rw [List.lookup_cons, hkk', ih]
      case isFalse => rw [ih]

/-- Where no key is repeated, a key stands for what it is listed with. -/
theorem mem_iff_lookup_eq_some {κ α : Type} [BEq κ] [LawfulBEq κ] {k : κ} {a : α} :
    ∀ {l : List (κ × α)}, (l.map (·.1)).Nodup → ((k, a) ∈ l ↔ l.lookup k = some a)
  | [], _ => by simp
  | (k', a') :: l, h => by
    obtain ⟨hfresh, hrest⟩ := List.nodup_cons.mp (List.map_cons ▸ h)
    have ih := mem_iff_lookup_eq_some (k := k) (a := a) hrest
    rw [List.lookup_cons, List.mem_cons, ih]
    cases hkk' : k == k' with
    | true =>
      obtain rfl := beq_iff_eq.mp hkk'
      have hnone : ∀ a, l.lookup k ≠ some a := fun a ha =>
        hfresh (List.mem_map.mpr ⟨(k, a), (mem_iff_lookup_eq_some hrest).mpr ha, rfl⟩)
      simp [hnone, eq_comm]
    | false => simp [beq_eq_false_iff_ne.mp hkk']

namespace Mapping

variable {m : Mapping} {skip : Field → Bool}

/-- Each entry puts what its attempts find, and leaves its field alone where they find nothing. -/
private theorem resolve_eq_foldl (m : Mapping) (skip : Field → Bool) :
    m.resolve doc settings skip = (m.entries.filter (!skip ·.1)).foldl
      (fun e entry => e.put entry.1
        ((Attempt.firstValue? doc settings entry.1 entry.2).or (e.get? entry.1))) .empty := by
  rw [resolve]
  congr 1
  funext e (g, attempts)
  dsimp only
  split
  case h_1 v hv => rw [hv, Option.some_or, Extraction.set]
  case h_2 hnone => rw [hnone, Option.none_or, e.put_get?_self g]

private theorem get?_foldl_put (e : Extraction) {l : List (Field × List Attempt)}
    (hl : (l.map (·.1)).Nodup) :
    (l.foldl (fun e entry => e.put entry.1
      ((Attempt.firstValue? doc settings entry.1 entry.2).or (e.get? entry.1))) e).get? f =
        ((l.lookup f).bind (Attempt.firstValue? doc settings f)).or (e.get? f) := by
  induction l generalizing e with
  | nil => rfl
  | cons entry l ih =>
    obtain ⟨g, attempts⟩ := entry
    obtain ⟨hfresh, hrest⟩ := List.nodup_cons.mp (List.map_cons ▸ hl)
    rw [List.foldl_cons, ih _ hrest, List.lookup_cons, Extraction.get?_put]
    by_cases hfg : f = g
    · subst hfg
      -- the field has no entry further on
      have hnone : l.lookup f = none := by
        refine Option.eq_none_iff_forall_ne_some.mpr fun attempts' hattempts' => hfresh ?_
        exact List.mem_map.mpr ⟨_, (mem_iff_lookup_eq_some hrest).mpr hattempts', rfl⟩
      rw [hnone, if_pos rfl, beq_self_eq_true, Option.bind_none, Option.none_or, Option.bind_some]
    · rw [if_neg hfg, beq_eq_false_iff_ne.mpr hfg]

/-- A mapping that lists a field at most once resolves it by its attempts, unless it is left
out. -/
theorem get?_resolve (h : m.fields.Nodup) (f : Field) :
    (m.resolve doc settings skip).get? f = if skip f then none else m.value? f doc settings := by
  have hkept : ((m.entries.filter (!skip ·.1)).map (·.1)).Nodup :=
    (List.filter_sublist.map _).nodup h
  have hlookup := lookup_filter_fst (fun g => !skip g) f m.entries
  rw [resolve_eq_foldl, get?_foldl_put .empty hkept, hlookup, value?, attempts?,
    Extraction.get?_empty, Option.or_none]
  cases skip f <;> rfl

/-- A field without attempts has no value. -/
theorem value?_eq_firstValue? (m : Mapping) (f : Field) :
    m.value? f doc settings =
      Attempt.firstValue? doc settings f ((m.attempts? f).getD []) := by
  rw [value?]
  cases m.attempts? f <;> rfl

end Mapping

end InvoiceFields
