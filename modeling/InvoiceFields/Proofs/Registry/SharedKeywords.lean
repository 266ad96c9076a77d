import InvoiceFields.Proofs.TaxId.Soundness
import InvoiceFields.Registry
import Mathlib.Data.List.Forall2

/-!
# Shared keywords

A registry tells which keywords are shared by meeting all of them, one profile after the other. In
which order the keywords of a profile are met does not matter: the answer lists exactly the
`Contested` ones, each once and in alphabetical order. A source with one of them selects the first
profile that has it, or one in front of that (`sharedKeywords_spec`).
-/

namespace InvoiceFields

variable {p : Profile} {profiles : List Profile} {k k' : String} {own : List String}
variable {orders : List (List String)}

/-- An order in which all keywords of a profile are met, each of them once. -/
structure Profile.MetIn (p : Profile) (own : List String) : Prop where
  nodup : own.Nodup
  mem_iff : ∀ k, k ∈ own ↔ k ∈ p.keywords

theorem Profile.metIn_firstOccurrences (p : Profile) :
    p.MetIn (TaxId.firstOccurrences p.keywords) :=
  ⟨TaxId.nodup_firstOccurrences _, fun _ => TaxId.Search.mem_firstOccurrences⟩

namespace Registry

/-- A keyword that a profile has and another one behind it has, too. -/
def Contested (profiles : List Profile) (k : String) : Prop :=
  ∃ p q, [p, q].Sublist profiles ∧ k ∈ p.keywords ∧ k ∈ q.keywords

theorem not_contested_nil : ¬ Contested [] k := by
  rintro ⟨p, q, hsublist, -⟩
  exact nomatch hsublist

/-- A further profile in front contests its keywords with all others. -/
theorem contested_cons : Contested (p :: profiles) k ↔
    k ∈ p.keywords ∧ (∃ q ∈ profiles, k ∈ q.keywords) ∨ Contested profiles k := by
  constructor
  · rintro ⟨p', q, hsublist, hp, hq⟩
    rcases List.sublist_cons_iff.mp hsublist with hsublist | ⟨rest, hrest, hsublist⟩
    · exact .inr ⟨p', q, hsublist, hp, hq⟩
    · obtain ⟨rfl, rfl⟩ := List.cons.inj hrest
      exact .inl ⟨hp, q, List.singleton_sublist.mp hsublist, hq⟩
  · rintro (⟨hp, q, hmem, hq⟩ | ⟨p', q, hsublist, hp, hq⟩)
    · exact ⟨p, q, (List.singleton_sublist.mpr hmem).cons_cons p, hp, hq⟩
    · exact ⟨p', q, hsublist.cons p, hp, hq⟩

/-! ### The tally -/

namespace Tally

variable {t : Tally}

theorem mem_met_meet : k' ∈ (t.meet k).met ↔ k' = k ∨ k' ∈ t.met := by
  rw [meet]
  cases hmet : t.met.contains k with
  | false => exact List.mem_cons
  | true =>
    have hk : k ∈ t.met := List.contains_iff_mem.mp hmet
    have hkept : k' ∈ t.met ↔ k' = k ∨ k' ∈ t.met := (or_iff_right_of_imp (· ▸ hk)).symm
    cases t.shared.contains k <;> exact hkept

/-- A keyword is shared as soon as it is met again. -/
theorem mem_shared_meet :
    k' ∈ (t.meet k).shared ↔ k' ∈ t.shared ∨ k' = k ∧ k' ∈ t.met := by
  rw [meet]
  cases hmet : t.met.contains k with
  | false =>
    have hk : k ∉ t.met := fun hk => by
      rw [List.contains_iff_mem.mpr hk] at hmet
      exact nomatch hmet
    exact (or_iff_left fun ⟨heq, hmem⟩ => hk (heq ▸ hmem)).symm
  | true =>
    have hk : k ∈ t.met := List.contains_iff_mem.mp hmet
    have hagain : k' = k ∧ k' ∈ t.met ↔ k' = k := and_iff_left_of_imp (· ▸ hk)
    rw [hagain]
    cases hshared : t.shared.contains k with
    | false => exact List.mem_append.trans (or_congr_right List.mem_singleton)
    | true =>
      have hlisted : k ∈ t.shared := List.contains_iff_mem.mp hshared
      exact (or_iff_left_of_imp fun heq => heq ▸ hlisted).symm

/-- A shared keyword is listed once. -/
theorem nodup_meet (h : t.shared.Nodup) : (t.meet k).shared.Nodup := by
  rw [meet]
  cases t.met.contains k with
  | false => exact h
  | true =>
    cases hshared : t.shared.contains k with
    | true => exact h
    | false =>
      refine List.nodup_append.mpr ⟨h, List.pairwise_singleton _ k, ?_⟩
      rintro a ha b hb rfl
      rw [List.mem_singleton.mp hb] at ha
      rw [List.contains_iff_mem.mpr ha] at hshared
      exact nomatch hshared

theorem mem_met_meetAll : k ∈ (t.meetAll own).met ↔ k ∈ own ∨ k ∈ t.met := by
  induction own generalizing t with
  | nil => simp [meetAll]
  | cons k' own ih =>
    have hstep : k ∈ ((t.meet k').meetAll own).met ↔ k ∈ own ∨ k = k' ∨ k ∈ t.met := by
      rw [ih, mem_met_meet]
    rw [List.mem_cons, or_assoc, or_left_comm]
    exact hstep

/-- A profile shares the keywords that were met before it. -/
theorem mem_shared_meetAll (h : own.Nodup) :
    k ∈ (t.meetAll own).shared ↔ k ∈ t.shared ∨ k ∈ own ∧ k ∈ t.met := by
  induction own generalizing t with
  | nil => simp [meetAll]
  | cons k' own ih =>
    obtain ⟨hnew, hown⟩ := List.nodup_cons.mp h
    have hstep : k ∈ ((t.meet k').meetAll own).shared ↔
        (k ∈ t.shared ∨ k = k' ∧ k ∈ t.met) ∨ k ∈ own ∧ (k = k' ∨ k ∈ t.met) := by
      rw [ih hown, mem_shared_meet, mem_met_meet]
    -- what is still to be met is not the keyword that was just met
    have hother : k ∈ own ∧ (k = k' ∨ k ∈ t.met) ↔ k ∈ own ∧ k ∈ t.met :=
      and_congr_right fun hk => or_iff_right fun heq => hnew (heq ▸ hk)
    rw [List.mem_cons, or_and_right, ← or_assoc]
    rw [hother] at hstep
    exact hstep

theorem nodup_meetAll (h : t.shared.Nodup) : (t.meetAll own).shared.Nodup := by
  induction own generalizing t with
  | nil => exact h
  | cons k own ih => exact ih (nodup_meet h)

/-- The keywords that are shared when all profiles were met. -/
theorem mem_shared_foldl (h : List.Forall₂ Profile.MetIn profiles orders) :
    k ∈ (orders.foldl meetAll t).shared ↔
      k ∈ t.shared ∨ k ∈ t.met ∧ (∃ p ∈ profiles, k ∈ p.keywords) ∨ Contested profiles k := by
  induction h generalizing t with
  | nil => simp [not_contested_nil]
  | @cons p own profiles orders hp _ ih =>
    rw [List.foldl_cons, ih, mem_shared_meetAll hp.nodup, mem_met_meetAll, hp.mem_iff,
      contested_cons, List.exists_mem_cons_iff]
    grind

theorem nodup_foldl (h : t.shared.Nodup) : (orders.foldl meetAll t).shared.Nodup := by
  induction orders generalizing t with
  | nil => exact h
  | cons own orders ih => exact ih (nodup_meetAll h)

end Tally

/-! ### The answer -/

theorem mem_sharedAlong (h : List.Forall₂ Profile.MetIn profiles orders) :
    k ∈ sharedAlong orders ↔ Contested profiles k := by
  rw [sharedAlong, List.mem_mergeSort, Tally.mem_shared_foldl h]
  simp

/-- The shared keywords are in alphabetical order, without repetitions. -/
theorem pairwise_sharedAlong (orders : List (List String)) :
    (sharedAlong orders).Pairwise (· < ·) := by
  have hnodup : (sharedAlong orders).Nodup :=
    (List.mergeSort_perm _ _).nodup_iff.mpr (Tally.nodup_foldl List.nodup_nil)
  have hsorted : (sharedAlong orders).Pairwise fun a b => (!decide (b < a)) = true := by
    refine List.pairwise_mergeSort (fun a b c hab hbc => ?_) (fun a b => ?_) _
    · simp only [Bool.not_eq_true', decide_eq_false_iff_not, String.not_lt] at hab hbc ⊢
      exact String.le_trans hab hbc
    · simp only [Bool.or_eq_true, Bool.not_eq_true', decide_eq_false_iff_not, String.not_lt]
      exact String.le_total a b
  refine (hsorted.and hnodup).imp fun ⟨hle, hne⟩ => ?_
  rw [Bool.not_eq_true', decide_eq_false_iff_not, String.not_lt] at hle
  by_contra hlt
  exact hne (String.le_antisymm hle (String.not_lt.mp hlt))

/-- The order in which the keywords of a profile are met does not matter. -/
theorem sharedAlong_eq {orders' : List (List String)}
    (h : List.Forall₂ Profile.MetIn profiles orders)
    (h' : List.Forall₂ Profile.MetIn profiles orders') :
    sharedAlong orders = sharedAlong orders' := by
  have hsorted := pairwise_sharedAlong orders
  have hsorted' := pairwise_sharedAlong orders'
  have hperm : (sharedAlong orders).Perm (sharedAlong orders') :=
    (List.perm_ext_iff_of_nodup (hsorted.imp String.ne_of_lt) (hsorted'.imp String.ne_of_lt)).mpr
      fun k => (mem_sharedAlong h).trans (mem_sharedAlong h').symm
  exact hperm.eq_of_pairwise (fun a b _ _ hab hba => absurd hba (String.lt_asymm hab))
    hsorted hsorted'

theorem forall₂_firstOccurrences (profiles : List Profile) :
    List.Forall₂ Profile.MetIn profiles
      (profiles.map fun p => TaxId.firstOccurrences p.keywords) := by
  rw [List.forall₂_map_right_iff]
  exact List.forall₂_same.mpr fun p _ => p.metIn_firstOccurrences

/-- A source with a keyword of some profile selects the first profile that has the keyword, or one
in front of that. -/
theorem exists_bySource? {r : Registry} {source : String} (hp : p ∈ r.profiles)
    (hk : k ∈ p.keywords) (h : Text.contains (Text.lower source) k = true) :
    ∃ front q back, r.profiles = front ++ q :: back ∧ r.bySource? source = some q ∧
      ∀ q ∈ front, k ∉ q.keywords := by
  have hmatches : ∀ q : Profile, k ∈ q.keywords → q.matchesSource source = true :=
    fun q hq => List.any_eq_true.mpr ⟨k, hq, h⟩
  have hsome : (r.bySource? source).isSome = true :=
    List.find?_isSome.mpr ⟨p, hp, hmatches p hk⟩
  obtain ⟨q, hq⟩ := Option.isSome_iff_exists.mp hsome
  obtain ⟨-, front, back, hsplit, hfront⟩ := List.find?_eq_some_iff_append.mp hq
  refine ⟨front, q, back, hsplit, hq, fun q' hq' hk' => ?_⟩
  have hnot := hfront q' hq'
  rw [hmatches q' hk'] at hnot
  exact nomatch hnot

/-- **Shared keywords.** In whatever order the keywords of each profile are met, the answer is the
same: it lists the contested keywords in alphabetical order, each once. A source with one of them
selects no profile behind the first that has it. -/
theorem sharedKeywords_spec (r : Registry) (h : List.Forall₂ Profile.MetIn r.profiles orders) :
    sharedAlong orders = r.sharedKeywords ∧ r.sharedKeywords.Pairwise (· < ·) ∧
    (∀ k, k ∈ r.sharedKeywords ↔ Contested r.profiles k) ∧
    ∀ k ∈ r.sharedKeywords, ∀ source, Text.contains (Text.lower source) k = true →
      ∃ front p back, r.profiles = front ++ p :: back ∧ r.bySource? source = some p ∧
        ∀ q ∈ front, k ∉ q.keywords := by
  have hmem : ∀ k, k ∈ r.sharedKeywords ↔ Contested r.profiles k :=
    fun k => mem_sharedAlong (forall₂_firstOccurrences r.profiles)
  refine ⟨sharedAlong_eq h (forall₂_firstOccurrences r.profiles), pairwise_sharedAlong _, hmem,
    fun k hk source hsource => ?_⟩
  obtain ⟨p, q, hsublist, hp, -⟩ := (hmem k).mp hk
  exact exists_bySource? (hsublist.subset List.mem_cons_self) hp hsource

/-- A keyword that is repeated in one profile is not shared, one that two profiles have is, and the
first of them is selected by it. -/
theorem sharedKeywords_spec_repeated :
    List.Forall₂ Profile.MetIn
        [(Profile.named "a").withKeywords ["norte", "Sur", "Norte"],
          (Profile.named "b").withKeywords ["sur"]]
        [["sur", "norte"], ["sur"]] ∧
      Registry.sharedKeywords ⟨[(Profile.named "a").withKeywords ["norte", "Sur", "Norte"],
        (Profile.named "b").withKeywords ["sur"]]⟩ = ["sur"] := by
  have ha : ((Profile.named "a").withKeywords ["norte", "Sur", "Norte"]).keywords =
      ["norte", "sur", "norte"] := by decide +kernel
  have hb : ((Profile.named "b").withKeywords ["sur"]).keywords = ["sur"] := by decide +kernel
  have hmet : List.Forall₂ Profile.MetIn
      [(Profile.named "a").withKeywords ["norte", "Sur", "Norte"],
        (Profile.named "b").withKeywords ["sur"]] [["sur", "norte"], ["sur"]] := by
    refine .cons ⟨by decide, fun k => ?_⟩ (.cons ⟨by decide, fun k => ?_⟩ .nil)
    · simp [ha, or_comm]
    · rw [hb]
  refine ⟨hmet, ?_⟩
  rw [← (sharedKeywords_spec ⟨_⟩ hmet).1]
  decide +kernel

end Registry

end InvoiceFields
