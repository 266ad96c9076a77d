import InvoiceFields.Proofs.Json.Canonical
import InvoiceFields.Proofs.Json.Spelling
import InvoiceFields.Proofs.Json.Reading
import InvoiceFields.Proofs.Json.TreeInduction

/-!
# Numbers of texts

An integer that is read from a text has at most 64 bits (`Number.Fits`), because digits are appended
only as long as the number does. So every number of the tree of a text fits (`Reading.fits_tree`),
and so does every number that a reader takes from a part of it.
-/

namespace InvoiceFields.Json

/-! ### Literals -/

/-- Digits that are appended leave a number of 64 bits. -/
theorem NumberLiteral.accumulate_lt : ∀ {cs : List Char} {n : Nat}, n < twoTo 64 →
    (accumulate n cs).1 < twoTo 64
  | [], _, h => h
  | c :: cs, n, h => by
    rw [accumulate]
    split
    case isTrue hlt => exact accumulate_lt hlt
    case isFalse => exact h

/-- A literal stands for a number of 64 bits, if for any. -/
theorem NumberLiteral.Parts.number_fits {p : Parts} {n : Number} (h : p.number = .ok n) :
    n.Fits := by
  have hpowers : twoTo 64 = 2 * twoTo 63 := rfl
  have hlt : (accumulate 0 p.whole).1 < twoTo 64 := accumulate_lt (Nat.two_pow_pos 64)
  rw [Parts.number] at h
  dsimp only at h
  split at h
  case isTrue hinteger =>
    obtain ⟨-, -, hsign⟩ := hinteger
    cases h
    rcases hsign with hpositive | ⟨hpos, hle⟩
    · rw [hpositive, if_neg Bool.false_ne_true]
      constructor <;> omega
    · constructor <;> split <;> omega
  case isFalse =>
    split at h
    case h_1 =>
      cases h
      trivial
    case h_2 => cases h

/-! ### Tokens -/

namespace Token

/-- The number of a token has 64 bits. -/
def Fits : Token → Prop
  | number (.ok n) _ => n.Fits
  | _ => True

theorem fits_first (c : Char) (cs : List Char) : (first c cs).1.Fits := by
  have hnumber : ∀ negative cs, (numberToken negative cs).1.Fits := by
    intro negative cs
    rw [numberToken]
    split
    case h_1 parts rest hscan =>
      cases hvalue : parts.number with
      | ok n => exact NumberLiteral.Parts.number_fits hvalue
      | error f => trivial
    case h_2 => trivial
  have hword : ∀ token rest cs, token.Fits → (word token rest cs).1.Fits := by
    intro token rest cs h
    rw [word]
    split
    case h_1 => exact h
    case h_2 => trivial
  have hstring : (stringToken cs).1.Fits := by
    rw [stringToken]
    split <;> trivial
  unfold first
  split
  case h_7 | h_8 | h_9 => exact hword _ _ _ trivial
  case h_10 => exact hstring
  case h_11 => exact hnumber true cs
  case h_12 =>
    split
    case isTrue => exact hnumber false (c :: cs)
    case isFalse => trivial
  all_goals trivial

/-- The number of each token of a text has 64 bits. -/
theorem fits_of_mem_ofChars {token : Token} {cs : List Char} (h : token ∈ ofChars cs) :
    token.Fits := by
  have hscan : ∀ fuel cs, ∀ token ∈ scan fuel cs, token.Fits := by
    intro fuel
    induction fuel with
    | zero => exact fun _ _ htoken => nomatch htoken
    | succ fuel ih =>
      intro cs token htoken
      cases cs with
      | nil => exact nomatch htoken
      | cons c cs =>
        rw [scan] at htoken
        split at htoken
        case isTrue => exact ih cs token htoken
        case isFalse =>
          rcases List.mem_cons.mp htoken with rfl | htoken
          · exact fits_first c cs
          · exact ih _ token htoken
  exact hscan cs.length cs token h

end Token

/-! ### Trees -/

mutual

/-- All numbers of a tree have 64 bits. -/
def Tree.Fits : Tree → Prop
  | .number (.ok n) _ => n.Fits
  | .array _ elements => elements.Fits
  | .object _ members => members.Fits
  | _ => True

/-- All numbers of elements have 64 bits. -/
def Elements.Fits : Elements → Prop
  | .cons head tail => head.Fits ∧ tail.Fits
  | _ => True

/-- All numbers of members have 64 bits. -/
def Members.Fits : Members → Prop
  | .cons _ _ value tail => value.Fits ∧ tail.Fits
  | _ => True

end

theorem Elements.Fits.of_mem {t : Tree} :
    ∀ {elements : Elements}, elements.Fits → t ∈ elements.trees → t.Fits
  | .cons head tail, ⟨hhead, htail⟩, h => by
    rcases List.mem_cons.mp h with rfl | h
    · exact hhead
    · exact htail.of_mem h

theorem Members.Fits.of_mem {t : Tree} :
    ∀ {members : Members}, members.Fits → t ∈ members.trees → t.Fits
  | .cons _ _ value tail, ⟨hvalue, htail⟩, h => by
    rcases List.mem_cons.mp h with rfl | h
    · exact hvalue
    · exact htail.of_mem h

/-- The numbers of a part of a tree are numbers of the tree. -/
theorem Tree.Fits.part {t part : Tree} (h : t.Fits) (hpart : part ∈ t.parts) : part.Fits := by
  cases t with
  | array deep elements => exact Elements.Fits.of_mem h hpart
  | object deep members => exact Members.Fits.of_mem h hpart
  | _ => exact nomatch hpart

/-- All numbers of a text have 64 bits. -/
theorem Reading.fits_tree (text : String) : (Reading.ofText text).tree.Fits := by
  have hkept : Tree.Kept Token.Fits (fun _ => Tree.Fits) (fun _ => Elements.Fits)
      (fun _ => Members.Fits) :=
    { null := fun _ => trivial
      bool := fun _ _ => trivial
      number := fun _ value skipped h => by cases value <;> exact h
      string := fun _ _ _ _ => trivial
      array := fun _ _ h => h
      object := fun _ _ h => h
      broken := fun _ _ => trivial
      noElements := fun _ => trivial
      haltedElements := fun _ _ _ => trivial
      consElements := fun _ _ _ hhead htail => ⟨hhead, htail⟩
      noMembers := fun _ => trivial
      haltedMembers := fun _ _ _ => trivial
      consMembers := fun _ _ _ _ _ hvalue htail => ⟨hvalue, htail⟩ }
  exact hkept.ofText fun _ => Token.fits_of_mem_ofChars

/-! ### Values -/

/-- A number of things that is read from a tree has 64 bits. -/
theorem Tree.lt_of_count_eq_ok {t : Tree} {n : Nat} (h : t.Fits) (hread : t.count = .ok n) :
    n < twoTo 64 := by
  unfold Tree.count at hread
  split at hread
  case h_1 i skipped =>
    obtain ⟨-, hlt⟩ : (Number.integer i).Fits := h
    split at hread
    case isTrue =>
      cases hread
      omega
    case isFalse => exact nomatch hread
  case h_2 => exact nomatch hread

/-! ### JSON values -/

theorem Elements.fits_ofJson {js : List Json} :
    (Elements.ofJson js).Fits ↔ ∀ j ∈ js, (Tree.ofJson j).Fits := by
  induction js with
  | nil => exact iff_of_true trivial (List.forall_mem_nil _)
  | cons j js ih => rw [Elements.ofJson, Elements.Fits, ih, List.forall_mem_cons]

theorem Members.fits_ofJson {members : List (String × Json)} :
    (Members.ofJson members).Fits ↔ ∀ m ∈ members, (Tree.ofJson m.2).Fits := by
  induction members with
  | nil => exact iff_of_true trivial (List.forall_mem_nil _)
  | cons m rest ih => rw [Members.ofJson, Members.Fits, ih, List.forall_mem_cons]

mutual

/-- A value of whole numbers has only numbers of 64 bits. -/
theorem Tree.fits_of_isWhole : ∀ {j : Json}, j.IsWhole → (Tree.ofJson j).Fits
  | .null, _ | .bool _, _ | .string _, _ => trivial
  | .number (.integer _), h => h
  | .array _, h => Elements.fits_of_areWhole h
  | .object _, h => Members.fits_of_areWhole h

theorem Elements.fits_of_areWhole : ∀ {js : List Json}, AreWhole js → (Elements.ofJson js).Fits
  | [], _ => trivial
  | _ :: _, ⟨hj, hjs⟩ => ⟨Tree.fits_of_isWhole hj, Elements.fits_of_areWhole hjs⟩

theorem Members.fits_of_areWhole : ∀ {members : List (String × Json)},
    MembersAreWhole members → (Members.ofJson members).Fits
  | [], _ => trivial
  | (_, _) :: _, ⟨hj, hrest⟩ => ⟨Tree.fits_of_isWhole hj, Members.fits_of_areWhole hrest⟩

end

mutual

/-- A value that a tree is read as has only numbers of the tree. -/
theorem Tree.Fits.ofJson : ∀ {t : Tree} {j : Json}, t.Fits → t.json = .ok j → (Tree.ofJson j).Fits
  | .null, _, _, h | .bool _, _, _, h => by
    cases h
    trivial
  | .number value _, _, hfits, h => by
    obtain ⟨n, rfl, rfl⟩ := map_eq_ok.mp h
    exact hfits
  | .string value _, _, _, h => by
    obtain ⟨s, rfl, rfl⟩ := map_eq_ok.mp h
    trivial
  | .array deep elements, _, hfits, h => by
    rw [Tree.json] at h
    split at h
    case isTrue => cases h
    case isFalse =>
      obtain ⟨js, hjs, rfl⟩ := map_eq_ok.mp h
      exact Elements.Fits.ofJson hfits hjs
  | .object deep members, _, hfits, h => by
    rw [Tree.json] at h
    split at h
    case isTrue => cases h
    case isFalse =>
      obtain ⟨ms, hms, rfl⟩ := map_eq_ok.mp h
      exact Members.Fits.ofJson hfits hms
  | .broken _, _, _, h => by cases h

theorem Elements.Fits.ofJson : ∀ {elements : Elements} {js : List Json}, elements.Fits →
    elements.json = .ok js → (Elements.ofJson js).Fits
  | .closed, _, _, h => by
    cases h
    trivial
  | .halted _ _, _, _, h => by cases h
  | .cons head tail, _, ⟨hhead, htail⟩, h => by
    obtain ⟨j, hj, h⟩ := bind_eq_ok.mp h
    obtain ⟨js, hjs, h⟩ := bind_eq_ok.mp h
    obtain rfl := pure_eq_ok.mp h
    exact ⟨hhead.ofJson hj, htail.ofJson hjs⟩

theorem Members.Fits.ofJson : ∀ {members : Members} {ms : List (String × Json)}, members.Fits →
    members.json = .ok ms → (Members.ofJson ms).Fits
  | .closed, _, _, h => by
    cases h
    trivial
  | .halted _ _, _, _, h => by cases h
  | .cons key _ value tail, _, ⟨hvalue, htail⟩, h => by
    obtain ⟨k, -, h⟩ := bind_eq_ok.mp h
    obtain ⟨j, hj, h⟩ := bind_eq_ok.mp h
    obtain ⟨ms, hms, h⟩ := bind_eq_ok.mp h
    obtain rfl := pure_eq_ok.mp h
    exact ⟨hvalue.ofJson hj, htail.ofJson hms⟩

end

mutual

/-- A value in canonical form has only numbers of the value. -/
theorem Tree.fits_canonical : ∀ {j : Json}, (Tree.ofJson j).Fits → (Tree.ofJson j.canonical).Fits
  | .null, h | .bool _, h | .number _, h | .string _, h => h
  | .array _, h => Elements.fits_canonical h
  | .object _, h => by
    refine Members.fits_ofJson.mpr fun m hm => ?_
    exact Members.fits_ofJson.mp (Members.fits_canonical h) m (mem_of_mem_sortMembers hm)

theorem Elements.fits_canonical : ∀ {js : List Json}, (Elements.ofJson js).Fits →
    (Elements.ofJson (canonicalElements js)).Fits
  | [], _ => trivial
  | _ :: _, ⟨hj, hjs⟩ => ⟨Tree.fits_canonical hj, Elements.fits_canonical hjs⟩

theorem Members.fits_canonical : ∀ {members : List (String × Json)}, (Members.ofJson members).Fits →
    (Members.ofJson (canonicalMembers members)).Fits
  | [], _ => trivial
  | (_, _) :: _, ⟨hj, hrest⟩ => ⟨Tree.fits_canonical hj, Members.fits_canonical hrest⟩

end

end InvoiceFields.Json
