import InvoiceFields.Json.Printer
import InvoiceFields.Proofs.Json.Literals

/-!
# Texts that are written

A value whose numbers are integers of 64 bits (`Json.IsWhole`) is written, with or without
indentation, as a text that is cut into the tokens of the value (`Json.spells_compactChars`,
`Json.spells_prettyChars`). Blanks between tokens make no difference, so both texts have the same
tokens.
-/

namespace InvoiceFields.Json

/-! ### Values of whole numbers -/

mutual

/-- All numbers of a value are integers of 64 bits. -/
def IsWhole : Json → Prop
  | number (.integer i) => (Number.integer i).Fits
  | number (.real _) => False
  | array elements => AreWhole elements
  | object members => MembersAreWhole members
  | null | bool _ | string _ => True

/-- All numbers of some elements are integers of 64 bits. -/
def AreWhole : List Json → Prop
  | [] => True
  | j :: js => IsWhole j ∧ AreWhole js

/-- All numbers of some members are integers of 64 bits. -/
def MembersAreWhole : List (String × Json) → Prop
  | [] => True
  | (_, j) :: rest => IsWhole j ∧ MembersAreWhole rest

end

theorem areWhole_iff {elements : List Json} :
    AreWhole elements ↔ ∀ j ∈ elements, j.IsWhole := by
  induction elements with
  | nil => exact iff_of_true trivial (List.forall_mem_nil _)
  | cons j js ih => rw [AreWhole, ih, List.forall_mem_cons]

theorem membersAreWhole_iff {members : List (String × Json)} :
    MembersAreWhole members ↔ ∀ m ∈ members, m.2.IsWhole := by
  induction members with
  | nil => exact iff_of_true trivial (List.forall_mem_nil _)
  | cons m rest ih => rw [MembersAreWhole, ih, List.forall_mem_cons]

/-! ### Tokens of values -/

namespace Token

mutual

/-- The tokens of a value. -/
def ofJson : Json → List Token
  | .null => [null]
  | .bool b => [bool b]
  | .number n => [number (.ok n) (.ok ())]
  | .string s => [string (.ok s) (.ok ())]
  | .array elements => openArray :: ofElements elements ++ [closeArray]
  | .object members => openObject :: ofMembers members ++ [closeObject]

/-- The tokens of elements with commas between them. -/
def ofElements : List Json → List Token
  | [] => []
  | [j] => ofJson j
  | j :: js => ofJson j ++ comma :: ofElements js

/-- The tokens of members with commas between them. -/
def ofMembers : List (String × Json) → List Token
  | [] => []
  | [(k, j)] => string (.ok k) (.ok ()) :: colon :: ofJson j
  | (k, j) :: js => string (.ok k) (.ok ()) :: colon :: ofJson j ++ comma :: ofMembers js

end

/-- What stands in front of `rest` is cut into some tokens, whatever the number of steps, as long as
they are enough for the whole text. -/
def Spells (chars : List Char) (tokens : List Token) (rest : List Char) : Prop :=
  ∀ fuel, (chars ++ rest).length ≤ fuel →
    ∃ left, rest.length ≤ left ∧ scan fuel (chars ++ rest) = tokens ++ scan left rest

variable {chars chars' rest : List Char} {tokens tokens' : List Token}

theorem Spells.nil : Spells [] [] rest := fun fuel h => ⟨fuel, h, rfl⟩

theorem Spells.append (h : Spells chars tokens (chars' ++ rest)) (h' : Spells chars' tokens' rest) :
    Spells (chars ++ chars') (tokens ++ tokens') rest := by
  intro fuel hfuel
  rw [List.append_assoc] at hfuel ⊢
  obtain ⟨between, hbetween, hscan⟩ := h fuel hfuel
  obtain ⟨left, hleft, hscan'⟩ := h' between hbetween
  exact ⟨left, hleft, by rw [hscan, hscan', List.append_assoc]⟩

/-- A text that is written is cut into its tokens. -/
theorem Spells.ofChars_eq (h : Spells chars tokens []) : ofChars chars = tokens := by
  obtain ⟨left, -, hscan⟩ := h chars.length (Nat.le_of_eq (congrArg _ (List.append_nil chars)))
  rw [List.append_nil] at hscan
  have hempty : scan left [] = [] := by cases left <;> rfl
  rw [ofChars, hscan, hempty, List.append_nil]

/-- A token is cut off as a whole. -/
theorem Spells.of_first {c : Char} {cs : List Char} {token : Token} (hchars : chars ≠ [])
    (hcons : chars ++ rest = c :: cs) (hspace : isSpace c = false)
    (hfirst : first c cs = (token, rest)) : Spells chars [token] rest := by
  intro fuel hfuel
  have hpos : 0 < chars.length := List.length_pos_iff.mpr hchars
  rw [List.length_append] at hfuel
  obtain ⟨left, rfl⟩ : ∃ left, fuel = left + 1 := ⟨fuel - 1, by omega⟩
  refine ⟨left, by omega, ?_⟩
  rw [hcons, scan, hspace, hfirst]
  rfl

theorem Spells.space {c : Char} (h : isSpace c = true) : Spells [c] [] rest := by
  intro fuel hfuel
  rw [List.length_append, List.length_singleton] at hfuel
  obtain ⟨left, rfl⟩ : ∃ left, fuel = left + 1 := ⟨fuel - 1, by omega⟩
  refine ⟨left, by omega, ?_⟩
  rw [List.singleton_append, scan, h]
  rfl

/-- A character that is a token on its own. -/
theorem Spells.mark {c : Char} {token : Token} (hspace : isSpace c = false)
    (h : ∀ cs, first c cs = (token, cs)) : Spells [c] [token] rest :=
  .of_first (List.cons_ne_nil c []) rfl hspace (h rest)

theorem Spells.quote (s : String) :
    Spells (StringLiteral.quote s) [string (.ok s) (.ok ())] rest := by
  refine .of_first (c := '"') (by simp [StringLiteral.quote]) ?_ rfl (first_quote s rest)
  rw [StringLiteral.quote, List.append_assoc]
  rfl

theorem Spells.integer {i : Int} (hfits : (Number.integer i).Fits) (h : Delimits rest) :
    Spells (Decimal.integerChars i) [number (.ok (.integer i)) (.ok ())] rest := by
  obtain ⟨c, cs, hcons, hspace, hfirst⟩ := first_write hfits h
  refine .of_first ?_ hcons hspace hfirst
  rw [Decimal.integerChars]
  split
  case isTrue => exact List.cons_ne_nil _ _
  case isFalse => exact Decimal.digits_ne_nil _

theorem Spells.newLine {level : Nat} : Spells (newLine level) [] rest := by
  have hspaces : ∀ n, Spells (List.replicate n ' ') [] rest := by
    intro n
    induction n with
    | zero => exact .nil
    | succ n ih => exact (Spells.space rfl).append ih
  exact (Spells.space rfl).append (hspaces (2 * level))

theorem Spells.append_newLine {level : Nat} (h : Spells chars tokens (Json.newLine level ++ rest)) :
    Spells (chars ++ Json.newLine level) tokens rest :=
  List.append_nil tokens ▸ h.append .newLine

end Token

/-! ### Compact texts -/

open Token (Spells)

mutual

/-- A value without blanks is cut into its tokens. -/
theorem spells_compactChars : ∀ {j : Json} {rest : List Char}, j.IsWhole → Delimits rest →
    Spells (compactChars j) (Token.ofJson j) rest
  | null, _, _, _ => .of_first (List.cons_ne_nil _ _) rfl rfl rfl
  | bool true, _, _, _ => .of_first (List.cons_ne_nil _ _) rfl rfl rfl
  | bool false, _, _, _ => .of_first (List.cons_ne_nil _ _) rfl rfl rfl
  | number (.integer _), _, hwhole, hrest => Spells.integer hwhole hrest
  | string s, _, _, _ => Spells.quote s
  | array elements, rest, hwhole, _ => by
    have hopen : Spells ['['] [.openArray] (compactElements elements ++ ([']'] ++ rest)) :=
      .mark rfl fun _ => rfl
    have hinner : Spells _ _ ([']'] ++ rest) := spells_compactElements hwhole .bracket
    exact (hopen.append hinner).append (.mark rfl fun _ => rfl)
  | object members, rest, hwhole, _ => by
    have hopen : Spells ['\x7b'] [.openObject] (compactMembers members ++ (['\x7d'] ++ rest)) :=
      .mark rfl fun _ => rfl
    have hinner : Spells _ _ (['\x7d'] ++ rest) := spells_compactMembers hwhole .brace
    exact (hopen.append hinner).append (.mark rfl fun _ => rfl)

theorem spells_compactElements : ∀ {elements : List Json} {rest : List Char}, AreWhole elements →
    Delimits rest → Spells (compactElements elements) (Token.ofElements elements) rest
  | [], _, _, _ => .nil
  | [_], _, ⟨hj, _⟩, hrest => spells_compactChars hj hrest
  | j :: k :: js, rest, ⟨hj, hjs⟩, hrest => by
    have hothers : Spells (',' :: compactElements (k :: js))
        (.comma :: Token.ofElements (k :: js)) rest :=
      (Spells.mark rfl fun _ => rfl).append (spells_compactElements hjs hrest)
    exact (spells_compactChars hj .comma).append hothers

theorem spells_compactMembers : ∀ {members : List (String × Json)} {rest : List Char},
    MembersAreWhole members → Delimits rest →
      Spells (compactMembers members) (Token.ofMembers members) rest
  | [], _, _, _ => .nil
  | [(k, j)], rest, ⟨hj, _⟩, hrest => by
    have hvalue : Spells (':' :: compactChars j) (.colon :: Token.ofJson j) rest :=
      (Spells.mark rfl fun _ => rfl).append (spells_compactChars hj hrest)
    exact (Spells.quote k).append hvalue
  | (k, j) :: m :: ms, rest, ⟨hj, hms⟩, hrest => by
    have hothers : Spells (',' :: compactMembers (m :: ms))
        (.comma :: Token.ofMembers (m :: ms)) rest :=
      (Spells.mark rfl fun _ => rfl).append (spells_compactMembers hms hrest)
    have hvalue : Spells (':' :: compactChars j) (.colon :: Token.ofJson j)
        (',' :: compactMembers (m :: ms) ++ rest) :=
      (Spells.mark rfl fun _ => rfl).append (spells_compactChars hj .comma)
    exact ((Spells.quote k).append hvalue).append hothers

end

/-! ### Texts with indentation -/

mutual

/-- A value with indentation is cut into its tokens. -/
theorem spells_prettyChars : ∀ {level : Nat} {j : Json} {rest : List Char}, j.IsWhole →
    Delimits rest → Spells (prettyChars level j) (Token.ofJson j) rest
  | _, null, _, hwhole, hrest | _, bool _, _, hwhole, hrest | _, number _, _, hwhole, hrest
  | _, string _, _, hwhole, hrest | _, array [], _, hwhole, hrest
  | _, object [], _, hwhole, hrest => spells_compactChars hwhole hrest
  | level, array (j :: js), rest, hwhole, _ => by
    have hopen : Spells ['['] [.openArray]
        (prettyElements (level + 1) (j :: js) ++ (newLine level ++ ([']'] ++ rest))) :=
      .mark rfl fun _ => rfl
    have hinner : Spells (prettyElements (level + 1) (j :: js)) _
        (newLine level ++ ([']'] ++ rest)) := spells_prettyElements hwhole .lineBreak
    exact (hopen.append hinner).append_newLine.append (.mark rfl fun _ => rfl)
  | level, object (m :: ms), rest, hwhole, _ => by
    have hopen : Spells ['\x7b'] [.openObject]
        (prettyMembers (level + 1) (m :: ms) ++ (newLine level ++ (['\x7d'] ++ rest))) :=
      .mark rfl fun _ => rfl
    have hinner : Spells (prettyMembers (level + 1) (m :: ms)) _
        (newLine level ++ (['\x7d'] ++ rest)) := spells_prettyMembers hwhole .lineBreak
    exact (hopen.append hinner).append_newLine.append (.mark rfl fun _ => rfl)

theorem spells_prettyElements : ∀ {level : Nat} {elements : List Json} {rest : List Char},
    AreWhole elements → Delimits rest →
      Spells (prettyElements level elements) (Token.ofElements elements) rest
  | _, [], _, _, _ => .nil
  | _, [_], _, ⟨hj, _⟩, hrest => Spells.newLine.append (spells_prettyChars hj hrest)
  | level, j :: k :: js, rest, ⟨hj, hjs⟩, hrest => by
    have hothers : Spells (',' :: prettyElements level (k :: js))
        (.comma :: Token.ofElements (k :: js)) rest :=
      (Spells.mark rfl fun _ => rfl).append (spells_prettyElements hjs hrest)
    exact (Spells.newLine.append (spells_prettyChars hj .comma)).append hothers

theorem spells_prettyMembers : ∀ {level : Nat} {members : List (String × Json)}
    {rest : List Char}, MembersAreWhole members → Delimits rest →
      Spells (prettyMembers level members) (Token.ofMembers members) rest
  | _, [], _, _, _ => .nil
  | level, [(k, j)], rest, ⟨hj, _⟩, hrest => by
    have hvalue : Spells (':' :: ' ' :: prettyChars level j) (.colon :: Token.ofJson j) rest :=
      (Spells.mark rfl fun _ => rfl).append
        ((Spells.space rfl).append (spells_prettyChars hj hrest))
    exact (Spells.newLine.append (Spells.quote k)).append hvalue
  | level, (k, j) :: m :: ms, rest, ⟨hj, hms⟩, hrest => by
    have hothers : Spells (',' :: prettyMembers level (m :: ms))
        (.comma :: Token.ofMembers (m :: ms)) rest :=
      (Spells.mark rfl fun _ => rfl).append (spells_prettyMembers hms hrest)
    have hvalue : Spells (':' :: ' ' :: prettyChars level j) (.colon :: Token.ofJson j)
        (',' :: prettyMembers level (m :: ms) ++ rest) :=
      (Spells.mark rfl fun _ => rfl).append
        ((Spells.space rfl).append (spells_prettyChars hj .comma))
    exact ((Spells.newLine.append (Spells.quote k)).append hvalue).append hothers

end

end InvoiceFields.Json
