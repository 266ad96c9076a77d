import InvoiceFields.Json.Tree

/-!
# What holds of the trees of texts

A tree is built from tokens by a reader for each kind of place. A property of trees that every step
of these readers keeps (`Tree.Kept`) holds of the tree of every text (`Tree.Kept.ofText`). It may
depend on the number of arrays and objects around the tree, and on what is known of the tokens.
-/

namespace InvoiceFields.Json.Tree

variable {known : Token → Prop} {T : Nat → Tree → Prop} {E : Nat → Elements → Prop}
  {M : Nat → Members → Prop}

/-- Properties of trees, elements and members inside `n` arrays and objects that are kept by every
step of the readers, for tokens of which something is known. -/
structure Kept (known : Token → Prop) (T : Nat → Tree → Prop) (E : Nat → Elements → Prop)
    (M : Nat → Members → Prop) : Prop where
  null : ∀ n, T n .null
  bool : ∀ n b, T n (.bool b)
  number : ∀ n value skipped, known (.number value skipped) → T n (.number value skipped)
  string : ∀ n value skipped, known (.string value skipped) → T n (.string value skipped)
  array : ∀ n elements, E (n + 1) elements → T n (.array (decide (maxDepth < n + 1)) elements)
  object : ∀ n members, M (n + 1) members → T n (.object (decide (maxDepth < n + 1)) members)
  broken : ∀ n f, T n (.broken f)
  noElements : ∀ n, E n .closed
  haltedElements : ∀ n afterComma f, E n (.halted afterComma f)
  consElements : ∀ n head tail, T n head → E n tail → E n (.cons head tail)
  noMembers : ∀ n, M n .closed
  haltedMembers : ∀ n afterComma f, M n (.halted afterComma f)
  consMembers : ∀ n key skipped value tail, T n value → M n tail →
    M n (.cons key skipped value tail)

/-- What is read has a property, and something is known of all tokens behind it. -/
def Yields {α : Type} (known : Token → Prop) (P : α → Prop) (read : α × List Token) : Prop :=
  P read.1 ∧ ∀ token ∈ read.2, known token

theorem yields_nil {α : Type} {P : α → Prop} {a : α} (h : P a) : Yields known P (a, []) :=
  ⟨h, fun _ htoken => nomatch htoken⟩

/-- What all readers yield with some steps left. -/
private structure AllYield (known : Token → Prop) (T : Nat → Tree → Prop)
    (E : Nat → Elements → Prop) (M : Nat → Members → Prop) (fuel : Nat) : Prop where
  value : ∀ n tokens, (∀ token ∈ tokens, known token) →
    Yields known (T n) (readValue fuel n tokens)
  firstElement : ∀ n tokens, (∀ token ∈ tokens, known token) →
    Yields known (E n) (readFirstElement fuel n tokens)
  element : ∀ n tokens, (∀ token ∈ tokens, known token) →
    Yields known (E n) (readElement fuel n tokens)
  otherElements : ∀ n tokens, (∀ token ∈ tokens, known token) →
    Yields known (E n) (readOtherElements fuel n tokens)
  firstMember : ∀ n tokens, (∀ token ∈ tokens, known token) →
    Yields known (M n) (readFirstMember fuel n tokens)
  member : ∀ n tokens, (∀ token ∈ tokens, known token) →
    Yields known (M n) (readMember fuel n tokens)
  memberValue : ∀ n tokens, (∀ token ∈ tokens, known token) →
    Yields known (T n) (readMemberValue fuel n tokens)
  otherMembers : ∀ n tokens, (∀ token ∈ tokens, known token) →
    Yields known (M n) (readOtherMembers fuel n tokens)

private theorem Kept.zero (h : Kept known T E M) : AllYield known T E M 0 := by
  constructor <;> intro n tokens _
  case value => unfold readValue; exact yields_nil (h.broken n _)
  case firstElement => unfold readFirstElement; exact yields_nil (h.haltedElements n _ _)
  case element => unfold readElement; exact yields_nil (h.haltedElements n _ _)
  case otherElements => unfold readOtherElements; exact yields_nil (h.haltedElements n _ _)
  case firstMember => unfold readFirstMember; exact yields_nil (h.haltedMembers n _ _)
  case member => unfold readMember; exact yields_nil (h.haltedMembers n _ _)
  case memberValue => unfold readMemberValue; exact yields_nil (h.broken n _)
  case otherMembers => unfold readOtherMembers; exact yields_nil (h.haltedMembers n _ _)

private theorem Kept.succ {fuel : Nat} (h : Kept known T E M) (ih : AllYield known T E M fuel) :
    AllYield known T E M (fuel + 1) := by
  constructor <;> intro n tokens htokens
  case value =>
    cases tokens with
    | nil => unfold readValue; exact yields_nil (h.broken n _)
    | cons token tokens =>
      obtain ⟨htoken, hothers⟩ := List.forall_mem_cons.mp htokens
      unfold readValue
      dsimp only
      split
      case h_1 => exact ⟨h.null n, hothers⟩
      case h_2 => exact ⟨h.bool n _, hothers⟩
      case h_3 => exact ⟨h.number n _ _ htoken, hothers⟩
      case h_4 => exact ⟨h.string n _ _ htoken, hothers⟩
      case h_5 =>
        obtain ⟨helements, hrest⟩ := ih.firstElement (n + 1) tokens hothers
        exact ⟨h.array n _ helements, hrest⟩
      case h_6 =>
        obtain ⟨hmembers, hrest⟩ := ih.firstMember (n + 1) tokens hothers
        exact ⟨h.object n _ hmembers, hrest⟩
      all_goals exact yields_nil (h.broken n _)
  case firstElement =>
    cases tokens with
    | nil => unfold readFirstElement; exact yields_nil (h.haltedElements n _ _)
    | cons token tokens =>
      unfold readFirstElement
      split
      case h_1 => exact ⟨h.noElements n, (List.forall_mem_cons.mp htokens).2⟩
      case h_2 => exact ih.element n (token :: tokens) htokens
  case element =>
    unfold readElement
    obtain ⟨hvalue, hbehind⟩ := ih.value n tokens htokens
    obtain ⟨htail, hrest⟩ := ih.otherElements n _ hbehind
    exact ⟨h.consElements n _ _ hvalue htail, hrest⟩
  case otherElements =>
    cases tokens with
    | nil => unfold readOtherElements; exact yields_nil (h.haltedElements n _ _)
    | cons token tokens =>
      obtain ⟨-, hothers⟩ := List.forall_mem_cons.mp htokens
      unfold readOtherElements
      split
      case h_1 => exact ⟨h.noElements n, hothers⟩
      case h_4 => exact ih.element n tokens hothers
      all_goals exact yields_nil (h.haltedElements n _ _)
  case firstMember =>
    cases tokens with
    | nil => unfold readFirstMember; exact yields_nil (h.haltedMembers n _ _)
    | cons token tokens =>
      unfold readFirstMember
      split
      case h_1 => exact ⟨h.noMembers n, (List.forall_mem_cons.mp htokens).2⟩
      case h_2 => exact ih.member n (token :: tokens) htokens
  case member =>
    cases tokens with
    | nil => unfold readMember; exact yields_nil (h.haltedMembers n _ _)
    | cons token tokens =>
      obtain ⟨-, hothers⟩ := List.forall_mem_cons.mp htokens
      unfold readMember
      split
      case h_1 =>
        obtain ⟨hvalue, hbehind⟩ := ih.memberValue n tokens hothers
        obtain ⟨htail, hrest⟩ := ih.otherMembers n _ hbehind
        exact ⟨h.consMembers n _ _ _ _ hvalue htail, hrest⟩
      case h_2 => exact yields_nil (h.haltedMembers n _ _)
  case memberValue =>
    cases tokens with
    | nil => unfold readMemberValue; exact yields_nil (h.broken n _)
    | cons token tokens =>
      obtain ⟨-, hothers⟩ := List.forall_mem_cons.mp htokens
      unfold readMemberValue
      split
      case h_1 => exact ih.value n tokens hothers
      case h_2 => exact yields_nil (h.broken n _)
  case otherMembers =>
    cases tokens with
    | nil => unfold readOtherMembers; exact yields_nil (h.haltedMembers n _ _)
    | cons token tokens =>
      obtain ⟨-, hothers⟩ := List.forall_mem_cons.mp htokens
      unfold readOtherMembers
      split
      case h_1 => exact ⟨h.noMembers n, hothers⟩
      case h_4 => exact ih.member n _ hothers
      all_goals exact yields_nil (h.haltedMembers n _ _)

private theorem Kept.allYield (h : Kept known T E M) : ∀ fuel, AllYield known T E M fuel
  | 0 => h.zero
  | fuel + 1 => h.succ (h.allYield fuel)

/-- What every step keeps holds of the tree of a text. -/
theorem Kept.ofText {text : String} (h : Kept known T E M)
    (htokens : ∀ token ∈ Token.ofChars text.toList, known token) :
    T 0 (Reading.ofText text).tree := by
  have hread := (h.allYield (3 * (Token.ofChars text.toList).length + 3)).value 0 _ htokens
  rw [Reading.ofText, Tree.ofTokens]
  exact hread.1

end InvoiceFields.Json.Tree
