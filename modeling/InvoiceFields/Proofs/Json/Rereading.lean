import InvoiceFields.Proofs.Json.Depth
import InvoiceFields.Proofs.Json.Spelling

/-!
# Written texts are read back

The tokens of a value are read as the tree of the value, and behind it the reader stands where the
tokens end (`Tree.readValue_ofJson`). So a value that is written is a text of the value
(`isTextOf_compact`, `isTextOf_pretty`), and readers take from it what they take from the value
itself.
-/

namespace InvoiceFields.Json

/-! ### Behind brackets and commas -/

/-- The tokens of elements do not start with a closing bracket. -/
theorem Token.exists_ofElements_eq_cons (j : Json) (js : List Json) :
    ∃ token tokens, ofElements (j :: js) = token :: tokens ∧ token ≠ closeArray := by
  have hfirst : ∃ token tokens, ofJson j = token :: tokens ∧ token ≠ closeArray := by
    cases j <;> exact ⟨_, _, rfl, nofun⟩
  obtain ⟨token, tokens, htokens, hne⟩ := hfirst
  cases js with
  | nil => exact ⟨token, tokens, htokens, hne⟩
  | cons k js =>
    refine ⟨token, tokens ++ comma :: ofElements (k :: js), ?_, hne⟩
    show ofJson j ++ comma :: ofElements (k :: js) = _
    rw [htokens]
    rfl

/-- The tokens of members start with the key of the first. -/
theorem Token.exists_ofMembers_eq_cons (k : String) (j : Json) (ms : List (String × Json)) :
    ∃ tokens, ofMembers ((k, j) :: ms) = string (.ok k) (.ok ()) :: tokens := by
  cases ms <;> exact ⟨_, rfl⟩

namespace Tree

variable {fuel depth : Nat} {token : Token} {tokens : List Token} {key : Except Fault String}
  {skipped : Except Fault Unit}

theorem readFirstElement_cons (h : token ≠ .closeArray) :
    readFirstElement (fuel + 1) depth (token :: tokens) =
      readElement fuel depth (token :: tokens) := by
  rw [readFirstElement]
  exact h

theorem readOtherElements_comma (h : token ≠ .closeArray) :
    readOtherElements (fuel + 1) depth (.comma :: token :: tokens) =
      readElement fuel depth (token :: tokens) := by
  rw [readOtherElements]
  · rintro ⟨⟩
  · exact fun _ heq => h (List.cons.inj heq).1

theorem readFirstMember_string :
    readFirstMember (fuel + 1) depth (.string key skipped :: tokens) =
      readMember fuel depth (.string key skipped :: tokens) := by
  rw [readFirstMember]
  rintro ⟨⟩

theorem readOtherMembers_comma :
    readOtherMembers (fuel + 1) depth (.comma :: .string key skipped :: tokens) =
      readMember fuel depth (.string key skipped :: tokens) := by
  rw [readOtherMembers]

end Tree

/-! ### Trees -/

mutual

/-- The tokens of a value are read as its tree, up to marks. -/
theorem Tree.readValue_ofJson : ∀ (j : Json) (fuel depth : Nat) (rest : List Token),
    3 * (Token.ofJson j).length ≤ fuel →
      ∃ t, Tree.readValue fuel depth (Token.ofJson j ++ rest) = (t, rest) ∧
        t.unmarked = Tree.ofJson j
  | .null, fuel, _, _, h | .bool _, fuel, _, _, h | .number _, fuel, _, _, h
  | .string _, fuel, _, _, h => by
    have hpos : 3 ≤ fuel := h
    obtain ⟨steps, rfl⟩ : ∃ steps, fuel = steps + 1 := ⟨fuel - 1, by omega⟩
    refine ⟨_, ?_, Tree.unmarked_ofJson _⟩
    rw [Token.ofJson, List.singleton_append, Tree.readValue, Tree.ofJson]
  | .array [], fuel, depth, rest, h => by
    have hpos : 3 * 2 ≤ fuel := h
    obtain ⟨steps, rfl⟩ : ∃ steps, fuel = steps + 2 := ⟨fuel - 2, by omega⟩
    refine ⟨.array (decide (Tree.maxDepth < depth + 1)) .closed, ?_, rfl⟩
    rw [Token.ofJson, Token.ofElements, List.cons_append, List.cons_append, Tree.readValue,
      List.nil_append, List.singleton_append, Tree.readFirstElement]
  | .array (j :: js), fuel, depth, rest, h => by
    rw [Token.ofJson, List.length_append, List.length_cons, List.length_singleton] at h
    obtain ⟨steps, rfl⟩ : ∃ steps, fuel = steps + 2 := ⟨fuel - 2, by omega⟩
    obtain ⟨elements, hread, hsame⟩ := Elements.readElement_ofJson (j :: js) steps
      (depth + 1) rest (List.cons_ne_nil j js) (by omega)
    have hfirst : Tree.readFirstElement (steps + 1) (depth + 1)
        (Token.ofElements (j :: js) ++ .closeArray :: rest) = (elements, rest) := by
      obtain ⟨token, tokens, htokens, hne⟩ := Token.exists_ofElements_eq_cons j js
      rw [htokens] at hread ⊢
      rw [List.cons_append, Tree.readFirstElement_cons hne, ← List.cons_append, hread]
    refine ⟨.array (decide (Tree.maxDepth < depth + 1)) elements, ?_,
      by rw [Tree.unmarked, hsame, Tree.ofJson]⟩
    rw [Token.ofJson, List.append_assoc, List.cons_append, List.singleton_append, Tree.readValue,
      hfirst]
  | .object [], fuel, depth, rest, h => by
    have hpos : 3 * 2 ≤ fuel := h
    obtain ⟨steps, rfl⟩ : ∃ steps, fuel = steps + 2 := ⟨fuel - 2, by omega⟩
    refine ⟨.object (decide (Tree.maxDepth < depth + 1)) .closed, ?_, rfl⟩
    rw [Token.ofJson, Token.ofMembers, List.cons_append, List.cons_append, Tree.readValue,
      List.nil_append, List.singleton_append, Tree.readFirstMember]
  | .object ((k, j) :: ms), fuel, depth, rest, h => by
    rw [Token.ofJson, List.length_append, List.length_cons, List.length_singleton] at h
    obtain ⟨steps, rfl⟩ : ∃ steps, fuel = steps + 2 := ⟨fuel - 2, by omega⟩
    obtain ⟨members, hread, hsame⟩ := Members.readMember_ofJson ((k, j) :: ms) steps
      (depth + 1) rest (List.cons_ne_nil _ ms) (by omega)
    have hfirst : Tree.readFirstMember (steps + 1) (depth + 1)
        (Token.ofMembers ((k, j) :: ms) ++ .closeObject :: rest) = (members, rest) := by
      obtain ⟨tokens, htokens⟩ := Token.exists_ofMembers_eq_cons k j ms
      rw [htokens] at hread ⊢
      rw [List.cons_append, Tree.readFirstMember_string, ← List.cons_append, hread]
    refine ⟨.object (decide (Tree.maxDepth < depth + 1)) members, ?_,
      by rw [Tree.unmarked, hsame, Tree.ofJson]⟩
    rw [Token.ofJson, List.append_assoc, List.cons_append, List.singleton_append, Tree.readValue,
      hfirst]

theorem Elements.readElement_ofJson : ∀ (js : List Json) (fuel depth : Nat)
    (rest : List Token), js ≠ [] → 3 * (Token.ofElements js).length + 1 ≤ fuel →
      ∃ elements, Tree.readElement fuel depth
          (Token.ofElements js ++ .closeArray :: rest) = (elements, rest) ∧
        elements.unmarked = Elements.ofJson js
  | [], _, _, _, hne, _ => absurd rfl hne
  | [j], fuel, depth, rest, _, h => by
    have hlength : 0 < (Token.ofJson j).length := by cases j <;> exact Nat.succ_pos _
    rw [Token.ofElements] at h ⊢
    obtain ⟨steps, rfl⟩ : ∃ steps, fuel = steps + 2 := ⟨fuel - 2, by omega⟩
    obtain ⟨t, hread, hsame⟩ :=
      Tree.readValue_ofJson j (steps + 1) depth (.closeArray :: rest) (by omega)
    refine ⟨.cons t .closed, ?_, by rw [Elements.unmarked, hsame]; rfl⟩
    rw [Tree.readElement, hread]
    dsimp only
    rw [Tree.readOtherElements]
  | j :: k :: js, fuel, depth, rest, _, h => by
    have htokens : Token.ofElements (j :: k :: js) =
        Token.ofJson j ++ .comma :: Token.ofElements (k :: js) := rfl
    rw [htokens, List.length_append, List.length_cons] at h
    obtain ⟨steps, rfl⟩ : ∃ steps, fuel = steps + 2 := ⟨fuel - 2, by omega⟩
    obtain ⟨t, hread, hsame⟩ := Tree.readValue_ofJson j (steps + 1) depth
      (.comma :: Token.ofElements (k :: js) ++ .closeArray :: rest) (by omega)
    obtain ⟨elements, hothers, hsameOthers⟩ := Elements.readElement_ofJson (k :: js)
      steps depth rest (List.cons_ne_nil k js) (by omega)
    have hcomma : Tree.readOtherElements (steps + 1) depth
        (.comma :: Token.ofElements (k :: js) ++ .closeArray :: rest) = (elements, rest) := by
      obtain ⟨token, tokens, hcons, hne⟩ := Token.exists_ofElements_eq_cons k js
      rw [hcons] at hothers ⊢
      rw [List.cons_append, List.cons_append, Tree.readOtherElements_comma hne,
        ← List.cons_append, hothers]
    refine ⟨.cons t elements, ?_, by rw [Elements.unmarked, hsame, hsameOthers]; rfl⟩
    rw [htokens, List.append_assoc, Tree.readElement, hread]
    dsimp only
    rw [hcomma]

theorem Members.readMember_ofJson : ∀ (ms : List (String × Json)) (fuel depth : Nat)
    (rest : List Token), ms ≠ [] → 3 * (Token.ofMembers ms).length + 1 ≤ fuel →
      ∃ members, Tree.readMember fuel depth
          (Token.ofMembers ms ++ .closeObject :: rest) = (members, rest) ∧
        members.unmarked = Members.ofJson ms
  | [], _, _, _, hne, _ => absurd rfl hne
  | [(k, j)], fuel, depth, rest, _, h => by
    rw [Token.ofMembers, List.length_cons, List.length_cons] at h
    obtain ⟨steps, rfl⟩ : ∃ steps, fuel = steps + 2 := ⟨fuel - 2, by omega⟩
    obtain ⟨t, hread, hsame⟩ :=
      Tree.readValue_ofJson j steps depth (.closeObject :: rest) (by omega)
    refine ⟨.cons (.ok k) (.ok ()) t .closed, ?_, by rw [Members.unmarked, hsame]; rfl⟩
    rw [Token.ofMembers, List.cons_append, List.cons_append, Tree.readMember, Tree.readMemberValue,
      hread]
    dsimp only
    rw [Tree.readOtherMembers]
  | (k, j) :: (k', j') :: ms, fuel, depth, rest, _, h => by
    have htokens : Token.ofMembers ((k, j) :: (k', j') :: ms) =
        .string (.ok k) (.ok ()) :: .colon :: (Token.ofJson j ++
          .comma :: Token.ofMembers ((k', j') :: ms)) := rfl
    rw [htokens, List.length_cons, List.length_cons, List.length_append, List.length_cons] at h
    obtain ⟨steps, rfl⟩ : ∃ steps, fuel = steps + 2 := ⟨fuel - 2, by omega⟩
    obtain ⟨t, hread, hsame⟩ := Tree.readValue_ofJson j steps depth
      (.comma :: Token.ofMembers ((k', j') :: ms) ++ .closeObject :: rest) (by omega)
    obtain ⟨members, hothers, hsameOthers⟩ := Members.readMember_ofJson ((k', j') :: ms)
      steps depth rest (List.cons_ne_nil _ ms) (by omega)
    have hcomma : Tree.readOtherMembers (steps + 1) depth
        (.comma :: Token.ofMembers ((k', j') :: ms) ++ .closeObject :: rest) = (members, rest) := by
      obtain ⟨tokens, hcons⟩ := Token.exists_ofMembers_eq_cons k' j' ms
      rw [hcons] at hothers ⊢
      rw [List.cons_append, List.cons_append, Tree.readOtherMembers_comma, ← List.cons_append,
        hothers]
    refine ⟨.cons (.ok k) (.ok ()) t members, ?_,
      by rw [Members.unmarked, hsame, hsameOthers]; rfl⟩
    rw [htokens, List.cons_append, List.cons_append, List.append_assoc, Tree.readMember,
      Tree.readMemberValue, hread]
    dsimp only
    rw [hcomma]

end

/-! ### Texts -/

/-- A text that is cut into the tokens of a value is one of the value. -/
theorem isTextOf_of_spells {text : String} {j : Json}
    (h : Token.Spells text.toList (Token.ofJson j) []) : IsTextOf text j := by
  obtain ⟨t, hread, hsame⟩ :=
    Tree.readValue_ofJson j (3 * (Token.ofJson j).length + 3) 0 [] (Nat.le_add_right _ _)
  have hreading : Reading.ofText text = ⟨t, false⟩ := by
    rw [List.append_nil] at hread
    rw [Reading.ofText, h.ofChars_eq, Tree.ofTokens, hread]
    rfl
  exact ⟨by rw [hreading, hsame], by rw [hreading]⟩

variable {j : Json}

theorem isTextOf_compact (h : j.IsWhole) : IsTextOf j.compact j :=
  isTextOf_of_spells (by rw [compact, String.toList_ofList]; exact spells_compactChars h trivial)

theorem isTextOf_pretty (h : j.IsWhole) : IsTextOf j.pretty j :=
  isTextOf_of_spells (by rw [pretty, String.toList_ofList]; exact spells_prettyChars h trivial)

end InvoiceFields.Json
