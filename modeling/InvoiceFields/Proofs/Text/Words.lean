import InvoiceFields.Proofs.Text.Trimming

/-!
# Words

The words of a text are its pieces between blanks: none of them is empty, and none holds a blank
(`isWord_of_mem_words`). A blank divides the words in front of it from those behind it
(`words_append_space`), so words with single spaces between them are found again (`words_join`).
-/

namespace InvoiceFields.Text

variable {p : Char → Bool} {cs piece : List Char} {s w : String} {ws : List String}

/-! ### Pieces -/

/-- A piece holds no character that the text is cut at. -/
theorem not_of_mem_splitWhere (h : piece ∈ splitWhere p cs) : ∀ c ∈ piece, p c = false := by
  induction cs generalizing piece with
  | nil =>
    obtain rfl := List.mem_singleton.mp h
    exact nofun
  | cons c cs ih =>
    rw [splitWhere] at h
    split at h
    case isTrue =>
      obtain rfl | h := List.mem_cons.mp h
      · exact nofun
      · exact ih h
    case isFalse hc =>
      split at h
      case h_1 hnil => exact absurd hnil splitWhere_ne_nil
      case h_2 first pieces hpieces =>
        rw [hpieces] at ih
        obtain rfl | h := List.mem_cons.mp h
        · have hfirst : ∀ c ∈ first, p c = false := ih List.mem_cons_self
          exact List.forall_mem_cons.mpr ⟨Bool.not_eq_true _ ▸ hc, hfirst⟩
        · exact ih (List.mem_cons_of_mem _ h)

/-! ### Words -/

/-- A text that is one word. -/
structure IsWord (w : String) : Prop where
  nonempty : w ≠ ""
  unbroken : ∀ c ∈ w.toList, isBlank c = false

/-- What a text is cut into are words. -/
theorem isWord_of_mem_words (h : w ∈ words s) : IsWord w := by
  obtain ⟨piece, hpiece, rfl⟩ := List.mem_map.mp h
  obtain ⟨hcut, hne⟩ := List.mem_filter.mp hpiece
  refine ⟨?_, ?_⟩
  · simpa using hne
  · rw [String.toList_ofList]
    exact not_of_mem_splitWhere hcut

/-- A word is cut into itself. -/
theorem words_eq_singleton (h : IsWord w) : words w = [w] := by
  have hne : w.toList ≠ [] := fun hnil => h.nonempty (String.toList_eq_nil_iff.mp hnil)
  rw [words, piecesWhere, splitWhere_eq_singleton h.unbroken, List.filter_cons]
  simp [hne]

/-- A space divides the words in front of it from those behind it. -/
theorem words_append_space (a b : String) : words (a ++ " " ++ b) = words a ++ words b := by
  have hspace : isBlank ' ' = true := by decide
  have hchars : (a ++ " " ++ b).toList = a.toList ++ ' ' :: b.toList := by
    rw [String.toList_append, String.toList_append, List.append_assoc]
    rfl
  rw [words, piecesWhere, hchars, splitWhere_append hspace, List.filter_append, List.map_append]
  rfl

/-- Words with single spaces between them are found again. -/
theorem words_join (h : ∀ w ∈ ws, IsWord w) : words (join " " ws) = ws := by
  induction ws with
  | nil => rfl
  | cons w ws ih =>
    obtain ⟨hw, hws⟩ := List.forall_mem_cons.mp h
    cases ws with
    | nil => exact words_eq_singleton hw
    | cons w' ws =>
      have hrest := ih hws
      rw [join] at hrest ⊢
      rw [String.intercalate_cons_cons, words_append_space, hrest, words_eq_singleton hw]
      rfl

end InvoiceFields.Text
