import InvoiceFields.Proofs.Answer
import InvoiceFields.Proofs.Text.Words
import InvoiceFields.Rule

/-!
# What a rule takes out of a document

A rule for a line takes a segment of it when the line is there and the segment fits its tokens, and
a rule with markers does so at its distance from the first line that holds one. Numbers of lines
and distances are added as integers: a sum that leaves the range of a word leaves the document too
(`inWord_of_inside`). `resolves_exactly` is the main statement.
-/

namespace InvoiceFields

/-! ### Segments -/

namespace Segment

variable {tokens : List String} {text : String} {segment : Segment}

/-- A segment stays within a number of tokens. -/
def Fits (count : Nat) : Segment → Prop
  | token k => 1 ≤ k ∧ k ≤ count
  | range first last => 1 ≤ first ∧ first ≤ last ∧ last ≤ count
  | invalid _ => False

/-- A text is the token of a segment, or its words are the tokens of a range and stand with single
spaces between them. -/
def Picks (tokens : List String) (text : String) : Segment → Prop
  | token k => tokens[k - 1]? = some text
  | range first last => text = Text.join " " (Text.words text) ∧
      (Text.words text).length = last + 1 - first ∧
      ∀ i < last + 1 - first, (Text.words text)[i]? = tokens[first - 1 + i]?
  | invalid _ => False

instance (count : Nat) : (segment : Segment) → Decidable (segment.Fits count)
  | token k => inferInstanceAs (Decidable (1 ≤ k ∧ k ≤ count))
  | range first last => inferInstanceAs (Decidable (1 ≤ first ∧ first ≤ last ∧ last ≤ count))
  | invalid _ => inferInstanceAs (Decidable False)

instance (tokens : List String) (text : String) :
    (segment : Segment) → Decidable (segment.Picks tokens text)
  | token k => inferInstanceAs (Decidable (tokens[k - 1]? = some text))
  | range first last => inferInstanceAs (Decidable (text = Text.join " " (Text.words text) ∧
      (Text.words text).length = last + 1 - first ∧
      ∀ i < last + 1 - first, (Text.words text)[i]? = tokens[first - 1 + i]?))
  | invalid _ => inferInstanceAs (Decidable False)

/-- The tokens of a range, counted from one. -/
private theorem getElem?_slice {first last i : Nat} (hfirst : 1 ≤ first) :
    ((tokens.take last).drop (first - 1))[i]? =
      if i < last + 1 - first then tokens[first - 1 + i]? else none := by
  rw [List.getElem?_drop, List.getElem?_take]
  have hinside : first - 1 + i < last ↔ i < last + 1 - first := by omega
  simp only [hinside]

/-- A range picks the tokens that it counts, and nothing else. -/
private theorem picks_range (htokens : ∀ w ∈ tokens, Text.IsWord w) {first last : Nat}
    (hfits : (range first last).Fits tokens.length) :
    (range first last).Picks tokens text ↔
      text = Text.join " " ((tokens.take last).drop (first - 1)) := by
  obtain ⟨hfirst, horder, hlast⟩ := hfits
  have hwords : Text.words (Text.join " " ((tokens.take last).drop (first - 1))) =
      (tokens.take last).drop (first - 1) :=
    Text.words_join fun w hw => htokens w (List.mem_of_mem_take (List.mem_of_mem_drop hw))
  constructor
  · rintro ⟨htext, hlength, heach⟩
    have hslice : Text.words text = (tokens.take last).drop (first - 1) := by
      refine List.ext_getElem? fun i => ?_
      rw [getElem?_slice hfirst]
      split
      case isTrue hi => exact heach i hi
      case isFalse hi => exact List.getElem?_eq_none (by omega)
    rw [← hslice]
    exact htext
  · rintro rfl
    refine ⟨by rw [hwords], ?_, fun i hi => ?_⟩
    · rw [hwords, List.length_drop, List.length_take]
      omega
    · rw [hwords, getElem?_slice hfirst, if_pos hi]

/-- A segment is found when it fits the tokens, and is then the text that it picks. -/
theorem select_eq_ok (htokens : ∀ w ∈ tokens, Text.IsWord w) :
    segment.select tokens = .ok text ↔
      segment.Fits tokens.length ∧ segment.Picks tokens text := by
  cases segment with
  | token k =>
    rw [select, Fits, Picks]
    by_cases hk : k = 0
    · simp [hk]
    · rw [if_neg hk]
      cases htoken : tokens[k - 1]? with
      | none => simp
      | some t =>
        have hinside : k - 1 < tokens.length := (List.getElem?_eq_some_iff.mp htoken).1
        have hfits : 1 ≤ k ∧ k ≤ tokens.length := by omega
        simp [hfits]
  | range first last =>
    rw [select]
    split
    case isTrue hnone =>
      refine iff_of_false (by rintro ⟨⟩) ?_
      rintro ⟨⟨hfirst, horder, -⟩, -⟩
      omega
    case isFalse hsome =>
      split
      case isTrue hbeyond =>
        refine iff_of_false (by rintro ⟨⟩) ?_
        rintro ⟨⟨-, -, hlast⟩, -⟩
        omega
      case isFalse hinside =>
        have hfits : (range first last).Fits tokens.length := by
          refine ⟨?_, ?_, ?_⟩ <;> omega
        rw [Except.ok.injEq, picks_range htokens hfits, and_iff_right hfits, eq_comm]
  | invalid raw => exact iff_of_false (by rintro ⟨⟩) fun h => h.1

/-- A segment that fits picks one text. -/
theorem existsUnique_picks (htokens : ∀ w ∈ tokens, Text.IsWord w)
    (hfits : segment.Fits tokens.length) :
    ∃ text, segment.Picks tokens text ∧ ∀ text', segment.Picks tokens text' → text' = text := by
  cases segment with
  | token k =>
    obtain ⟨hfirst, hlast⟩ := hfits
    have hinside : k - 1 < tokens.length := by omega
    have htoken : tokens[k - 1]? = some tokens[k - 1] := List.getElem?_eq_getElem hinside
    exact ⟨_, htoken, fun text' h => Option.some.inj (h.symm.trans htoken)⟩
  | range first last =>
    exact ⟨_, (picks_range htokens hfits).mpr rfl, fun text' => (picks_range htokens hfits).mp⟩
  | invalid raw => exact hfits.elim

end Segment

/-! ### Rules -/

theorem Document.lineAt?_eq_some {doc : Document} {index : Int} {line : String} :
    doc.lineAt? index = some line ↔ 0 ≤ index ∧ doc.lines[index.toNat]? = some line := by
  rw [lineAt?]
  split
  case isTrue h =>
    refine iff_of_false nofun fun hline => ?_
    omega
  case isFalse h =>
    have hindex : 0 ≤ index := by omega
    rw [and_iff_right hindex]

namespace Rule

variable {doc : Document} {number index : Int} {segment : Segment} {text line : String}

/-- A text is what a segment picks of the line of a number, counted from one. -/
def Takes (doc : Document) (number : Int) (segment : Segment) (text : String) : Prop :=
  1 ≤ number ∧ number ≤ doc.length ∧ ∃ line, doc.lines[number.toNat - 1]? = some line ∧
    segment.Fits (Text.words line).length ∧ segment.Picks (Text.words line) text

theorem selectAt_eq_ok :
    selectAt doc index segment = .ok text ↔ Takes doc (index + 1) segment text := by
  have hwords : ∀ {line : String}, ∀ w ∈ Text.words line, Text.IsWord w := fun _ hw =>
    Text.isWord_of_mem_words hw
  rw [selectAt]
  constructor
  · intro h
    split at h
    case h_2 => exact nomatch h
    case h_1 line hline =>
      obtain ⟨hindex, hline⟩ := Document.lineAt?_eq_some.mp hline
      have hinside : index.toNat < doc.lines.length := (List.getElem?_eq_some_iff.mp hline).1
      have hplace : (index + 1).toNat - 1 = index.toNat := by omega
      refine ⟨by omega, by rw [Document.length]; omega, line, ?_, ?_⟩
      · rw [hplace]
        exact hline
      · exact (Segment.select_eq_ok hwords).mp h
  · rintro ⟨hfirst, -, line, hline, hpicks⟩
    have hplace : (index + 1).toNat - 1 = index.toNat := by omega
    rw [hplace] at hline
    rw [Document.lineAt?_eq_some.mpr ⟨by omega, hline⟩]
    exact (Segment.select_eq_ok hwords).mpr hpicks

/-- An index inside a document is a word. -/
theorem inWord_of_inside (hdoc : doc.length < twoTo 63) (hindex : 0 ≤ index)
    (hinside : index < doc.length) : inWord index = true := by
  rw [inWord, decide_eq_true_eq]
  constructor <;> omega

/-- A rule for a line takes a segment of it. -/
theorem resolve_line_eq_ok (hdoc : doc.length < twoTo 63) :
    (Rule.line number segment).resolve doc = .ok text ↔ Takes doc number segment text := by
  have hplace : number - 1 + 1 = number := by omega
  rw [resolve]
  split
  case isTrue => rw [selectAt_eq_ok, hplace]
  case isFalse hword =>
    -- a number that is no word when counted from zero is not the number of a line
    refine iff_of_false nofun ?_
    rintro ⟨hfirst, hlast, -⟩
    exact hword (inWord_of_inside hdoc (by omega) (by omega))

/-- A rule with markers takes a segment of the line at its distance from the first line that holds
one of them. -/
theorem resolve_anchored_eq_ok (hdoc : doc.length < twoTo 63) {markers : List String}
    {offset : Int} :
    (Rule.anchored markers offset segment).resolve doc = .ok text ↔
      ∃ anchor : Nat, doc.findAnchor? markers = some anchor ∧
        Takes doc (anchor + offset + 1) segment text := by
  rw [resolve]
  cases hanchor : doc.findAnchor? markers with
  | none => simp
  | some anchor =>
    simp only [Option.some.injEq, exists_eq_left']
    split
    case isTrue => exact selectAt_eq_ok
    case isFalse hword =>
      refine iff_of_false nofun ?_
      rintro ⟨hfirst, hlast, -⟩
      exact hword (inWord_of_inside hdoc (by omega) (by omega))

/-- A rule has a text for a document, or a reason why it has none. -/
theorem evaluate?_cases (rule : Rule) (doc : Document) :
    (∃ text, rule.resolve doc = .ok text ∧ rule.evaluate? doc = some text) ∨
      ∃ fault, rule.resolve doc = .error fault ∧ rule.evaluate? doc = none := by
  rw [evaluate?]
  cases rule.resolve doc with
  | ok text => exact .inl ⟨text, rfl, rfl⟩
  | error fault => exact .inr ⟨fault, rfl, rfl⟩

/-! ### The main statement -/

/-- **Evaluation is exact.** In a document whose lines can be counted in a word, a rule for a line
answers exactly when the line is there and the segment fits its tokens, whatever the integer; a
rule with markers does so exactly when the line at its distance from the marker is there, and then
with the text of the rule for that line. A segment that fits picks one text, and a rule that has
no answer has a reason. -/
theorem resolves_exactly (hdoc : doc.length < twoTo 63) (segment : Segment) :
    (∀ number text, (Rule.line number segment).resolve doc = .ok text ↔
      1 ≤ number ∧ number ≤ doc.length ∧ ∃ line, doc.lines[number.toNat - 1]? = some line ∧
        segment.Fits (Text.words line).length ∧ segment.Picks (Text.words line) text) ∧
    (∀ markers offset text, (Rule.anchored markers offset segment).resolve doc = .ok text ↔
      ∃ anchor : Nat, doc.findAnchor? markers = some anchor ∧ 0 ≤ anchor + offset ∧
        anchor + offset < doc.length ∧
          (Rule.line (anchor + offset + 1) segment).resolve doc = .ok text) ∧
    (∀ line, segment.Fits (Text.words line).length → ∃ text,
      segment.Picks (Text.words line) text ∧
        ∀ text', segment.Picks (Text.words line) text' → text' = text) ∧
    (∀ rule : Rule,
      (∃ text, rule.resolve doc = .ok text ∧ rule.evaluate? doc = some text) ∨
        ∃ fault, rule.resolve doc = .error fault ∧ rule.evaluate? doc = none) := by
  refine ⟨fun number text => resolve_line_eq_ok hdoc, fun markers offset text => ?_,
    fun line => Segment.existsUnique_picks fun w => Text.isWord_of_mem_words,
    fun rule => evaluate?_cases rule doc⟩
  rw [resolve_anchored_eq_ok hdoc]
  refine exists_congr fun anchor => and_congr_right fun _ => ?_
  rw [resolve_line_eq_ok hdoc]
  constructor
  · intro h
    have hfirst : 1 ≤ (anchor : Int) + offset + 1 := h.1
    have hlast : (anchor : Int) + offset + 1 ≤ doc.length := h.2.1
    exact ⟨by omega, by omega, h⟩
  · rintro ⟨-, -, h⟩
    exact h

/-- A document with a date below its caption. -/
private def captionedDate : Document := ⟨["Fecha factura", " 01/02/2024  pagado hoy"]⟩

/-- A rule takes two tokens below a caption, and rules at the ends of a word take nothing. -/
theorem resolves_exactly_below_caption : captionedDate.length < twoTo 63 ∧
    (Rule.anchored ["vence", "FECHA"] 1 (.range 1 2)).resolve captionedDate =
      .ok "01/02/2024 pagado" ∧
    (∀ text, (Rule.line (-9223372036854775808) (.range 1 2)).resolve captionedDate ≠ .ok text) ∧
    ∀ text, (Rule.anchored ["fecha"] 9223372036854775807 (.range 1 2)).resolve captionedDate ≠
      .ok text := by
  have hdoc : captionedDate.length < twoTo 63 := by decide
  obtain ⟨hline, hanchored, -, -⟩ := resolves_exactly hdoc (.range 1 2)
  refine ⟨hdoc, ?_, fun text h => ?_, fun text h => ?_⟩
  · have hbelow : (Rule.line 2 (.range 1 2)).resolve captionedDate = .ok "01/02/2024 pagado" :=
      (hline _ _).mpr ⟨by decide, by decide, _, rfl, by decide +kernel, by decide +kernel⟩
    exact (hanchored _ _ _).mpr ⟨0, by decide +kernel, by decide, by decide, hbelow⟩
  · have hfirst := ((hline _ _).mp h).1
    exact absurd hfirst (by decide)
  · obtain ⟨anchor, -, -, hlast, -⟩ := (hanchored _ _ _).mp h
    have htwo : captionedDate.length = 2 := rfl
    omega

end Rule

end InvoiceFields
