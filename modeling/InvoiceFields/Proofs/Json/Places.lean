import InvoiceFields.Proofs.Json.KeyPath
import InvoiceFields.Proofs.Text.Words

/-!
# Places of dotted keys

`Reaches` says which value names lead to, one step after the other: a name leads to a member of an
object, and to the element of an array whose index it is. The value at a place is the one that the
names of the place reach (`get?_eq_some_iff`).

A name is read from a pointer as it was written (`unescapeName_escapeName`): the slashes are put
back before the tildes, so that a tilde in front of the digit one does not become a slash. So the
pointer of a dotted key leads where the names of the key do (`atPointer?_keyPointer` and
`putAtPointer?_keyPointer`), and these are the texts between its dots (`join_keyNames`).
-/

namespace InvoiceFields.Json

open Text (replaceChar replacePair splitWhere)

variable {j v child : Json} {name : String} {names : List String}

/-! ### What names lead to -/

/-- A name leads to the first member of that name in an object, and the numeral of an index, which
has no zeros in front, to the element at that index in an array. An index has 64 bits. -/
inductive Leads : Json → String → Json → Prop where
  | member {before after : List (String × Json)} {name : String} {child : Json}
      (first : name ∉ before.map (·.1)) :
      Leads (.object (before ++ (name, child) :: after)) name child
  | element {elements : List Json} {i : Nat} {child : Json} (bound : i < twoTo 64)
      (found : elements[i]? = some child) : Leads (.array elements) (Nat.repr i) child

/-- Names lead from a value to another one, each of them a step further. -/
inductive Reaches : Json → List String → Json → Prop where
  | here {j : Json} : Reaches j [] j
  | step {j child v : Json} {name : String} {names : List String} (leads : Leads j name child)
      (reaches : Reaches child names v) : Reaches j (name :: names) v

theorem child?_eq_some_iff : j.child? name = some child ↔ j.Leads name child := by
  constructor
  · intro h
    cases j with
    | object members =>
      obtain ⟨before, after, rfl, hbefore⟩ := List.lookup_eq_some_iff.mp h
      refine .member fun hmem => ?_
      obtain ⟨m, hm, hname⟩ := List.mem_map.mp hmem
      exact bne_iff_ne.mp (hbefore m hm) hname.symm
    | array elements =>
      obtain ⟨i, hi, hfound⟩ := Option.bind_eq_some_iff.mp h
      obtain ⟨rfl, hbound⟩ := index?_eq_some_iff.mp hi
      exact .element hbound hfound
    | _ => exact nomatch h
  · rintro (hfirst | ⟨hbound, hfound⟩)
    · exact child?_object_append hfirst
    · rw [child?, index?_eq_some_iff.mpr ⟨rfl, hbound⟩]
      exact hfound

/-- The value at a place is the one that the names of the place reach. -/
theorem get?_eq_some_iff : j.get? names = some v ↔ j.Reaches names v := by
  constructor
  · intro h
    induction names generalizing j with
    | nil =>
      obtain rfl := Option.some.inj h
      exact .here
    | cons name names ih =>
      obtain ⟨child, hchild, hget⟩ := Option.bind_eq_some_iff.mp h
      exact .step (child?_eq_some_iff.mp hchild) (ih hget)
  · intro h
    induction h with
    | here => rfl
    | step leads _ ih => rw [get?, child?_eq_some_iff.mpr leads, Option.bind_some, ih]

/-- The same values are reached at a place, if the same is there. -/
theorem reaches_congr {j' : Json} (h : j.get? names = j'.get? names) :
    j.Reaches names v ↔ j'.Reaches names v := by
  rw [← get?_eq_some_iff, ← get?_eq_some_iff, h]

/-! ### Names in pointers -/

private theorem escapeName_tilde (cs : List Char) :
    escapeName ('~' :: cs) = '~' :: '0' :: escapeName cs := rfl

private theorem escapeName_slash (cs : List Char) :
    escapeName ('/' :: cs) = '~' :: '1' :: escapeName cs := rfl

private theorem escapeName_cons {c : Char} (htilde : c ≠ '~') (hslash : c ≠ '/') (cs : List Char) :
    escapeName (c :: cs) = c :: escapeName cs := by
  rw [escapeName, Text.replaceChar_cons_of_ne htilde, Text.replaceChar_cons_of_ne hslash,
    escapeName]

/-- When the slashes are put back, the tildes are still as they were written. -/
private theorem replacePair_escapeName (cs : List Char) :
    replacePair '~' '1' '/' (escapeName cs) = replaceChar '~' ['~', '0'] cs := by
  induction cs with
  | nil => rfl
  | cons c cs ih =>
    by_cases htilde : c = '~'
    · have hkept : replacePair '~' '1' '/' ('~' :: '0' :: escapeName cs) =
          '~' :: replacePair '~' '1' '/' ('0' :: escapeName cs) := rfl
      rw [htilde, escapeName_tilde, hkept, Text.replacePair_cons_of_ne (by decide), ih,
        Text.replaceChar_cons_self]
      rfl
    · rw [Text.replaceChar_cons_of_ne htilde]
      by_cases hslash : c = '/'
      · rw [hslash, escapeName_slash, Text.replacePair_cons_cons, ih]
      · rw [escapeName_cons htilde hslash, Text.replacePair_cons_of_ne htilde, ih]

theorem unescapeName_escapeName (cs : List Char) : unescapeName (escapeName cs) = cs := by
  rw [unescapeName, replacePair_escapeName, Text.replacePair_replaceChar]

theorem slash_not_mem_escapeName (cs : List Char) : '/' ∉ escapeName cs :=
  Text.not_mem_replaceChar (by decide) _

/-! ### Names of keys -/

theorem keyNames_ne_nil (key : String) : keyNames key ≠ [] := by
  rw [keyNames, ne_eq, List.map_eq_nil_iff]
  exact Text.splitWhere_ne_nil

theorem dot_not_mem_of_mem_keyNames {key name : String} (h : name ∈ keyNames key) :
    '.' ∉ name.toList := by
  obtain ⟨piece, hpiece, rfl⟩ := List.mem_map.mp h
  rw [String.toList_ofList]
  exact fun hdot => Bool.false_ne_true (Text.not_of_mem_splitWhere hpiece _ hdot).symm

theorem join_keyNames (key : String) : Text.join "." (keyNames key) = key := by
  refine String.toList_inj.mp ?_
  have hnames : (keyNames key).map String.toList = key.toList.splitOn '.' := by
    rw [keyNames, List.map_map, Text.splitWhere_eq_splitOnP, List.splitOn_eq_splitOnP]
    exact (List.map_congr_left fun _ _ => String.toList_ofList).trans (List.map_id _)
  rw [Text.join, String.toList_intercalate, hnames]
  exact List.intercalate_splitOn '.'

/-! ### Pointers of keys -/

/-- The pointer of a dotted key holds the names of the key. -/
theorem pointerNames?_keyPointer (key : String) :
    pointerNames? (keyPointer key) = some (keyNames key) := by
  obtain ⟨name, names, hnames⟩ := List.exists_cons_of_ne_nil (keyNames_ne_nil key)
  let written (name : String) : List Char := escapeName name.toList
  have hchars : (keyPointer key).toList =
      '/' :: (written name ++ (names.map written).flatMap ('/' :: ·)) := by
    rw [keyPointer, String.toList_ofList, hnames, List.flatMap_cons, List.flatMap_map]
    rfl
  have hcut : splitWhere (· == '/') (written name ++ (names.map written).flatMap ('/' :: ·)) =
      (name :: names).map written := by
    refine Text.splitWhere_flatMap rfl fun cs hcs d hd => beq_false_of_ne ?_
    rw [← List.map_cons] at hcs
    obtain ⟨other, -, rfl⟩ := List.mem_map.mp hcs
    exact ne_of_mem_of_not_mem hd (slash_not_mem_escapeName _)
  have hread : ∀ name, String.ofList (unescapeName (written name)) = name := fun name => by
    rw [unescapeName_escapeName, String.ofList_toList]
  simp only [pointerNames?, hchars, hcut, hnames, List.map_map]
  exact congrArg some ((List.map_congr_left fun name _ => hread name).trans (List.map_id _))

theorem atPointer?_keyPointer (j : Json) (key : String) :
    j.atPointer? (keyPointer key) = j.get? (keyNames key) := by
  rw [atPointer?, pointerNames?_keyPointer, Option.bind_some]

theorem putAtPointer?_keyPointer (j value : Json) (key : String) :
    j.putAtPointer? value (keyPointer key) = j.put? value (keyNames key) := by
  rw [putAtPointer?, pointerNames?_keyPointer, Option.bind_some]

end InvoiceFields.Json
