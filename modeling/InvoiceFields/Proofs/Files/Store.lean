import InvoiceFields.Files.Store
import InvoiceFields.Proofs.Answer

/-!
# Changes of file stores

A file that is written is read again, and the other files stay as they are (`content?_write_self`,
`content?_write_ne`). Making directories changes no file (`content?_makeDirectory`).
-/

namespace InvoiceFields.FileStore

variable {s s' : FileStore} {path path' content : String} {place place' : List String}

/-! ### Contents -/

/-- The content of the file that a path leads to, if there is one. -/
def content? (s : FileStore) (path : String) : Option ByteArray := (s.read path).toOption

theorem content?_of_place?_eq_none (h : s.place? path = none) : s.content? path = none := by
  rw [content?, read, h]
  rfl

theorem content?_of_place? (h : s.place? path = some place) :
    s.content? path = if s.kindAt? place = some .directory ∨ asksDirectory path then none
      else s.files.lookup place := by
  rw [content?, read, h]
  dsimp only
  cases hlookup : s.files.lookup place with
  | none =>
    cases s.kindAt? place with
    | none => simp [Except.toOption]
    | some kind => cases kind <;> simp [Except.toOption]
  | some bytes =>
    cases s.kindAt? place with
    | none => by_cases hslash : asksDirectory path <;> simp [hslash, Except.toOption]
    | some kind =>
      cases kind <;> by_cases hslash : asksDirectory path <;> simp [hslash, Except.toOption]

theorem read_eq_ok {bytes : ByteArray} :
    s.read path = .ok bytes ↔ s.content? path = some bytes := by
  rw [content?]
  cases s.read path <;> simp [Except.toOption]

theorem lookup_eq_none_of_kindAt? (h : s.kindAt? place = none) : s.files.lookup place = none := by
  unfold kindAt? at h
  split at h
  · exact nomatch h
  · split at h
    · exact nomatch h
    · rename_i hfile
      exact Option.not_isSome_iff_eq_none.mp hfile

/-- A file has a content. -/
theorem exists_content? (h : s.kind? path = some .file) :
    ∃ bytes, s.content? path = some bytes := by
  cases hplace : s.place? path with
  | none =>
    rw [kind?, hplace] at h
    exact nomatch h
  | some place =>
    rw [kind?, hplace, Option.bind_some] at h
    rw [content?_of_place? hplace]
    have hfile : s.kindAt? place = some .file ∧ ¬ asksDirectory path := by
      revert h
      cases s.kindAt? place with
      | none => exact nofun
      | some kind => cases kind <;> simp
    rw [if_neg (by simp [hfile])]
    cases hlookup : s.files.lookup place with
    | some bytes => exact ⟨bytes, rfl⟩
    | none => simp [kindAt?, hlookup] at hfile

/-- The content of the file that a path leads to as a text. -/
def text (s : FileStore) (path : String) : Except FileFault String := do
  match String.fromUTF8? (← s.read path) with
  | some text => .ok text
  | none => .error .notText

/-- A file has a text if its bytes have. -/
theorem text_eq_ok {text : String} : s.text path = .ok text ↔
    ∃ bytes, s.content? path = some bytes ∧ String.fromUTF8? bytes = some text := by
  simp only [FileStore.text, bind_eq_ok, read_eq_ok]
  refine exists_congr fun bytes => and_congr_right fun _ => ?_
  cases String.fromUTF8? bytes <;> simp

/-- The bytes of a text are read as this text. -/
theorem text_of_content? {text : String} (h : s.content? path = some text.toUTF8) :
    s.text path = .ok text := by
  refine text_eq_ok.mpr ⟨_, h, ?_⟩
  unfold String.fromUTF8?
  rw [String.toUTF8_eq_toByteArray, dif_pos text.isValidUTF8]
  rfl

/-! ### Files -/

theorem lookup_putFile_self {bytes : ByteArray} :
    ∀ files : List (List String × ByteArray), (putFile place bytes files).lookup place = some bytes
  | [] => by simp [putFile]
  | (p, b) :: rest => by
    rw [putFile]
    split
    · rename_i hp
      simp [hp]
    · rename_i hp
      rw [List.lookup_cons, beq_false_of_ne (Ne.symm hp)]
      exact lookup_putFile_self rest

theorem lookup_putFile_ne {bytes : ByteArray} (h : place' ≠ place) :
    ∀ files : List (List String × ByteArray),
      (putFile place bytes files).lookup place' = files.lookup place'
  | [] => by simp [putFile, h]
  | (p, b) :: rest => by
    rw [putFile]
    split
    · rename_i hp
      subst hp
      rw [List.lookup_cons, List.lookup_cons, beq_false_of_ne h]
    · rw [List.lookup_cons, List.lookup_cons, lookup_putFile_ne h rest]

theorem kindAt?_putFile_eq_directory {bytes : ByteArray} :
    kindAt? { s with files := putFile place bytes s.files } place' = some .directory ↔
      s.kindAt? place' = some .directory := by
  unfold kindAt?
  dsimp only
  split
  · exact Iff.rfl
  · constructor <;> intro h <;> split at h <;> exact nomatch h

/-- What a successful change of a file does. -/
theorem write_eq_ok (h : s.write path content = .ok s') : ∃ place, s.place? path = some place ∧
    ¬(s.kindAt? place = some .directory ∨ asksDirectory path) ∧
    s' = { s with files := putFile place content.toUTF8 s.files } := by
  unfold write at h
  split at h
  · exact nomatch h
  · rename_i place hplace
    split at h
    · exact nomatch h
    · rename_i hfile
      split at h
      · exact ⟨place, hplace, hfile, (Except.ok.inj h).symm⟩
      · exact nomatch h

/-- A file can be written where its directory is there and no directory stands in its place. -/
theorem exists_write_eq_ok (hplace : s.place? path = some place)
    (hfile : ¬(s.kindAt? place = some .directory ∨ asksDirectory path))
    (habove : s.kindAt? place.dropLast = some .directory) :
    ∃ s', s.write path content = .ok s' := by
  rw [write, hplace]
  dsimp only
  rw [if_neg hfile, if_pos habove]
  exact ⟨_, rfl⟩

/-- A file that is written is read again. -/
theorem content?_write_self (h : s.write path content = .ok s') :
    s'.content? path = some content.toUTF8 := by
  obtain ⟨place, hplace, hfile, rfl⟩ := write_eq_ok h
  have hplace' : place? { s with files := putFile place content.toUTF8 s.files } path =
      some place := hplace
  rw [content?_of_place? hplace']
  simp only [kindAt?_putFile_eq_directory, if_neg hfile]
  exact lookup_putFile_self s.files

/-- A file that is written changes no other file. -/
theorem content?_write_ne (h : s.write path content = .ok s')
    (hne : s.place? path' ≠ s.place? path) : s'.content? path' = s.content? path' := by
  obtain ⟨place, hplace, -, rfl⟩ := write_eq_ok h
  cases hplace' : s.place? path' with
  | none =>
    rw [content?_of_place?_eq_none hplace']
    exact content?_of_place?_eq_none hplace'
  | some place' =>
    have hwritten : place? { s with files := putFile place content.toUTF8 s.files } path' =
      some place' := hplace'
    have hplaces : place' ≠ place := by
      rintro rfl
      exact hne (hplace'.trans hplace.symm)
    rw [content?_of_place? hwritten, content?_of_place? hplace']
    simp only [kindAt?_putFile_eq_directory, lookup_putFile_ne hplaces]

/-! ### Directories -/

/-- A directory that is made where nothing is changes no file. -/
theorem content?_addDirectory (h : s.kindAt? place = none) :
    content? { s with directories := s.directories ++ [place] } path = s.content? path := by
  cases hplace : s.place? path with
  | none =>
    rw [content?_of_place?_eq_none hplace]
    exact content?_of_place?_eq_none hplace
  | some place' =>
    have hmade : place? { s with directories := s.directories ++ [place] } path = some place' :=
      hplace
    rw [content?_of_place? hmade, content?_of_place? hplace]
    by_cases heq : place' = place
    · subst heq
      rw [lookup_eq_none_of_kindAt? h, ite_self, ite_self]
    · have hkind : kindAt? { s with directories := s.directories ++ [place] } place' =
          s.kindAt? place' := by
        simp [kindAt?, heq]
      rw [hkind]

theorem content?_makeAll : ∀ {places : List (List String)} {s : FileStore},
    makeAll places s = .ok s' → s'.content? path = s.content? path
  | [], s, h => by
    cases h
    rfl
  | place :: rest, s, h => by
    unfold makeAll at h
    split at h
    · exact content?_makeAll h
    · exact nomatch h
    · rename_i hkind
      exact (content?_makeAll h).trans (content?_addDirectory hkind)

/-- Making directories changes no file. -/
theorem content?_makeDirectory (h : s.makeDirectory path' = .ok s') :
    s'.content? path = s.content? path := by
  unfold makeDirectory at h
  split at h
  · cases h
    rfl
  · split at h
    · exact nomatch h
    · exact content?_makeAll h

end InvoiceFields.FileStore
