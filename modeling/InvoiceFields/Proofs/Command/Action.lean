import InvoiceFields.Command.Action
import InvoiceFields.Proofs.Files.Store

/-!
# Actions on sessions

What an action gives on a session, and the session that it leaves, follow from its steps
(`perform_bind_of_ok`, `perform_bind_of_error`, `perform_bind_eq`).
-/

namespace InvoiceFields

/-- The same reason with its message changed, should it have one. -/
def Stop.reword (wording : String → String) : Stop → Stop
  | failed message => failed (wording message)
  | brokeDown cause => brokeDown cause

namespace Action

variable {α β ε : Type} {s s' : Session} {a : Action (StateM Session) α}
  {f : α → Action (StateM Session) β}

/-- What an action gives on a session, with the session that it leaves. -/
def perform (a : Action (StateM Session) α) (s : Session) : Except Stop α × Session := a.run s

/-! ### Steps -/

@[simp]
theorem perform_pure (x : α) : perform (pure x) s = (.ok x, s) := rfl

theorem perform_bind_of_ok {x : α} (h : a.perform s = (.ok x, s')) :
    (a >>= f).perform s = (f x).perform s' := by
  have hrun : (a >>= f).perform s = (ExceptT.bindCont f (a.perform s).1) (a.perform s).2 := rfl
  rw [hrun, h]
  rfl

theorem perform_bind_of_error {stop : Stop} (h : a.perform s = (.error stop, s')) :
    (a >>= f).perform s = (.error stop, s') := by
  have hrun : (a >>= f).perform s = (ExceptT.bindCont f (a.perform s).1) (a.perform s).2 := rfl
  rw [hrun, h]
  rfl

/-- Either both actions are performed, or the first one stops. -/
theorem perform_bind_eq {answer : Except Stop β} (h : (a >>= f).perform s = (answer, s')) :
    (∃ x mid, a.perform s = (.ok x, mid) ∧ (f x).perform mid = (answer, s')) ∨
      ∃ stop, a.perform s = (.error stop, s') ∧ answer = .error stop := by
  rcases hfirst : a.perform s with ⟨stop | x, mid⟩
  · rw [perform_bind_of_error hfirst] at h
    cases h
    exact .inr ⟨stop, rfl, rfl⟩
  · rw [perform_bind_of_ok hfirst] at h
    exact .inl ⟨x, mid, rfl, h⟩

/-- Two actions leave the session as it is if each of them does. -/
theorem perform_bind_snd (ha : (a.perform s).2 = s) (hf : ∀ x, ((f x).perform s).2 = s) :
    ((a >>= f).perform s).2 = s := by
  rcases hfirst : a.perform s with ⟨stop | x, mid⟩
  · rw [perform_bind_of_error hfirst, ← ha, hfirst]
  · obtain rfl : mid = s := by rw [← ha, hfirst]
    rw [perform_bind_of_ok hfirst]
    exact hf x

/-- A computation that cannot stop. -/
@[simp]
theorem perform_liftM (x : StateM Session α) :
    perform (liftM x) s = (.ok (x s).1, (x s).2) := rfl

@[simp]
theorem perform_expect_ok (message : ε → String) (x : α) :
    perform (expect message (.ok x)) s = (.ok x, s) := rfl

@[simp]
theorem perform_expect_error (message : ε → String) (e : ε) :
    perform (expect message (.error e) : Action (StateM Session) α) s =
      (.error (.failed (message e)), s) := rfl

/-- A change of the wording changes nothing but the message. -/
theorem perform_reword (wording : String → String) : perform (a.reword wording) s =
    ((perform a s).1.mapError (Stop.reword wording), (perform a s).2) := rfl

/-! ### Lists -/

private theorem perform_filterAuxM {p : α → Action (StateM Session) Bool} {q : α → Bool}
    (h : ∀ x, perform (p x) s = (.ok (q x), s)) : ∀ xs kept : List α,
      perform (xs.filterAuxM p kept) s = (.ok ((xs.filter q).reverse ++ kept), s)
  | [], _ => rfl
  | x :: xs, kept => by
    rw [List.filterAuxM, perform_bind_of_ok (h x), perform_filterAuxM h xs, List.filter_cons]
    cases q x <;> simp

/-- A filter whose test leaves the session as it is. -/
theorem perform_filterM {p : α → Action (StateM Session) Bool} {q : α → Bool}
    (h : ∀ x, perform (p x) s = (.ok (q x), s)) (xs : List α) :
    perform (xs.filterM p) s = (.ok (xs.filter q), s) := by
  rw [List.filterM, perform_bind_of_ok (perform_filterAuxM h xs [])]
  simp

/-! ### Files and outputs -/

/-- The clock of a session stands still. -/
theorem perform_clock_bind {f : Nat → Action (StateM Session) β} :
    perform (do f (← (Host.clock : StateM Session Nat))) s = perform (f 0) s := rfl

@[simp]
theorem perform_noteLine (line : String) :
    perform (noteLine line) s = (.ok (), { s with err := s.err ++ (line ++ "\n") }) := rfl

/-- A computation whose fault is told to the user. -/
theorem perform_expect_liftM (message : ε → String) (x : StateM Session (Except ε α)) :
    perform (do expect message (← liftM x)) s =
      ((x s).1.mapError fun e => .failed (message e), (x s).2) := by
  rw [perform_bind_of_ok (perform_liftM x)]
  cases (x s).1 <;> rfl

theorem session_bind (x : StateM Session α) (f : α → StateM Session β) :
    (x >>= f) s = f (x s).1 (x s).2 := rfl

/-- The text of a file is read, and the session stays. -/
theorem readText_session (path : String) : (Host.readText path : StateM Session _) s =
    (s.store.text path, s) := by
  have hread : (Host.read path : StateM Session _) s = (s.store.read path, s) := rfl
  rw [Host.readText, session_bind, hread, FileStore.text]
  dsimp only
  cases s.store.read path with
  | error e => rfl
  | ok bytes =>
    dsimp only [bind, Except.bind]
    cases String.fromUTF8? bytes <;> rfl

/-- What the text of a file stands for. -/
theorem perform_readText_expect {decode : String → Except ε α} (path : String)
    (unreadable : FileFault → String) (invalid : ε → String) :
    perform (do
      let text ← expect unreadable (← (Host.readText path : StateM Session _))
      expect invalid (decode text)) s =
      (match s.store.text path with
      | .error e => .error (.failed (unreadable e))
      | .ok text => (decode text).mapError fun e => .failed (invalid e), s) := by
  rw [perform_bind_of_ok (perform_liftM _), readText_session]
  cases s.store.text path with
  | error e => exact perform_bind_of_error (perform_expect_error _ e)
  | ok text =>
    rw [perform_bind_of_ok (perform_expect_ok _ text)]
    dsimp only
    cases decode text <;> rfl

/-- A file that cannot be written leaves the session as it is. -/
theorem perform_writeFile (path content : String) : perform (writeFile path content) s =
    match s.store.write path content with
    | .ok store => (.ok (), { s with store := store })
    | .error e => (.error (.failed e.message), s) := by
  rw [writeFile, perform_expect_liftM]
  show (Except.mapError _ (Session.change _ s).1, (Session.change _ s).2) = _
  rw [Session.change]
  cases s.store.write path content <;> rfl

/-! ### Notes -/

/-- The action does nothing but write to the error output. -/
def Notes (a : Action (StateM Session) Unit) : Prop :=
  ∀ s, ∃ text, perform a s = (.ok (), { s with err := s.err ++ text })

theorem Notes.noteLine (line : String) : Notes (noteLine line) := fun _ => ⟨line ++ "\n", rfl⟩

theorem Notes.pure : Notes (pure ()) :=
  fun s => ⟨"", by rw [perform_pure, String.append_empty]⟩

theorem Notes.bind {a b : Action (StateM Session) Unit} (ha : Notes a) (hb : Notes b) :
    Notes (do a; b) := by
  intro s
  obtain ⟨text, htext⟩ := ha s
  obtain ⟨text', htext'⟩ := hb { s with err := s.err ++ text }
  refine ⟨text ++ text', ?_⟩
  rw [perform_bind_of_ok htext, htext', String.append_assoc]

theorem Notes.forM {f : α → Action (StateM Session) Unit} (h : ∀ x, Notes (f x)) :
    ∀ xs : List α, Notes (xs.forM f)
  | [] => .pure
  | x :: xs => .bind (h x) (.forM h xs)

end Action

end InvoiceFields
