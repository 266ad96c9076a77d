/-!
# Answers of computations in steps

A computation that may fail has an answer exactly when its steps have one, and it fails with the
fault of the first step that fails. Every definition of this library that can break down is such
a computation, so these laws are what opens it.
-/

namespace InvoiceFields

variable {ε α β : Type} {step : Except ε α} {next : α → Except ε β} {wrap : α → β}

/-- Two steps answer when both do. -/
theorem bind_eq_ok {b : β} :
    (step >>= next) = .ok b ↔ ∃ a, step = .ok a ∧ next a = .ok b := by
  cases step <;> simp [bind, Except.bind]

/-- Two steps fail with the fault of the first, or with that of the second behind the answer of
the first. -/
theorem bind_eq_error {fault : ε} :
    (step >>= next) = .error fault ↔
      step = .error fault ∨ ∃ a, step = .ok a ∧ next a = .error fault := by
  cases step <;> simp [bind, Except.bind]

/-- The last step of a computation only wraps its answer. -/
theorem pure_eq_ok {a b : α} : (pure a : Except ε α) = .ok b ↔ a = b := by
  simp [pure, Except.pure]

/-- Wrapping an answer does not fail. -/
theorem pure_ne_error {a : α} {fault : ε} : (pure a : Except ε α) ≠ .error fault := by
  simp [pure, Except.pure]

theorem map_eq_ok {b : β} : step.map wrap = .ok b ↔ ∃ a, step = .ok a ∧ wrap a = b := by
  cases step <;> simp [Except.map]

theorem map_eq_error {fault : ε} : step.map wrap = .error fault ↔ step = .error fault := by
  cases step <;> simp [Except.map]

theorem mapError_eq_ok {ε' : Type} {reword : ε → ε'} {a : α} :
    step.mapError reword = .ok a ↔ step = .ok a := by
  cases step with
  | error fault => constructor <;> rintro ⟨⟩
  | ok b =>
    show Except.ok b = Except.ok a ↔ Except.ok b = Except.ok a
    rw [Except.ok.injEq, Except.ok.injEq]

theorem eq_ok_of_toOption {a : α} (h : step.toOption = some a) : step = .ok a := by
  cases step with
  | error fault => exact nomatch h
  | ok b => exact congrArg Except.ok (Option.some.inj h)

theorem exists_eq_error_of_toOption (h : step.toOption = none) : ∃ fault, step = .error fault := by
  cases step with
  | error fault => exact ⟨fault, rfl⟩
  | ok a => exact nomatch h

/-- A computation whose answer passes a test has an answer. -/
theorem exists_eq_ok_of_any {test : α → Bool} (h : step.toOption.any test = true) :
    ∃ a, step = .ok a ∧ test a = true := by
  cases step with
  | error fault => exact absurd h Bool.false_ne_true
  | ok a => exact ⟨a, rfl, h⟩

/-- A computation that never fails has an answer. -/
theorem exists_eq_ok (h : ∀ fault, step ≠ .error fault) : ∃ a, step = .ok a := by
  cases step with
  | error fault => exact absurd rfl (h fault)
  | ok a => exact ⟨a, rfl⟩

/-- Going through a list fails at the first member at which a step does. -/
theorem foldlM_eq_error {σ : Type} {step : σ → α → Except ε σ} {xs : List α} {s : σ} {fault : ε} :
    xs.foldlM step s = .error fault ↔ ∃ before x after s', xs = before ++ x :: after ∧
      before.foldlM step s = .ok s' ∧ step s' x = .error fault := by
  induction xs generalizing s with
  | nil =>
    refine iff_of_false (nofun) ?_
    rintro ⟨before, x, after, s', h, -⟩
    exact List.cons_ne_nil _ _ (List.append_eq_nil_iff.mp h.symm).2
  | cons y ys ih =>
    rw [List.foldlM_cons, bind_eq_error]
    constructor
    · rintro (hy | ⟨s₁, hy, h⟩)
      · exact ⟨[], y, ys, s, rfl, rfl, hy⟩
      · obtain ⟨before, x, after, s', rfl, hbefore, hx⟩ := ih.mp h
        refine ⟨y :: before, x, after, s', rfl, ?_, hx⟩
        rw [List.foldlM_cons]
        exact bind_eq_ok.mpr ⟨s₁, hy, hbefore⟩
    · rintro ⟨before, x, after, s', hsplit, hbefore, hx⟩
      rcases List.cons_eq_append_iff.mp hsplit with ⟨rfl, h⟩ | ⟨before, rfl, rfl⟩
      · obtain ⟨rfl, rfl⟩ := List.cons_eq_cons.mp h
        cases hbefore
        exact .inl hx
      · rw [List.foldlM_cons] at hbefore
        obtain ⟨s₁, hy, hbefore⟩ := bind_eq_ok.mp hbefore
        exact .inr ⟨s₁, hy, ih.mpr ⟨before, x, after, s', rfl, hbefore, hx⟩⟩

/-- Where it depends on a member alone whether its step answers, going through a list answers when
all members pass. -/
theorem exists_foldlM_eq_ok {σ : Type} {step : σ → α → Except ε σ} {Passes : α → Prop}
    (hstep : ∀ s x, (∃ s', step s x = .ok s') ↔ Passes x) {xs : List α} {s : σ} :
    (∃ s', xs.foldlM step s = .ok s') ↔ ∀ x ∈ xs, Passes x := by
  induction xs generalizing s with
  | nil => exact iff_of_true ⟨s, rfl⟩ (nofun)
  | cons x xs ih =>
    rw [List.forall_mem_cons, ← hstep s x, List.foldlM_cons]
    constructor
    · rintro ⟨s', h⟩
      obtain ⟨s₁, hx, hxs⟩ := bind_eq_ok.mp h
      exact ⟨⟨s₁, hx⟩, ih.mp ⟨s', hxs⟩⟩
    · rintro ⟨⟨s₁, hx⟩, hxs⟩
      obtain ⟨s', h⟩ := ih.mpr hxs
      exact ⟨s', bind_eq_ok.mpr ⟨s₁, hx, h⟩⟩

end InvoiceFields
