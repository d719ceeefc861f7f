import OpcodeTable.Traced

/-!
# Proofs/Traced — traced computations in sequence

A fault ends a sequence of computations, so what stands behind it is never reached: a fold that
fails has one first step that fails, and neither its outcome nor its trace depends on the items
behind that step (`foldlM_append_of_error`).
-/

namespace OpcodeTable.Traced

variable {α β σ : Type}

/-! ## Laws of sequencing -/

theorem ok_bind (notices : List Notice) (printed : String) (value : α) (next : α → Traced β) :
    (⟨notices, printed, .ok value⟩ : Traced α) >>= next
      = ⟨notices ++ (next value).notices, printed ++ (next value).printed,
        (next value).outcome⟩ := rfl

theorem error_bind (notices : List Notice) (printed : String) (fault : Fault)
    (next : α → Traced β) :
    (⟨notices, printed, .error fault⟩ : Traced α) >>= next = ⟨notices, printed, .error fault⟩ := rfl

theorem pure_bind_eq (value : α) (next : α → Traced β) :
    (pure value : Traced α) >>= next = next value := by
  change (⟨[], "", .ok value⟩ : Traced α) >>= next = next value
  rw [ok_bind, List.nil_append, String.empty_append]

theorem bind_pure_eq (first : Traced α) : first >>= pure = first := by
  obtain ⟨notices, printed, outcome⟩ := first
  cases outcome with
  | error fault => rfl
  | ok value => simp [ok_bind]

/-- Traces are joined in order, so the bracketing of a sequence does not matter. -/
theorem bind_assoc_eq (first : Traced α) (second : α → Traced β) (third : β → Traced σ) :
    first >>= second >>= third = first >>= fun value => second value >>= third := by
  obtain ⟨notices, printed, outcome⟩ := first
  cases outcome with
  | error fault => rfl
  | ok value =>
    rw [ok_bind, ok_bind]
    cases h : (second value).outcome with
    | error fault => rw [error_bind, bind_of_error h]
    | ok middle => rw [ok_bind, bind_of_ok h, List.append_assoc, String.append_assoc]

instance : LawfulMonad Traced :=
  LawfulMonad.mk' Traced bind_pure_eq pure_bind_eq bind_assoc_eq

theorem notify_bind (notice : Notice) (notices : List Notice) (outcome : Except Fault α) :
    (do notify notice; ⟨notices, "", outcome⟩) = (⟨notice :: notices, "", outcome⟩ : Traced α) := by
  rfl

theorem map_ok (f : α → β) (notices : List Notice) (printed : String) (value : α) :
    f <$> (⟨notices, printed, .ok value⟩ : Traced α) = ⟨notices, printed, .ok (f value)⟩ := by
  rw [map_eq_pure_bind, ok_bind, notices_pure, printed_pure, outcome_pure, List.append_nil,
    String.append_empty]

theorem map_error (f : α → β) (notices : List Notice) (printed : String) (fault : Fault) :
    f <$> (⟨notices, printed, .error fault⟩ : Traced α) = ⟨notices, printed, .error fault⟩ := by
  rw [map_eq_pure_bind, error_bind]

theorem ofExcept_ok (place : Option String) (value : α) :
    ofExcept place (.ok value) = pure value := rfl

/-! ## The outcome of a sequence -/

theorem outcome_ofExcept_eq_ok {place : Option String} {result : Except Cause α} {value : α} :
    (ofExcept place result).outcome = .ok value ↔ result = .ok value := by
  cases result with
  | error cause => simp [ofExcept]
  | ok other => simp [ofExcept, Traced.pure]

theorem outcome_ofExcept_eq_error {place : Option String} {result : Except Cause α}
    {fault : Fault} : (ofExcept place result).outcome = .error fault
      ↔ ∃ cause, result = .error cause ∧ fault = ⟨cause, place⟩ := by
  cases result with
  | error cause => simp [ofExcept, eq_comm]
  | ok value => simp [ofExcept, Traced.pure]

theorem outcome_bind_eq_ok {first : Traced α} {next : α → Traced β} {result : β} :
    (first >>= next).outcome = .ok result
      ↔ ∃ value, first.outcome = .ok value ∧ (next value).outcome = .ok result := by
  cases h : first.outcome with
  | error fault => simp [bind_of_error h]
  | ok value => simp [bind_of_ok h]

theorem outcome_bind_eq_error {first : Traced α} {next : α → Traced β} {fault : Fault} :
    (first >>= next).outcome = .error fault
      ↔ first.outcome = .error fault
        ∨ ∃ value, first.outcome = .ok value ∧ (next value).outcome = .error fault := by
  cases h : first.outcome with
  | error other => simp [bind_of_error h]
  | ok value => simp [bind_of_ok h]

/-- The outcome of a sequence depends on its parts through their outcomes only. -/
theorem outcome_bind_congr {first first' : Traced α} {next next' : α → Traced β}
    (hfirst : first.outcome = first'.outcome)
    (hnext : ∀ value, (next value).outcome = (next' value).outcome) :
    (first >>= next).outcome = (first' >>= next').outcome := by
  cases h : first.outcome with
  | error fault => rw [bind_of_error h, bind_of_error (hfirst.symm.trans h)]
  | ok value =>
    rw [bind_of_ok h, bind_of_ok (hfirst.symm.trans h)]
    exact hnext value

/-! ## Folds -/

/-- **A fold that fails has a first step that fails**, and the items in front of it went well. -/
theorem exists_step_of_foldlM_error {step : σ → α → Traced σ} {fault : Fault} :
    ∀ {items : List α} {state : σ}, (items.foldlM step state).outcome = .error fault →
      ∃ before item after reached, items = before ++ item :: after ∧
        (before.foldlM step state).outcome = .ok reached ∧
        (step reached item).outcome = .error fault := by
  intro items
  induction items with
  | nil => intro state h; simp at h
  | cons item items ih =>
    intro state h
    rw [List.foldlM_cons, outcome_bind_eq_error] at h
    rcases h with hstep | ⟨next, hstep, hrest⟩
    · exact ⟨[], item, items, state, rfl, rfl, hstep⟩
    · obtain ⟨before, last, after, reached, rfl, hbefore, hlast⟩ := ih hrest
      refine ⟨item :: before, last, after, reached, rfl, ?_, hlast⟩
      rw [List.foldlM_cons, outcome_bind_eq_ok]
      exact ⟨next, hstep, hbefore⟩

/-- **What stands behind a fault is never reached**: neither the outcome nor the trace of the fold
depends on it. -/
theorem foldlM_append_of_error {step : σ → α → Traced σ} {items : List α} {state : σ}
    {fault : Fault} (h : (items.foldlM step state).outcome = .error fault) (later : List α) :
    (items ++ later).foldlM step state = items.foldlM step state := by
  rw [List.foldlM_append, bind_of_error h, ← h]

/-- The fold up to an item whose step fails. -/
theorem outcome_foldlM_take_succ {step : σ → α → Traced σ} {state reached : σ} {items : List α}
    {j : Nat} {item : α} {fault : Fault} (hitem : items[j]? = some item)
    (hbefore : ((items.take j).foldlM step state).outcome = .ok reached)
    (hstep : (step reached item).outcome = .error fault) :
    ((items.take (j + 1)).foldlM step state).outcome = .error fault := by
  rw [List.take_add_one, hitem, Option.toList_some, List.foldlM_append, outcome_bind_eq_error]
  exact .inr ⟨reached, hbefore, by simpa using hstep⟩

/-- Steps with the same outcomes make folds with the same outcome. -/
theorem outcome_foldlM_congr {step step' : σ → α → Traced σ}
    (h : ∀ state item, (step state item).outcome = (step' state item).outcome) :
    ∀ (items : List α) (state : σ),
      (items.foldlM step state).outcome = (items.foldlM step' state).outcome := by
  intro items
  induction items with
  | nil => intro state; rfl
  | cons item items ih =>
    intro state
    rw [List.foldlM_cons, List.foldlM_cons]
    exact outcome_bind_congr (h state item) ih

/-- What a fold says that goes through is what its items make it say, in their order. -/
theorem notices_foldlM_of_ok {step : σ → α → Traced σ} {said : α → List Notice}
    (hstep : ∀ state item, (step state item).notices = said item) :
    ∀ {items : List α} {state reached : σ}, (items.foldlM step state).outcome = .ok reached →
      (items.foldlM step state).notices = items.flatMap said := by
  intro items
  induction items with
  | nil => intro state reached _; rfl
  | cons item items ih =>
    intro state reached h
    rw [List.foldlM_cons, outcome_bind_eq_ok] at h
    obtain ⟨next, hnext, hrest⟩ := h
    rw [List.foldlM_cons, bind_of_ok hnext, hstep, ih hrest, List.flatMap_cons]

/-! ## Where a fold stops -/

/-- **A fold stops at item `j`**: the items in front of it are taken, and it is not. -/
def StopsAt (step : σ → α → Traced σ) (state : σ) (items : List α) (j : Nat) (fault : Fault) :
    Prop :=
  ∃ reached item, items[j]? = some item ∧
    ((items.take j).foldlM step state).outcome = .ok reached ∧
    (step reached item).outcome = .error fault

section StopsAt

variable {step : σ → α → Traced σ} {state next : σ} {item : α} {items : List α} {j : Nat}
  {fault : Fault}

theorem stopsAt_zero (h : (step state item).outcome = .error fault) :
    StopsAt step state (item :: items) 0 fault :=
  ⟨state, item, rfl, rfl, h⟩

theorem StopsAt.cons (h : StopsAt step next items j fault)
    (hstep : (step state item).outcome = .ok next) :
    StopsAt step state (item :: items) (j + 1) fault := by
  obtain ⟨reached, last, hlast, hbefore, hfault⟩ := h
  refine ⟨reached, last, hlast, ?_, hfault⟩
  rw [List.take_succ_cons, List.foldlM_cons, outcome_bind_eq_ok]
  exact ⟨next, hstep, hbefore⟩

theorem StopsAt.outcome_take (h : StopsAt step state items j fault) :
    ((items.take (j + 1)).foldlM step state).outcome = .error fault := by
  obtain ⟨reached, item, hitem, hbefore, hfault⟩ := h
  exact outcome_foldlM_take_succ hitem hbefore hfault

/-- **A fold that stops** is the fold of the items up to the one it stops at. -/
theorem StopsAt.foldlM_eq (h : StopsAt step state items j fault) :
    items.foldlM step state = (items.take (j + 1)).foldlM step state := by
  have hrest := foldlM_append_of_error h.outcome_take (items.drop (j + 1))
  rwa [List.take_append_drop] at hrest

theorem StopsAt.outcome (h : StopsAt step state items j fault) :
    (items.foldlM step state).outcome = .error fault := by
  rw [h.foldlM_eq, h.outcome_take]

/-- **What a fold says that stops**: the item it stops at is the last one that makes it speak. -/
theorem StopsAt.notices {said : α → List Notice} (h : StopsAt step state items j fault)
    (hstep : ∀ state item, (step state item).notices = said item) :
    (items.foldlM step state).notices = (items.take (j + 1)).flatMap said := by
  rw [h.foldlM_eq]
  obtain ⟨reached, item, hitem, hbefore, hfault⟩ := h
  rw [List.take_add_one, hitem, Option.toList_some, List.foldlM_append, bind_of_ok hbefore,
    List.flatMap_append, notices_foldlM_of_ok hstep hbefore]
  simp [bind_of_error hfault, hstep]

end StopsAt

end OpcodeTable.Traced
