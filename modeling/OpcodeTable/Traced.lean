import OpcodeTable.Notice

/-!
# Traced — a computation with its notices, its printed text and its outcome

What was said and printed before a fault is kept, so a failing run can still show how far it came.
-/

namespace OpcodeTable

/-- **A traced computation**: notices in order, text printed so far, and a value or a fault. -/
structure Traced (α : Type) where
  notices : List Notice := []
  printed : String := ""
  outcome : Except Fault α

namespace Traced

variable {α β : Type}

/-- A value, with nothing said. -/
protected def pure (value : α) : Traced α := { outcome := .ok value }

/-- One computation after another: a fault ends the run, and the trace so far stays. -/
protected def bind (first : Traced α) (next : α → Traced β) : Traced β :=
  match first.outcome with
  | .error fault => ⟨first.notices, first.printed, .error fault⟩
  | .ok value =>
    let second := next value
    ⟨first.notices ++ second.notices, first.printed ++ second.printed, second.outcome⟩

instance : Monad Traced where
  pure := Traced.pure
  bind := Traced.bind

/-- Say something in the log. -/
def notify (notice : Notice) : Traced Unit := { notices := [notice], outcome := .ok () }

/-- Print a text. -/
def print (text : String) : Traced Unit := { printed := text, outcome := .ok () }

/-- Fail with a cause found at a place. -/
def fail (cause : Cause) (place : Option String := none) : Traced α :=
  { outcome := .error ⟨cause, place⟩ }

/-- The value, or the cause as a fault at the given place. -/
def ofExcept (place : Option String) : Except Cause α → Traced α
  | .ok value => Traced.pure value
  | .error cause => fail cause place

@[simp] theorem notices_pure (value : α) : (pure value : Traced α).notices = [] := rfl
@[simp] theorem printed_pure (value : α) : (pure value : Traced α).printed = "" := rfl
@[simp] theorem outcome_pure (value : α) : (pure value : Traced α).outcome = .ok value := rfl
@[simp] theorem outcome_notify (notice : Notice) : (notify notice).outcome = .ok () := rfl
@[simp] theorem outcome_fail (cause : Cause) (place : Option String) :
    (fail cause place : Traced α).outcome = .error ⟨cause, place⟩ := rfl

theorem bind_of_ok {first : Traced α} {value : α} (h : first.outcome = .ok value)
    (next : α → Traced β) :
    first >>= next = ⟨first.notices ++ (next value).notices,
      first.printed ++ (next value).printed, (next value).outcome⟩ := by
  change Traced.bind first next = _
  simp [Traced.bind, h]

theorem bind_of_error {first : Traced α} {fault : Fault} (h : first.outcome = .error fault)
    (next : α → Traced β) :
    first >>= next = ⟨first.notices, first.printed, .error fault⟩ := by
  change Traced.bind first next = _
  simp [Traced.bind, h]

end Traced

end OpcodeTable
