/-
Listeners wait for a circuit breaker to enter a state of their kind. There is one slot for each
kind.
-/
import CircuitBreaker.Kind
import CircuitBreaker.Text.Outline

namespace CircuitBreaker

/-- The listener for each kind of state, if there is one. -/
structure Listeners (η : Type) where
  closed : Option η
  halfOpen : Option η
  opened : Option η

namespace Listeners

variable {η : Type}

/-- No listener at all. -/
def empty : Listeners η := ⟨none, none, none⟩

/-- The listener for a kind of state. -/
def get (listeners : Listeners η) : Kind → Option η
  | .closed => listeners.closed
  | .halfOpen => listeners.halfOpen
  | .opened => listeners.opened

/-- Gives one kind of state a listener. -/
def set (listeners : Listeners η) (kind : Kind) (listener : η) : Listeners η :=
  match kind with
  | .closed => { listeners with closed := some listener }
  | .halfOpen => { listeners with halfOpen := some listener }
  | .opened => { listeners with opened := some listener }

/-- Gives all kinds of states the same listener. -/
def setAll (_ : Listeners η) (listener : η) : Listeners η :=
  ⟨some listener, some listener, some listener⟩

@[simp] theorem get_empty (kind : Kind) : (empty : Listeners η).get kind = none := by
  cases kind <;> rfl

@[simp] theorem get_set (listeners : Listeners η) (kind other : Kind) (listener : η) :
    (listeners.set kind listener).get other =
      if other = kind then some listener else listeners.get other := by
  cases kind <;> cases other <;> rfl

@[simp] theorem get_setAll (listeners : Listeners η) (kind : Kind) (listener : η) :
    (listeners.setAll listener).get kind = some listener := by
  cases kind <;> rfl

end Listeners

end CircuitBreaker
