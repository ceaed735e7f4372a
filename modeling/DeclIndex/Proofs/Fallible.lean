import Mathlib.Tactic.Common

/-!
# Computations that can fail

Steps that can fail, one after the other: the computation fails where the first of them fails, and
comes to a value if all do.

## Main results

* `bind_eq_error_iff`, `bind_eq_ok_iff` — how two steps fail, and what they come to.
* `check_eq_error_iff`, `check_eq_ok_iff` — the same for a step after a check.
* `map_eq_error_iff`, `map_eq_ok_iff` — the same for a step whose value is made into another.
* `mapError_eq_error_iff`, `mapError_eq_ok_iff` — the same for a step whose faults are.
-/

namespace DeclIndex

variable {ε ε' α β : Type}

/-- Two steps fail where the first fails, or where the second does. -/
lemma bind_eq_error_iff {x : Except ε α} {f : α → Except ε β} {fault : ε} :
    (x >>= f) = .error fault ↔ x = .error fault ∨ ∃ v, x = .ok v ∧ f v = .error fault := by
  cases x with
  | error e => simp [bind, Except.bind]
  | ok v => simp [bind, Except.bind]

/-- Two steps come to a value if both do. -/
lemma bind_eq_ok_iff {x : Except ε α} {f : α → Except ε β} {b : β} :
    (x >>= f) = .ok b ↔ ∃ v, x = .ok v ∧ f v = .ok b := by
  cases x with
  | error e => simp [bind, Except.bind]
  | ok v => simp [bind, Except.bind]

/-- A step after a check fails if the check finds something or the step fails. -/
lemma check_eq_error_iff {found : Bool} {fault e : ε} {f : α → Except ε β} {x : Except ε β} :
    (if found = true then throw fault >>= f else x) = .error e ↔
      (found = true ∧ fault = e) ∨ (found = false ∧ x = .error e) := by
  cases found with
  | false => simp
  | true => simp [throw, throwThe, MonadExceptOf.throw, bind, Except.bind]

/-- A step after a check comes to a value if the check finds nothing and the step does. -/
lemma check_eq_ok_iff {found : Bool} {fault : ε} {f : α → Except ε β} {x : Except ε β} {b : β} :
    (if found = true then throw fault >>= f else x) = .ok b ↔ found = false ∧ x = .ok b := by
  cases found with
  | false => simp
  | true => simp [throw, throwThe, MonadExceptOf.throw, bind, Except.bind]

/-- A step whose value is made into another fails if it fails. -/
lemma map_eq_error_iff {x : Except ε α} {f : α → β} {fault : ε} :
    x.map f = .error fault ↔ x = .error fault := by
  cases x with
  | error e => simp [Except.map]
  | ok v => simp [Except.map]

/-- A step whose value is made into another comes to that if it comes to a value. -/
lemma map_eq_ok_iff {x : Except ε α} {f : α → β} {b : β} :
    x.map f = .ok b ↔ ∃ v, x = .ok v ∧ f v = b := by
  cases x with
  | error e => simp [Except.map]
  | ok v => simp [Except.map]

/-- A step whose faults are made into others fails if it fails. -/
lemma mapError_eq_error_iff {x : Except ε α} {f : ε → ε'} {e : ε'} :
    x.mapError f = .error e ↔ ∃ fault, x = .error fault ∧ f fault = e := by
  cases x with
  | error fault => simp [Except.mapError]
  | ok v => simp [Except.mapError]

/-- A step whose faults are made into others comes to the same value. -/
lemma mapError_eq_ok_iff {x : Except ε α} {f : ε → ε'} {v : α} :
    x.mapError f = .ok v ↔ x = .ok v := by
  cases x with
  | error fault => simp [Except.mapError]
  | ok v => simp [Except.mapError]

end DeclIndex
