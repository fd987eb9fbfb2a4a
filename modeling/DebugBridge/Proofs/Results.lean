/-!
# Results of computations in parts

A computation in two parts succeeds when both do, and fails as the first of them that does.
-/

namespace DebugBridge

variable {ε α β : Type} {result : Except ε α} {made : β} {fault : ε}

section Made

variable {make : α → β}

/-- What is made of a result is made of a good one. -/
theorem map_eq_ok :
    result.map make = .ok made ↔ ∃ value, result = .ok value ∧ make value = made := by
  cases result <;> simp [Except.map]

theorem map_eq_error : result.map make = .error fault ↔ result = .error fault := by
  cases result <;> simp [Except.map]

end Made

section Followed

variable {second : α → Except ε β}

theorem bind_eq_ok :
    (result >>= second) = .ok made ↔ ∃ value, result = .ok value ∧ second value = .ok made := by
  cases result <;> simp [bind, Except.bind]

theorem bind_eq_error_iff :
    (result >>= second) = .error fault ↔
      result = .error fault ∨ ∃ value, result = .ok value ∧ second value = .error fault := by
  cases result <;> simp [bind, Except.bind]

end Followed

end DebugBridge
