/-!
# Stages that can fail

A computation in stages gives a result when each stage does, and otherwise ends with the first fault.
-/

namespace SelfBuild

variable {ε α β : Type} {stage : Except ε α} {next : α → Except ε β}

theorem bind_eq_ok_iff {result : β} :
    stage >>= next = .ok result ↔ ∃ a, stage = .ok a ∧ next a = .ok result := by
  cases stage <;> simp [bind, Except.bind]

theorem bind_eq_error_iff {fault : ε} :
    stage >>= next = .error fault ↔ stage = .error fault ∨ ∃ a, stage = .ok a ∧ next a = .error fault := by
  cases stage <;> simp [bind, Except.bind]

end SelfBuild
