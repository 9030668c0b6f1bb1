/-!
# Outcomes of steps

When a computation in steps gives a result: every step does, and the result is made of theirs.
-/

namespace QueryAssembly

/-- A step succeeds exactly when both of its parts do. -/
theorem bind_ok_iff {ε α β : Type} {first : Except ε α} {next : α → Except ε β} {result : β} :
    (first >>= next) = .ok result ↔ ∃ value, first = .ok value ∧ next value = .ok result := by
  cases first <;> simp [bind, Except.bind]

theorem map_ok_iff {ε α β : Type} {outcome : Except ε α} {change : α → β} {result : β} :
    outcome.map change = .ok result ↔ ∃ value, outcome = .ok value ∧ change value = result := by
  cases outcome <;> simp [Except.map]

/-- Two steps that make a pair succeed exactly when each of them makes its part. -/
theorem pair_ok_iff {ε α β : Type} {first : Except ε α} {second : Except ε β} {left : α}
    {right : β} :
    (do
      let left ← first
      let right ← second
      return (left, right)) = .ok (left, right) ↔ first = .ok left ∧ second = .ok right := by
  cases first <;> cases second <;> simp [bind, Except.bind, pure, Except.pure]

theorem map_some_and_iff {α β : Type} {first : Option α} {change : α → β} {result : β}
    {condition : Prop} :
    first.map change = some result ∧ condition ↔
      ∃ value, (first = some value ∧ condition) ∧ change value = result := by
  cases first with
  | none => simp
  | some value =>
    constructor
    · rintro ⟨changed, condition⟩
      exact ⟨value, ⟨rfl, condition⟩, Option.some.inj changed⟩
    · rintro ⟨_, ⟨same, condition⟩, rfl⟩
      exact ⟨congrArg (Option.map change) same, condition⟩

theorem pair_some_iff {α β : Type} {first : Option α} {second : Option β} {left : α}
    {right : β} :
    (do
      let left ← first
      let right ← second
      return (left, right)) = some (left, right) ↔ first = some left ∧ second = some right := by
  cases first <;> cases second <;> simp

end QueryAssembly
