import QueryAssembly.Proofs.Outcome
import QueryAssembly.Spec.Validation

/-!
# When checks pass

A check of several parts passes exactly when every part does.  So what each part of a specification
asks of its names and sizes can be read off without regard to the order of the checks.
-/

namespace QueryAssembly

namespace Check

theorem present_ok_iff {name text : String} :
    present name text = .ok () ↔ Text.isBlank text = false := by
  unfold present
  cases Text.isBlank text <;> simp

theorem positive_ok_iff {error : SpecError} {count : UInt64} :
    positive error count = .ok () ↔ 0 < count := by
  unfold positive
  by_cases zero : count = 0
  · rw [if_pos zero, zero]
    exact iff_of_false (by simp) (by decide)
  · rw [if_neg zero]
    exact iff_of_true rfl (UInt64.pos_iff_ne_zero.mpr zero)

theorem and_then_ok_iff {first next : Check} :
    (first >>= fun _ => next) = .ok () ↔ first = .ok () ∧ next = .ok () := by
  rw [bind_ok_iff]
  constructor
  · rintro ⟨_, first_passes, next_passes⟩
    exact ⟨first_passes, next_passes⟩
  · rintro ⟨first_passes, next_passes⟩
    exact ⟨(), first_passes, next_passes⟩

theorem each_ok_iff {α : Type} {check : α → Check} {items : List α} :
    each check items = .ok () ↔ ∀ item ∈ items, check item = .ok () := by
  induction items with
  | nil => simp [each]
  | cons item rest ih => rw [each, and_then_ok_iff, ih, List.forall_mem_cons]

theorem eachIn_ok_iff {α : Type} {check : α → Check} {items : Option (List α)} :
    eachIn check items = .ok () ↔ ∀ item ∈ items.getD [], check item = .ok () :=
  each_ok_iff

end Check

open Check

theorem FieldConstraint.validate_ok_iff {constraint : FieldConstraint} :
    constraint.validate = .ok () ↔ Text.isBlank constraint.field = false :=
  present_ok_iff

theorem NestedConstraint.validate_ok_iff {constraint : NestedConstraint} :
    constraint.validate = .ok () ↔
      Text.isBlank constraint.path = false ∧ Text.isBlank constraint.key = false := by
  rw [validate, and_then_ok_iff, present_ok_iff, present_ok_iff]

theorem SortKey.validate_ok_iff {key : SortKey} :
    key.validate = .ok () ↔
      Text.isBlank key.field = false ∧
        ∀ marker, key.nested = some marker → Text.isBlank marker.path = false := by
  rw [validate, and_then_ok_iff, present_ok_iff]
  cases key.nested with
  | none => simp
  | some marker => simp [present_ok_iff]

theorem BucketSpec.validate_ok_iff {spec : BucketSpec} :
    spec.validate = .ok () ↔ Text.isBlank spec.field = false ∧ 0 < spec.size := by
  rw [validate, and_then_ok_iff, present_ok_iff, positive_ok_iff]

theorem SampleSpec.validate_ok_iff {spec : SampleSpec} :
    spec.validate = .ok () ↔ Text.isBlank spec.field = false ∧ 0 < spec.size := by
  rw [validate, and_then_ok_iff, present_ok_iff, positive_ok_iff]

end QueryAssembly
