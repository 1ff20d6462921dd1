set_option autoImplicit false

namespace Outcomes

universe u v w

variable {Error : Type u} {Fault : Type w} {Value Result : Type v}

theorem bind_ok {outcome : Except Error Value} {next : Value → Except Error Result} {result : Result}
    (completed : outcome.bind next = .ok result) : ∃ value, outcome = .ok value ∧ next value = .ok result := by
  cases outcome with
  | error problem => cases completed
  | ok value => exact ⟨value, rfl, completed⟩

theorem map_ok {outcome : Except Error Value} {change : Value → Result} {result : Result}
    (completed : outcome.map change = .ok result) : ∃ value, outcome = .ok value ∧ change value = result := by
  cases outcome with
  | error problem => cases completed
  | ok value => exact ⟨value, rfl, Except.ok.inj completed⟩

theorem map_error_ok {outcome : Except Error Value} {wrap : Error → Fault} {value : Value}
    (completed : outcome.mapError wrap = .ok value) : outcome = .ok value := by
  cases outcome with
  | error problem => cases completed
  | ok found => exact congrArg Except.ok (Except.ok.inj completed)

theorem to_option_some {outcome : Except Error Value} {value : Value} (completed : outcome.toOption = some value) :
    outcome = .ok value := by
  cases outcome with
  | error problem => cases completed
  | ok found => exact congrArg Except.ok (Option.some.inj completed)

theorem to_option_ok (outcome : Except Error Value) (value : Value) : outcome.toOption = some value ↔ outcome = .ok value :=
  ⟨to_option_some, fun same => same ▸ rfl⟩

theorem checked_ok (first second : Prop) [Decidable first] [Decidable second] (problem other : Error) (value : Value) :
    (∃ result, (if first then .error problem else if second then .error other else .ok value) = Except.ok result) ↔
      ¬ first ∧ ¬ second := by
  by_cases failed : first
  · rw [if_pos failed]
    exact ⟨fun ⟨_, impossible⟩ => (nomatch impossible), fun passed => absurd failed passed.1⟩
  · rw [if_neg failed]
    by_cases again : second
    · rw [if_pos again]
      exact ⟨fun ⟨_, impossible⟩ => (nomatch impossible), fun passed => absurd again passed.2⟩
    · rw [if_neg again]
      exact ⟨fun _ => ⟨failed, again⟩, fun _ => ⟨value, rfl⟩⟩

end Outcomes
