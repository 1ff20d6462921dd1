set_option autoImplicit false

namespace Scan

universe u

variable {Item : Type u}

-- Go on from an item to the next one while it is inside and taken. The outer
-- none is a scan that has not ended within the given number of steps.
def scan (next : Item → Item) (inside taken : Item → Bool) : Nat → Item → Option (Option Item)
  | 0, _ => none
  | fuel + 1, item =>
      if inside item then if taken item then scan next inside taken fuel (next item) else some (some item)
      else some none

theorem scan_numbered (next : Item → Item) (inside taken : Item → Bool) (item : Nat → Item) (size : Nat)
    (step : ∀ position, position < size → next (item position) = item (position + 1))
    (within : ∀ position, position < size → inside (item position) = true) (beyond : inside (item size) = false)
    (fuel start : Nat) (begun : start ≤ size) (enough : size - start < fuel) :
    (∃ found, start ≤ found ∧ found < size ∧ taken (item found) = false ∧
        (∀ position, start ≤ position → position < found → taken (item position) = true) ∧
        scan next inside taken fuel (item start) = some (some (item found))) ∨
      ((∀ position, start ≤ position → position < size → taken (item position) = true) ∧
        scan next inside taken fuel (item start) = some none) := by
  induction fuel generalizing start with
  | zero => omega
  | succ fuel ih =>
      rw [scan]
      by_cases ended : start = size
      · subst ended
        rw [beyond]
        exact .inr ⟨fun position lower upper => by omega, rfl⟩
      · have inner : start < size := by omega
        rw [if_pos (within start inner)]
        by_cases free : taken (item start) = true
        · rw [if_pos free, step start inner]
          have here : ∀ position, start ≤ position → ¬ start + 1 ≤ position → taken (item position) = true := by
            intro position lower upper
            obtain rfl : position = start := by omega
            exact free
          cases ih (start + 1) inner (by omega) with
          | inl hit =>
              obtain ⟨found, lower, upper, vacant, before, result⟩ := hit
              refine .inl ⟨found, by omega, upper, vacant, fun position low high => ?_, result⟩
              by_cases passed : start + 1 ≤ position
              · exact before position passed high
              · exact here position low passed
          | inr miss =>
              refine .inr ⟨fun position low high => ?_, miss.2⟩
              by_cases passed : start + 1 ≤ position
              · exact miss.1 position passed high
              · exact here position low passed
        · rw [if_neg free]
          refine .inl ⟨start, Nat.le_refl start, inner, Bool.not_eq_true _ ▸ free, fun position low high => ?_, rfl⟩
          omega

end Scan
