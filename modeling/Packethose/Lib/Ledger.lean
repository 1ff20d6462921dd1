import Mathlib.Logic.Function.Basic

set_option autoImplicit false

-- An abstract book of exclusive holdings: every holder has at most one item
-- and no item has two holders. The second half is part of the type, so a
-- component that always matches some ledger never hands one item out twice.
structure Ledger (Holder Item : Type) where
  holds : Holder → Option Item
  exclusive : ∀ first second item, holds first = some item → holds second = some item → first = second

namespace Ledger

variable {Holder Item : Type}

def Taken (ledger : Ledger Holder Item) (item : Item) : Prop := ∃ holder, ledger.holds holder = some item

def empty : Ledger Holder Item where
  holds := fun _ => none
  exclusive := by simp

theorem empty_free (item : Item) : ¬ (empty : Ledger Holder Item).Taken item := by
  rintro ⟨holder, held⟩
  cases held

section Updates

variable [DecidableEq Holder]

def grant (ledger : Ledger Holder Item) (holder : Holder) (item : Item)
    (free : ∀ other, ledger.holds other = some item → other = holder) : Ledger Holder Item where
  holds := Function.update ledger.holds holder (some item)
  exclusive := by
    intro first second stored heldFirst heldSecond
    by_cases atFirst : first = holder <;> by_cases atSecond : second = holder
    · rw [atFirst, atSecond]
    · rw [atFirst, Function.update_self] at heldFirst
      rw [Function.update_of_ne atSecond, ← heldFirst] at heldSecond
      exact absurd (free second heldSecond) atSecond
    · rw [atSecond, Function.update_self] at heldSecond
      rw [Function.update_of_ne atFirst, ← heldSecond] at heldFirst
      exact absurd (free first heldFirst) atFirst
    · rw [Function.update_of_ne atFirst] at heldFirst
      rw [Function.update_of_ne atSecond] at heldSecond
      exact ledger.exclusive first second stored heldFirst heldSecond

def release (ledger : Ledger Holder Item) (holder : Holder) : Ledger Holder Item where
  holds := Function.update ledger.holds holder none
  exclusive := by
    intro first second stored heldFirst heldSecond
    by_cases atFirst : first = holder
    · simp [atFirst] at heldFirst
    · by_cases atSecond : second = holder
      · simp [atSecond] at heldSecond
      · rw [Function.update_of_ne atFirst] at heldFirst
        rw [Function.update_of_ne atSecond] at heldSecond
        exact ledger.exclusive first second stored heldFirst heldSecond

theorem grant_holds (ledger : Ledger Holder Item) (holder query : Holder) (item : Item)
    (free : ∀ other, ledger.holds other = some item → other = holder) :
    (ledger.grant holder item free).holds query = if query = holder then some item else ledger.holds query := by
  simp only [grant, Function.update_apply]

theorem release_holds (ledger : Ledger Holder Item) (holder query : Holder) :
    (ledger.release holder).holds query = if query = holder then none else ledger.holds query := by
  simp only [release, Function.update_apply]

theorem taken_of_grant (ledger : Ledger Holder Item) (holder : Holder) (item other : Item)
    (free : ∀ other, ledger.holds other = some item → other = holder)
    (taken : (ledger.grant holder item free).Taken other) : other = item ∨ ledger.Taken other := by
  obtain ⟨owner, held⟩ := taken
  rw [grant_holds] at held
  by_cases same : owner = holder
  · rw [if_pos same] at held
    exact .inl (Option.some.inj held).symm
  · rw [if_neg same] at held
    exact .inr ⟨owner, held⟩

theorem grant_taken (ledger : Ledger Holder Item) (holder : Holder) (item other : Item)
    (free : ∀ other, ledger.holds other = some item → other = holder)
    (fresh : ∀ held, ledger.holds holder = some held → held = item) :
    (ledger.grant holder item free).Taken other ↔ other = item ∨ ledger.Taken other := by
  refine ⟨taken_of_grant ledger holder item other free, ?_⟩
  rintro (rfl | ⟨owner, held⟩)
  · exact ⟨holder, by rw [grant_holds, if_pos rfl]⟩
  · by_cases same : owner = holder
    · subst same
      exact ⟨owner, by rw [grant_holds, if_pos rfl, fresh other held]⟩
    · exact ⟨owner, by rw [grant_holds, if_neg same, held]⟩

theorem release_taken (ledger : Ledger Holder Item) (holder : Holder) (item : Item) :
    (ledger.release holder).Taken item ↔ ledger.Taken item ∧ ledger.holds holder ≠ some item := by
  constructor
  · rintro ⟨owner, kept⟩
    rw [release_holds] at kept
    by_cases same : owner = holder
    · simp [same] at kept
    · rw [if_neg same] at kept
      exact ⟨⟨owner, kept⟩, fun held => same (ledger.exclusive owner holder item kept held)⟩
  · rintro ⟨⟨owner, held⟩, different⟩
    refine ⟨owner, ?_⟩
    rw [release_holds, if_neg, held]
    rintro rfl
    exact different held

end Updates

end Ledger
