import Mathlib.Algebra.Order.Field.Rat
import Mathlib.Tactic.Linarith
import Mathlib.Tactic.Positivity

set_option autoImplicit false

-- Token buckets with exact tokens. Time is counted in ticks, and rate is the
-- number of tokens a tick adds.
namespace Buckets

structure Bucket where
  tokens : Rat
  last : Nat
deriving DecidableEq

def full (burst : Rat) : Bucket := ⟨burst, 0⟩

def level (rate burst : Rat) (b : Bucket) (now : Nat) : Rat :=
  if burst < b.tokens + rate * (now - b.last : Nat) then burst else b.tokens + rate * (now - b.last : Nat)

def take (rate burst : Rat) (b : Bucket) (now : Nat) : Bucket × Bool :=
  if 1 ≤ level rate burst b now then (⟨level rate burst b now - 1, now⟩, true) else (b, false)

def granted (rate burst : Rat) (window : Nat → Bool) : Bucket → List Nat → Nat
  | _, [] => 0
  | b, now :: rest =>
      (if (take rate burst b now).2 && window now then 1 else 0) + granted rate burst window (take rate burst b now).1 rest

structure Sound (b : Bucket) (now : Nat) : Prop where
  tokens : 0 ≤ b.tokens
  past : b.last ≤ now

variable (rate burst : Rat) (b : Bucket)

theorem level_le (now : Nat) : level rate burst b now ≤ burst := by
  unfold level
  split_ifs with spilled
  · exact le_refl burst
  · exact not_lt.mp spilled

theorem level_here (now : Nat) (current : b.last = now) : level rate burst b now ≤ b.tokens := by
  unfold level
  rw [current, Nat.sub_self, Nat.cast_zero, mul_zero, add_zero]
  split_ifs with spilled
  · exact le_of_lt spilled
  · exact le_refl _

theorem level_refilled (now : Nat) (tokens : 0 ≤ b.tokens) (refilled : burst ≤ rate * (now - b.last : Nat)) :
    level rate burst b now = burst := by
  unfold level
  split_ifs with spilled
  · rfl
  · linarith

theorem take_granted (now : Nat) (enough : 1 ≤ level rate burst b now) :
    take rate burst b now = (⟨level rate burst b now - 1, now⟩, true) := if_pos enough

theorem take_refused (now : Nat) (short : ¬ 1 ≤ level rate burst b now) : take rate burst b now = (b, false) := if_neg short

theorem sound_later (now later : Nat) (sound : Sound b now) (order : now ≤ later) : Sound b later :=
  ⟨sound.tokens, sound.past.trans order⟩

theorem take_sound (now later : Nat) (order : now ≤ later) (sound : Sound b later) : Sound (take rate burst b now).1 later := by
  by_cases enough : 1 ≤ level rate burst b now
  · rw [take_granted rate burst b now enough]
    exact ⟨by simpa using enough, order⟩
  · rw [take_refused rate burst b now enough]
    exact sound

theorem granted_congr (first second : Nat → Bool) (times : List Nat) (same : ∀ now ∈ times, first now = second now) :
    granted rate burst first b times = granted rate burst second b times := by
  induction times generalizing b with
  | nil => rfl
  | cons now rest ih =>
      rw [granted, granted, same now (by simp), ih _ fun later member => same later (by simp [member])]

theorem granted_never (times : List Nat) : granted rate burst (fun _ => false) b times = 0 := by
  induction times generalizing b with
  | nil => rfl
  | cons now rest ih => rw [granted, ih, Bool.and_false]; rfl

section Rated

variable (rated : 0 ≤ rate)
include rated

theorem level_full (now : Nat) : level rate burst (full burst) now = burst := by
  have grown : 0 ≤ rate * (now - (full burst).last : Nat) := by positivity
  have start : (full burst).tokens = burst := rfl
  unfold level
  split_ifs with spilled
  · rfl
  · linarith

theorem level_later (now later : Nat) (past : b.last ≤ now) (order : now ≤ later) :
    level rate burst b later ≤ level rate burst b now + rate * (later - now : Nat) := by
  have added : rate * (later - b.last : Nat) = rate * (now - b.last : Nat) + rate * (later - now : Nat) := by
    rw [← mul_add, ← Nat.cast_add]
    congr 2
    omega
  have grown : 0 ≤ rate * (later - now : Nat) := by positivity
  unfold level
  split_ifs <;> linarith

variable (bursting : 0 ≤ burst)
include bursting

theorem level_nonneg (now : Nat) (tokens : 0 ≤ b.tokens) : 0 ≤ level rate burst b now := by
  have grown : 0 ≤ rate * (now - b.last : Nat) := by positivity
  unfold level
  split_ifs
  · exact bursting
  · linarith

theorem granted_until (start stop : Nat) (times : List Nat) (sorted : times.Pairwise (· ≤ ·))
    (late : ∀ now ∈ times, start ≤ now) (order : start ≤ stop) (sound : Sound b start) :
    (granted rate burst (fun now => decide (now ≤ stop)) b times : Rat) ≤ level rate burst b start + rate * (stop - start : Nat) := by
  have stored := level_nonneg rate burst b rated bursting start sound.tokens
  have grown : 0 ≤ rate * (stop - start : Nat) := by positivity
  induction times generalizing b start with
  | nil =>
      rw [granted, Nat.cast_zero]
      linarith
  | cons now rest ih =>
      obtain ⟨following, ordered⟩ := List.pairwise_cons.mp sorted
      have after := late now (by simp)
      by_cases inside : now ≤ stop
      · have advanced := take_sound rate burst b now now (Nat.le_refl now) (sound_later b start now sound after)
        have further := ih (take rate burst b now).1 now ordered following inside advanced
          (level_nonneg rate burst _ rated bursting now advanced.tokens) (by positivity)
        have risen := level_later rate burst b rated start now sound.past after
        have split : rate * (stop - start : Nat) = rate * (now - start : Nat) + rate * (stop - now : Nat) := by
          rw [← mul_add, ← Nat.cast_add]
          congr 2
          omega
        by_cases enough : 1 ≤ level rate burst b now
        · have left := level_here rate burst ⟨level rate burst b now - 1, now⟩ now rfl
          rw [take_granted rate burst b now enough] at further
          rw [granted, take_granted rate burst b now enough]
          simp only [inside, decide_true, Bool.and_self, if_true, Nat.cast_add, Nat.cast_one] at further left ⊢
          linarith
        · rw [take_refused rate burst b now enough] at further
          rw [granted, take_refused rate burst b now enough]
          simp only [Bool.false_and, Bool.false_eq_true, if_false, Nat.cast_add, Nat.cast_zero]
          linarith
      · have beyond : ∀ later ∈ now :: rest, decide (later ≤ stop) = false := by
          intro later member
          rcases List.mem_cons.mp member with rfl | further
          · exact decide_eq_false inside
          · have order := following later further
            exact decide_eq_false (by omega)
        rw [granted_congr rate burst b _ _ _ beyond, granted_never, Nat.cast_zero]
        linarith

theorem granted_window (start stop : Nat) (times : List Nat) (sorted : times.Pairwise (· ≤ ·)) (order : start ≤ stop)
    (sound : Sound b start) :
    (granted rate burst (fun now => decide (start ≤ now) && decide (now ≤ stop)) b times : Rat) ≤ burst + rate * (stop - start : Nat) := by
  induction times generalizing b with
  | nil =>
      have grown : 0 ≤ rate * (stop - start : Nat) := by positivity
      rw [granted, Nat.cast_zero]
      linarith
  | cons now rest ih =>
      obtain ⟨following, ordered⟩ := List.pairwise_cons.mp sorted
      by_cases early : now < start
      · have advanced := take_sound rate burst b now start (by omega) sound
        rw [granted, decide_eq_false (by omega : ¬ start ≤ now)]
        simpa using ih (take rate burst b now).1 ordered advanced
      · have late : ∀ later ∈ now :: rest, start ≤ later := by
          intro later member
          rcases List.mem_cons.mp member with rfl | further
          · omega
          · have order := following later further
            omega
        have filled := level_le rate burst b start
        have spent := granted_until rate burst b rated bursting start stop (now :: rest) sorted late order sound
        rw [granted_congr rate burst b _ (fun now => decide (now ≤ stop)) _ fun later member => by simp [late later member]]
        linarith

end Rated

end Buckets
