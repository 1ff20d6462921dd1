import Packethose.Supervisor

set_option autoImplicit false

namespace Packethose

inductive AttemptEnd where
  | failed
  | lane
deriving DecidableEq

-- What is known before a call of the source: how the last attempt ended, how
-- many acquires in a row have failed, and how long the supervisor has slept
-- since the attempt ended.
structure Pause where
  ended : Option AttemptEnd
  failures : Nat
  slept : Nat
deriving DecidableEq

def backoffAfter (failures : Nat) : Nat := min backoffMax (backoffInitial * (1 <<< (failures - 1)))

namespace Pause

def start : Pause := ⟨none, 0, 0⟩

def watch (p : Pause) : SupervisorAction → Pause
  | .call | .cancelled => p
  | .acquireFailed => ⟨some .failed, p.failures + 1, 0⟩
  | .acquired _ => { p with failures := 0 }
  | .waited slept => { p with slept := p.slept + slept }
  | .laneEnded => ⟨some .lane, 0, 0⟩

structure BackedOff (p : Pause) : Prop where
  floor : p.ended ≠ none → backoffInitial ≤ p.slept
  lower : 1 ≤ p.failures → backoffAfter p.failures ≤ p.slept
  upper : 1 ≤ p.failures → 4 * p.slept ≤ 5 * backoffAfter p.failures

inductive Resting (p : Pause) : Prop where
  | fresh (ended : p.ended = none) (failures : p.failures = 0)
  | rested (ended : p.ended = some .failed) (failures : 1 ≤ p.failures) (lower : backoffAfter p.failures ≤ p.slept)
      (upper : p.slept ≤ backoffAfter p.failures + backoffAfter p.failures / 4)
  | unrested (ended : p.ended = some .lane) (failures : p.failures = 0) (slept : p.slept = 0)

end Pause

def callPauses : Pause → List SupervisorAction → List Pause
  | _, [] => []
  | p, .call :: rest => p :: callPauses p rest
  | p, action :: rest => callPauses (p.watch action) rest

theorem backoff_after_initial (failures : Nat) : backoffInitial ≤ backoffAfter failures := by
  have doubled : 1 ≤ 1 <<< (failures - 1) := by
    rw [Nat.one_shiftLeft]
    exact Nat.one_le_two_pow
  have grown : backoffInitial * 1 ≤ backoffInitial * (1 <<< (failures - 1)) := Nat.mul_le_mul_left _ doubled
  have ceiling : backoffInitial ≤ backoffMax := by decide
  unfold backoffAfter
  omega

theorem next_backoff_after (failures : Nat) (positive : 1 ≤ failures) : nextBackoff (backoffAfter failures) = backoffAfter (failures + 1) := by
  obtain ⟨earlier, rfl⟩ : ∃ earlier, failures = earlier + 1 := ⟨failures - 1, by omega⟩
  have doubled : (1 : Nat) <<< (earlier + 1) = 2 * (1 <<< earlier) := by
    rw [Nat.one_shiftLeft, Nat.one_shiftLeft, Nat.pow_succ, Nat.mul_comm]
  unfold nextBackoff backoffAfter
  rw [Nat.add_sub_cancel, Nat.add_sub_cancel, doubled, Nat.mul_left_comm]
  generalize backoffInitial * 1 <<< earlier = wait
  split_ifs <;> omega

namespace Supervisor

def Waits (p : Pause) : SupervisorPoint → Prop
  | .top => p.Resting
  | .waiting wait => wait = backoffAfter p.failures ∧ p.ended = some .failed ∧ 1 ≤ p.failures ∧ p.slept = 0
  | .up _ => p.failures = 0
  | .acquiring | .stopped => True

structure Paused (st : Supervisor) (p : Pause) : Prop where
  backoff : st.backoff = backoffAfter (p.failures + 1)
  waits : Waits p st.point

theorem paused_start (queue : KernelTUN) : Paused (start queue) .start :=
  ⟨show backoffInitial = backoffAfter 1 by decide, .fresh rfl rfl⟩

theorem paused_preserved (onAssign : Bool) (st : Supervisor) (action : SupervisorAction) (next : Supervisor) (p : Pause)
    (paused : Paused st p) (taken : step onAssign st action = some next) : Paused next (p.watch action) := by
  have waits := paused.waits
  cases step_move onAssign st next action taken with
  | call | cancelled => exact ⟨paused.backoff, trivial⟩
  | acquireFailed =>
      refine ⟨?_, paused.backoff, rfl, Nat.succ_pos _, rfl⟩
      rw [paused.backoff, next_backoff_after _ (by omega)]
      rfl
  | acquired ident => exact ⟨by simp only [laneUp, Pause.watch]; decide, rfl⟩
  | waited wait slept waiting lower upper =>
      rw [waiting] at waits
      obtain ⟨rfl, ended, failures, fresh⟩ := waits
      refine ⟨paused.backoff, .rested ended failures ?_ ?_⟩ <;> simp only [Pause.watch, fresh, Nat.zero_add]
      · exact lower
      · exact upper
  | laneEnded ident up =>
      rw [up] at waits
      have steady := paused.backoff
      rw [show p.failures = 0 from waits] at steady
      exact ⟨steady, .unrested rfl rfl rfl⟩

theorem call_pauses_resting (onAssign : Bool) (st final : Supervisor) (steps : List (Supervisor × SupervisorAction))
    (run : Runs.Run (step onAssign) st steps final) (p : Pause) (paused : Paused st p) :
    ∀ q ∈ callPauses p (steps.map Prod.snd), q.Resting := by
  induction run generalizing p with
  | nil st => simp [callPauses]
  | cons st next final action rest taken tail ih =>
      have later := ih (p.watch action) (paused_preserved onAssign st action next p paused taken)
      cases step_move onAssign st next action taken with
      | call top =>
          intro q member
          rcases List.mem_cons.mp member with rfl | further
          · have waits := paused.waits
            rw [top] at waits
            exact waits
          · exact later q further
      | acquireFailed | acquired | waited | laneEnded | cancelled => exact later

end Supervisor

theorem Pause.resting_backed_off (p : Pause) (resting : p.Resting) : p.BackedOff ↔ p.ended ≠ some .lane := by
  constructor
  · intro backed ended
    cases resting with
    | fresh before => rw [before] at ended; cases ended
    | rested before => rw [before] at ended; cases ended
    | unrested _ _ slept =>
        have floor := backed.floor (by simp [ended])
        rw [slept] at floor
        exact absurd floor (by decide)
  · intro ended
    cases resting with
    | fresh before failures =>
        exact ⟨fun some => absurd before some, fun positive => absurd failures (by omega), fun positive => absurd failures (by omega)⟩
    | rested before failures lower upper =>
        exact ⟨fun _ => (backoff_after_initial _).trans lower, fun _ => lower, fun _ => by omega⟩
    | unrested before => exact absurd before ended

theorem reconnects_backed_off (onAssign : Bool) (queue : KernelTUN) (steps : List (Supervisor × SupervisorAction))
    (final : Supervisor) (run : Runs.Run (Supervisor.step onAssign) (Supervisor.start queue) steps final) :
    (∀ p ∈ callPauses .start (steps.map Prod.snd), p.BackedOff) ↔
      ∀ p ∈ callPauses .start (steps.map Prod.snd), p.ended ≠ some .lane := by
  have each := Supervisor.call_pauses_resting onAssign (Supervisor.start queue) final steps run .start (Supervisor.paused_start queue)
  exact forall₂_congr fun p member => p.resting_backed_off (each p member)

def retrySteps : List SupervisorAction :=
  [.call, .acquireFailed, .waited 250000000, .call, .acquireFailed, .waited 600000000, .call]

theorem reconnects_backed_off_retry :
    ∃ steps final, Runs.Run (Supervisor.step false) (Supervisor.start usoQueue) steps final ∧
      callPauses .start (steps.map Prod.snd) = [⟨none, 0, 0⟩, ⟨some .failed, 1, 250000000⟩, ⟨some .failed, 2, 600000000⟩] ∧
      ∀ p ∈ callPauses .start (steps.map Prod.snd), p.BackedOff := by
  have observed : (Runs.execute (Supervisor.step false) (fun _ _ => True) (Supervisor.start usoQueue) retrySteps).isSome = true := by
    decide +kernel
  obtain ⟨final, completed⟩ := Option.isSome_iff_exists.mp observed
  obtain ⟨steps, run, _, taken⟩ := Runs.execute_run _ _ _ completed
  refine ⟨steps, final, run, by rw [taken]; decide, (reconnects_backed_off false usoQueue steps final run).mpr ?_⟩
  rw [taken]
  decide

-- A lane that ends at once is acquired again without any wait.
theorem ended_lane_not_backed_off :
    ∃ steps final, Runs.Run (Supervisor.step false) (Supervisor.start usoQueue) steps final ∧
      ⟨some .lane, 0, 0⟩ ∈ callPauses .start (steps.map Prod.snd) ∧ ¬ (⟨some .lane, 0, 0⟩ : Pause).BackedOff := by
  have observed : (Runs.execute (Supervisor.step false) (fun _ _ => True) (Supervisor.start usoQueue)
      (relaneSteps false false)).isSome = true := by
    decide +kernel
  obtain ⟨final, completed⟩ := Option.isSome_iff_exists.mp observed
  obtain ⟨steps, run, _, taken⟩ := Runs.execute_run _ _ _ completed
  refine ⟨steps, final, run, by rw [taken]; decide, fun backed => ?_⟩
  exact absurd (backed.floor (by simp)) (by decide)

end Packethose
