import Mathlib.Data.List.Basic

set_option autoImplicit false

namespace Runs

universe u v

variable {State : Type u} {Action : Type v}

-- A machine refuses an action by returning none. A run records every action
-- together with the state it was taken in, so that a condition on steps may
-- speak of the state before the step.
inductive Run (step : State → Action → Option State) : State → List (State × Action) → State → Prop where
  | nil (state : State) : Run step state [] state
  | cons (state next final : State) (action : Action) (rest : List (State × Action))
      (taken : step state action = some next) (tail : Run step next rest final) :
      Run step state ((state, action) :: rest) final

def Allowed (guard : State → Action → Prop) (trace : List (State × Action)) : Prop :=
  ∀ entry ∈ trace, guard entry.1 entry.2

def Reach (step : State → Action → Option State) (guard : State → Action → Prop) (start state : State) : Prop :=
  ∃ trace, Run step start trace state ∧ Allowed guard trace

def Preserved (step : State → Action → Option State) (guard : State → Action → Prop) (inv : State → Prop) : Prop :=
  ∀ state action next, inv state → guard state action → step state action = some next → inv next

def Visited (trace : List (State × Action)) (final state : State) : Prop :=
  state = final ∨ ∃ action, (state, action) ∈ trace

def execute (step : State → Action → Option State) (guard : State → Action → Prop)
    [∀ state action, Decidable (guard state action)] : State → List Action → Option State
  | state, [] => some state
  | state, action :: rest =>
      if guard state action then (step state action).bind fun next => execute step guard next rest else none

section Invariants

variable {step : State → Action → Option State} {guard : State → Action → Prop} {inv : State → Prop}

theorem run_invariant {start final : State} {trace : List (State × Action)} (preserved : Preserved step guard inv)
    (run : Run step start trace final) (allowed : Allowed guard trace) (initial : inv start) :
    inv final ∧ ∀ entry ∈ trace, inv entry.1 := by
  induction run with
  | nil state => exact ⟨initial, by simp⟩
  | cons state next final action rest taken tail ih =>
      have here : guard state action := allowed (state, action) (by simp)
      have later : Allowed guard rest := fun entry member => allowed entry (by simp [member])
      obtain ⟨last, visited⟩ := ih later (preserved state action next initial here taken)
      refine ⟨last, fun entry member => ?_⟩
      rcases List.mem_cons.mp member with same | inside
      · exact same ▸ initial
      · exact visited entry inside

theorem visited_invariant {start final state : State} {trace : List (State × Action)} (preserved : Preserved step guard inv)
    (run : Run step start trace final) (allowed : Allowed guard trace) (initial : inv start)
    (visited : Visited trace final state) : inv state := by
  obtain ⟨last, earlier⟩ := run_invariant preserved run allowed initial
  rcases visited with same | ⟨action, member⟩
  · exact same ▸ last
  · exact earlier (state, action) member

theorem visited_start {start final : State} {trace : List (State × Action)} (run : Run step start trace final) :
    Visited trace final start := by
  cases run with
  | nil => exact .inl rfl
  | cons _ next _ action rest taken tail => exact .inr ⟨action, by simp⟩

theorem run_taken {start final : State} {trace : List (State × Action)} (run : Run step start trace final)
    (entry : State × Action) (member : entry ∈ trace) : ∃ next, step entry.1 entry.2 = some next := by
  induction run with
  | nil => cases member
  | cons state next final action rest taken tail ih =>
      rcases List.mem_cons.mp member with same | inside
      · exact ⟨next, same ▸ taken⟩
      · exact ih inside

theorem visited_next {start final next : State} {trace : List (State × Action)} (run : Run step start trace final)
    (entry : State × Action) (member : entry ∈ trace) (taken : step entry.1 entry.2 = some next) :
    Visited trace final next := by
  induction run with
  | nil => cases member
  | cons state after final action rest stepped tail ih =>
      have later : ∀ found, Visited rest final found → Visited ((state, action) :: rest) final found := fun found =>
        Or.imp id fun ⟨last, inside⟩ => ⟨last, List.mem_cons_of_mem _ inside⟩
      rcases List.mem_cons.mp member with same | inside
      · subst same
        obtain rfl : after = next := Option.some.inj (stepped.symm.trans taken)
        exact later after (visited_start tail)
      · exact later next (ih inside)

theorem run_until (rel : State → State → Prop) (refl : ∀ state, rel state state)
    (trans : ∀ first second third, rel first second → rel second third → rel first third)
    (stepped : ∀ state action next, step state action = some next → rel state next)
    {start final : State} {trace : List (State × Action)} (run : Run step start trace final) : rel start final := by
  induction run with
  | nil state => exact refl state
  | cons first next final action rest taken tail ih => exact trans first next final (stepped first action next taken) ih

theorem visited_until (rel : State → State → Prop) (refl : ∀ state, rel state state)
    (trans : ∀ first second third, rel first second → rel second third → rel first third)
    (stepped : ∀ state action next, step state action = some next → rel state next)
    {start final state : State} {trace : List (State × Action)} (run : Run step start trace final)
    (visited : Visited trace final state) : rel state final := by
  induction run with
  | nil last =>
      rcases visited with rfl | ⟨_, member⟩
      · exact refl _
      · cases member
  | cons first next final action rest taken tail ih =>
      rcases visited with rfl | ⟨last, member⟩
      · exact refl _
      · rcases List.mem_cons.mp member with same | inside
        · obtain ⟨rfl, _⟩ := Prod.mk.inj same
          exact trans state next final (stepped state action next taken) (run_until rel refl trans stepped tail)
        · exact ih (.inr ⟨last, inside⟩)

theorem reach_invariant {start state : State} (preserved : Preserved step guard inv)
    (reached : Reach step guard start state) (initial : inv start) : inv state := by
  obtain ⟨trace, run, allowed⟩ := reached
  exact (run_invariant preserved run allowed initial).1

theorem reach_onward {start state final : State} {trace : List (State × Action)} (reached : Reach step guard start state)
    (run : Run step state trace final) (allowed : Allowed guard trace) : Reach step guard start final := by
  obtain ⟨before, first, permitted⟩ := reached
  induction first with
  | nil => exact ⟨trace, run, allowed⟩
  | cons start next state action rest taken _ ih =>
      obtain ⟨whole, joined, kept⟩ := ih run fun entry member => permitted entry (List.mem_cons_of_mem _ member)
      refine ⟨(start, action) :: whole, .cons start next final action whole taken joined, fun entry member => ?_⟩
      rcases List.mem_cons.mp member with rfl | later
      · exact permitted _ List.mem_cons_self
      · exact kept entry later

theorem execute_run [∀ state action, Decidable (guard state action)] (start final : State) (actions : List Action)
    (completed : execute step guard start actions = some final) :
    ∃ trace, Run step start trace final ∧ Allowed guard trace ∧ trace.map Prod.snd = actions := by
  induction actions generalizing start with
  | nil =>
      obtain rfl : start = final := Option.some.inj completed
      exact ⟨[], .nil start, by simp [Allowed], rfl⟩
  | cons action rest ih =>
      rw [execute] at completed
      split_ifs at completed with permitted
      obtain ⟨next, taken, continued⟩ := Option.bind_eq_some_iff.mp completed
      obtain ⟨trace, run, allowed, same⟩ := ih next continued
      refine ⟨(start, action) :: trace, .cons start next final action trace taken run, fun entry member => ?_, by simp [same]⟩
      rcases List.mem_cons.mp member with same | inside
      · exact same ▸ permitted
      · exact allowed entry inside

theorem execute_reach [∀ state action, Decidable (guard state action)] (start final : State) (actions : List Action)
    (completed : execute step guard start actions = some final) : Reach step guard start final := by
  obtain ⟨trace, run, allowed, _⟩ := execute_run start final actions completed
  exact ⟨trace, run, allowed⟩

theorem execute_seen {View : Type u} [∀ state action, Decidable (guard state action)] (view : State → View) (seen : View)
    (start : State) (actions : List Action) (observed : (execute step guard start actions).map view = some seen) :
    ∃ trace final, Run step start trace final ∧ Allowed guard trace ∧ trace.map Prod.snd = actions ∧ view final = seen := by
  obtain ⟨final, completed, same⟩ := Option.map_eq_some_iff.mp observed
  obtain ⟨trace, run, allowed, taken⟩ := execute_run start final actions completed
  exact ⟨trace, final, run, allowed, taken, same⟩

theorem run_simulated {Other : Type u} {other : Other → Action → Option Other} (view : State → Other)
    (preserved : Preserved step guard inv)
    (simulated : ∀ state action next, inv state → guard state action → step state action = some next →
      other (view state) action = some (view next))
    {start final : State} {trace : List (State × Action)} (run : Run step start trace final) (allowed : Allowed guard trace)
    (initial : inv start) : Run other (view start) (trace.map fun entry => (view entry.1, entry.2)) (view final) := by
  induction run with
  | nil state => exact .nil (view state)
  | cons state next final action rest taken tail ih =>
      have here : guard state action := allowed (state, action) (by simp)
      have later : Allowed guard rest := fun entry member => allowed entry (by simp [member])
      exact .cons (view state) (view next) (view final) action _ (simulated state action next initial here taken)
        (ih later (preserved state action next initial here taken))

theorem run_spends (measure : State → Nat) (counted : Action → Bool) (preserved : Preserved step guard inv)
    (spends : ∀ state action next, inv state → step state action = some next →
      (if counted action then 1 else 0) + measure next ≤ measure state)
    {start final : State} {trace : List (State × Action)} (run : Run step start trace final) (allowed : Allowed guard trace)
    (initial : inv start) : trace.countP (fun entry => counted entry.2) + measure final ≤ measure start := by
  induction run with
  | nil state => simp
  | cons first next final action rest taken tail ih =>
      have kept := preserved first action next initial (allowed (first, action) (List.mem_cons_self ..)) taken
      have later := ih (fun entry member => allowed entry (List.mem_cons_of_mem _ member)) kept
      have now := spends first action next initial taken
      simp only [List.countP_cons]
      omega

theorem reach_settles (measure : State → Nat) (settled : State → Prop)
    (progress : ∀ state, inv state → ¬ settled state →
      ∃ action next, guard state action ∧ step state action = some next ∧ inv next ∧ measure next < measure state)
    (start : State) (initial : inv start) : ∃ final, Reach step guard start final ∧ inv final ∧ settled final := by
  induction left : measure start using Nat.strongRecOn generalizing start with
  | ind bound ih =>
      by_cases done : settled start
      · exact ⟨start, ⟨[], .nil start, by simp [Allowed]⟩, initial, done⟩
      · obtain ⟨action, next, permitted, taken, kept, nearer⟩ := progress start initial done
        obtain ⟨final, ⟨trace, run, allowed⟩, last, finished⟩ := ih (measure next) (left ▸ nearer) next kept rfl
        refine ⟨final, ⟨(start, action) :: trace, .cons start next final action trace taken run, ?_⟩, last, finished⟩
        intro entry member
        rcases List.mem_cons.mp member with same | inside
        · exact same ▸ permitted
        · exact allowed entry inside

theorem run_conserves {Item : Type u} (queue log : State → List Item) (taken : State → Action → List Item)
    (stepped : ∀ state action next, step state action = some next →
      ∃ fresh, log next = log state ++ fresh ∧ queue state ++ fresh = taken state action ++ queue next)
    {start final : State} {trace : List (State × Action)} (run : Run step start trace final) :
    ∃ fresh, log final = log start ++ fresh ∧
      queue start ++ fresh = (trace.flatMap fun entry => taken entry.1 entry.2) ++ queue final := by
  induction run with
  | nil state => exact ⟨[], by simp, by simp⟩
  | cons state next final action rest moved tail ih =>
      obtain ⟨first, logged, balanced⟩ := stepped state action next moved
      obtain ⟨later, grown, kept⟩ := ih
      refine ⟨first ++ later, by rw [grown, logged, List.append_assoc], ?_⟩
      rw [← List.append_assoc, balanced, List.append_assoc, kept, List.flatMap_cons, List.append_assoc]

end Invariants

section Loops

universe w

variable {Data : Type u} {Read : Type v}

def loop (body : Data → Read → Data × Bool) : Data → List Read → Data × Bool
  | data, [] => (data, true)
  | data, read :: rest =>
      match body data read with
      | (next, true) => loop body next rest
      | (next, false) => (next, false)

theorem loop_invariant {body : Data → Read → Data × Bool} {inv : Data → Prop} (reads : List Read)
    (preserved : ∀ data, ∀ read ∈ reads, inv data → inv (body data read).1) (data : Data) (initial : inv data) :
    inv (loop body data reads).1 := by
  induction reads generalizing data with
  | nil => exact initial
  | cons read rest ih =>
      have advanced := preserved data read (by simp) initial
      rw [loop]
      split
      · rename_i next taken
        rw [taken] at advanced
        exact ih (fun other item member => preserved other item (by simp [member])) next advanced
      · rename_i next taken
        rw [taken] at advanced
        exact advanced

theorem loop_concat (body : Data → Read → Data × Bool) (data next : Data) (reads : List Read) (read : Read)
    (before : loop body data reads = (next, true)) : loop body data (reads ++ [read]) = body next read := by
  induction reads generalizing data with
  | nil =>
      obtain ⟨rfl, _⟩ := Prod.mk.inj before
      rw [List.nil_append, loop]
      generalize body data read = taken
      obtain ⟨after, continues⟩ := taken
      cases continues <;> rfl
  | cons first rest ih =>
      rw [loop] at before
      rw [List.cons_append, loop]
      generalize body data first = taken at before ⊢
      obtain ⟨after, continues⟩ := taken
      cases continues with
      | true => exact ih after before
      | false => cases before

theorem loop_map {Other : Type w} (body : Data → Read → Data × Bool) (embed : Other → Read) (data : Data)
    (reads : List Other) : loop body data (reads.map embed) = loop (fun state read => body state (embed read)) data reads := by
  induction reads generalizing data with
  | nil => rfl
  | cons read rest ih =>
      simp only [List.map_cons, loop]
      split <;> simp_all

end Loops

end Runs
