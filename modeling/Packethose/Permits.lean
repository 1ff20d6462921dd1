import Packethose.Lib.Counting
import Packethose.RateLimit
import Packethose.SessionPools

set_option autoImplicit false

namespace Packethose

namespace ConnLimiter

def acquireSlot (l : ConnLimiter) : ConnLimiter × Bool :=
  if l.disabled then (l, true)
  else if l.sem < l.semCap then ({ l with sem := l.sem + 1 }, true)
  else (l, false)

def release (l : ConnLimiter) (fired : Bool) : Option (ConnLimiter × Bool) :=
  if l.disabled then some (l, fired)
  else if fired then some (l, true)
  else if 0 < l.sem then some ({ l with sem := l.sem - 1 }, true)
  else none

section Enabled

variable (l : ConnLimiter) (enabled : l.disabled = false)
include enabled

theorem acquire_slot_free (free : l.sem < l.semCap) : l.acquireSlot = ({ l with sem := l.sem + 1 }, true) := by
  rw [acquireSlot, if_neg (by simp [enabled]), if_pos free]

theorem acquire_slot_full (full : ¬ l.sem < l.semCap) : l.acquireSlot = (l, false) := by
  rw [acquireSlot, if_neg (by simp [enabled]), if_neg full]

theorem release_again : l.release true = some (l, true) := by
  rw [release, if_neg (by simp [enabled]), if_pos rfl]

theorem release_first : l.release false = if 0 < l.sem then some ({ l with sem := l.sem - 1 }, true) else none := by
  rw [release, if_neg (by simp [enabled]), if_neg nofun]

theorem release_state (fired after : Bool) (next : ConnLimiter) (released : l.release fired = some (next, after)) :
    after = true ∧ next.sem + (if fired then 0 else 1) = l.sem ∧ next.disabled = l.disabled ∧ next.semCap = l.semCap := by
  cases fired with
  | true =>
      rw [l.release_again enabled] at released
      cases released
      exact ⟨rfl, rfl, rfl, rfl⟩
  | false =>
      rw [l.release_first enabled] at released
      split_ifs at released with held
      cases released
      exact ⟨rfl, Nat.sub_add_cancel held, rfl, rfl⟩

end Enabled

end ConnLimiter

-- What handleConn holds besides its connection: the once of releaseSlot and
-- how often that was called, whether the call behind the handshake was made,
-- and whether the deferred one was.
structure Grant where
  fired : Bool
  calls : Nat
  freed : Bool
  returned : Bool
deriving DecidableEq

def Grant.fresh : Grant := ⟨false, 0, false, false⟩

def Grant.called (fired : Bool) (g : Grant) : Grant := { g with fired := fired, calls := g.calls + 1 }

inductive Intake where
  | rejected
  | rateLimited
  | slotsFull
  | granted
deriving DecidableEq

structure IntakeState where
  limiter : ConnLimiter
  mc : MCState
  grants : List Grant

inductive IntakeAction where
  | incoming (call : LimiterCall) (input : Bytes)
  | handler (action : Action)
  | free (conn : Nat)
  | release (conn : Nat)
  | finish (conn : Nat)

namespace IntakeState

def turn (allow : String) (st : IntakeState) (call : LimiterCall) (input : Bytes) : IntakeState × Intake :=
  if allow ≠ "" ∧ call.ip ≠ allow then (st, .rejected)
  else
    let (limiter, allowed) := st.limiter.allowIP call
    if !allowed then ({ st with limiter := limiter }, .rateLimited)
    else
      let (limiter, ok) := limiter.acquireSlot
      if !ok then ({ st with limiter := limiter }, .slotsFull)
      else (⟨limiter, st.mc.accept input, st.grants ++ [.fresh]⟩, .granted)

def callRelease (st : IntakeState) (conn : Nat) : Option IntakeState :=
  (st.grants[conn]?).bind fun g =>
    (st.limiter.release g.fired).map fun (limiter, fired) =>
      { st with limiter := limiter, grants := st.grants.modify conn (Grant.called fired) }

def mark (st : IntakeState) (conn : Nat) (change : Grant → Grant) : IntakeState :=
  { st with grants := st.grants.modify conn change }

def runs (st : IntakeState) : Action → Bool
  | .accept _ => false
  | .acquire conn _ => ((st.grants[conn]?).map Grant.freed).getD false
  | _ => true

def freeing (st : IntakeState) (conn : Nat) : Bool :=
  match st.mc.pointOf conn, st.grants[conn]? with
  | some (.admitted _), some g => !g.freed
  | _, _ => false

def returning (st : IntakeState) (conn : Nat) : Bool :=
  match st.mc.pointOf conn, st.grants[conn]? with
  | some .closed, some g => !g.returned
  | _, _ => false

def step (env : Env) (allow : String) (st : IntakeState) : IntakeAction → Option IntakeState
  | .incoming call input => some (st.turn allow call input).1
  | .handler action => if st.runs action then (st.mc.step env action).map fun mc => { st with mc := mc } else none
  | .free conn =>
      if st.freeing conn then (st.callRelease conn).map fun next => next.mark conn fun g => { g with freed := true } else none
  | .release conn => st.callRelease conn
  | .finish conn =>
      if st.returning conn then (st.callRelease conn).map fun next => next.mark conn fun g => { g with returned := true } else none

def start (cfg : RateLimitConfig) (mc : MCState) : IntakeState := ⟨newConnLimiter cfg, mc, []⟩

def Holds (st : IntakeState) (conn : Nat) : Prop := ∃ g, st.grants[conn]? = some g ∧ g.calls = 0

def outstanding (st : IntakeState) : Nat := st.grants.countP fun g => g.calls == 0

structure Conserved (env : Env) (allow : String) (m : Nat) (st : IntakeState) : Prop where
  occupied : st.limiter.sem = st.outstanding
  bounded : st.limiter.sem ≤ m
  refused : ∀ call input, (st.turn allow call input).2 = .slotsFull → st.outstanding = m
  released : ∀ (conn : Nat) (g : Grant), st.grants[conn]? = some g → ∃ next, st.callRelease conn = some next ∧
    next.limiter.sem + (if g.calls = 0 then 1 else 0) = st.limiter.sem ∧ ∀ other, next.Holds other ↔ st.Holds other ∧ other ≠ conn
  freed : ∀ conn, st.freeing conn = true → (st.step env allow (.free conn)).isSome = true
  deferred : ∀ conn, st.returning conn = true → (st.step env allow (.finish conn)).isSome = true
  finished : (∀ g ∈ st.grants, g.returned = true) → st.limiter.sem = 0

inductive Effect (st next : IntakeState) : Prop where
  | kept (grants : next.grants = st.grants) (sem : next.limiter.sem = st.limiter.sem)
  | granted (grants : next.grants = st.grants ++ [.fresh]) (free : st.limiter.sem < st.limiter.semCap)
      (sem : next.limiter.sem = st.limiter.sem + 1)
  | called (conn : Nat) (g : Grant) (change : Grant → Grant) (found : st.grants[conn]? = some g)
      (grants : next.grants = st.grants.modify conn change) (counted : (change g).calls = g.calls + 1)
      (fired : (change g).fired = true) (sem : next.limiter.sem + (if g.fired then 0 else 1) = st.limiter.sem)

def SameLimits (st next : IntakeState) : Prop :=
  next.limiter.disabled = st.limiter.disabled ∧ next.limiter.semCap = st.limiter.semCap

section Steps

variable {st next : IntakeState} (enabled : st.limiter.disabled = false)
include enabled

theorem turn_effect (allow : String) (call : LimiterCall) (input : Bytes) :
    Effect st (st.turn allow call input).1 ∧ SameLimits st (st.turn allow call input).1 ∧
      ((st.turn allow call input).2 = .slotsFull → st.limiter.semCap ≤ st.limiter.sem) := by
  obtain ⟨disabled, _, _, _, cap, sem⟩ := st.limiter.allow_settings call
  unfold turn
  generalize st.limiter.allowIP call = answer at *
  obtain ⟨limiter, allowed⟩ := answer
  dsimp only at disabled cap sem ⊢
  by_cases free : limiter.sem < limiter.semCap
  · rw [limiter.acquire_slot_free (disabled.trans enabled) free]
    split_ifs with rejected limited full
    · exact ⟨.kept rfl rfl, ⟨rfl, rfl⟩, nofun⟩
    · exact ⟨.kept rfl sem, ⟨disabled, cap⟩, nofun⟩
    · cases full
    · exact ⟨.granted rfl (sem ▸ cap ▸ free) (congrArg (· + 1) sem), ⟨disabled, cap⟩, nofun⟩
  · rw [limiter.acquire_slot_full (disabled.trans enabled) free]
    split_ifs with rejected limited full
    · exact ⟨.kept rfl rfl, ⟨rfl, rfl⟩, nofun⟩
    · exact ⟨.kept rfl sem, ⟨disabled, cap⟩, nofun⟩
    · exact ⟨.kept rfl sem, ⟨disabled, cap⟩, fun _ => by omega⟩
    · exact absurd rfl full

theorem call_release_effect (conn : Nat) (taken : st.callRelease conn = some next) (change : Grant → Grant)
    (marks : ∀ g, (change g).calls = g.calls ∧ (change g).fired = g.fired) :
    Effect st (next.mark conn change) ∧ SameLimits st (next.mark conn change) := by
  obtain ⟨g, found, after⟩ := Option.bind_eq_some_iff.mp taken
  obtain ⟨⟨limiter, fired⟩, released, rfl⟩ := Option.map_eq_some_iff.mp after
  have grants : (st.grants.modify conn (Grant.called fired)).modify conn change = st.grants.modify conn (change ∘ Grant.called fired) :=
    List.modify_modify_eq ..
  obtain ⟨rfl, sem, limits⟩ := st.limiter.release_state enabled g.fired fired limiter released
  exact ⟨.called conn g (change ∘ Grant.called true) found grants (marks _).1 (marks _).2 sem, limits⟩

theorem marked_effect (conn : Nat) (due : Bool) (change : Grant → Grant)
    (marks : ∀ g, (change g).calls = g.calls ∧ (change g).fired = g.fired)
    (taken : (if due then (st.callRelease conn).map fun called => called.mark conn change else none) = some next) :
    Effect st next ∧ SameLimits st next := by
  split_ifs at taken
  obtain ⟨called, release, rfl⟩ := Option.map_eq_some_iff.mp taken
  exact call_release_effect enabled conn release change marks

theorem step_effect (env : Env) (allow : String) (action : IntakeAction) (taken : st.step env allow action = some next) :
    Effect st next ∧ SameLimits st next := by
  cases action with
  | incoming call input =>
      obtain rfl : (st.turn allow call input).1 = next := Option.some.inj taken
      obtain ⟨effect, limits, _⟩ := turn_effect enabled allow call input
      exact ⟨effect, limits⟩
  | handler action =>
      rw [step] at taken
      split_ifs at taken
      obtain ⟨mc, _, rfl⟩ := Option.map_eq_some_iff.mp taken
      exact ⟨.kept rfl rfl, rfl, rfl⟩
  | free conn => exact marked_effect enabled conn (st.freeing conn) (fun g => { g with freed := true }) (fun _ => ⟨rfl, rfl⟩) taken
  | release conn =>
      have unmarked : next.mark conn id = next := by rw [mark, List.modify_id]
      exact unmarked ▸ call_release_effect enabled conn taken id fun _ => ⟨rfl, rfl⟩
  | finish conn => exact marked_effect enabled conn (st.returning conn) (fun g => { g with returned := true }) (fun _ => ⟨rfl, rfl⟩) taken

end Steps

structure Balanced (m : Nat) (st : IntakeState) : Prop where
  enabled : st.limiter.disabled = false
  cap : st.limiter.semCap = m
  occupied : st.limiter.sem = st.outstanding
  bounded : st.limiter.sem ≤ m
  once : ∀ (conn : Nat) (g : Grant), st.grants[conn]? = some g → g.fired = decide (0 < g.calls)
  returned : ∀ (conn : Nat) (g : Grant), st.grants[conn]? = some g → g.returned = true → 0 < g.calls

theorem effect_balanced (m : Nat) (st next : IntakeState) (balanced : Balanced m st) (effect : Effect st next)
    (limits : SameLimits st next) : Balanced m next := by
  have enabled := limits.1.trans balanced.enabled
  have cap := limits.2.trans balanced.cap
  have occupied := balanced.occupied
  have bounded := balanced.bounded
  cases effect with
  | kept grants sem =>
      refine ⟨enabled, cap, ?_, sem ▸ bounded, grants ▸ balanced.once, grants ▸ balanced.returned⟩
      rw [sem, outstanding, grants]
      exact occupied
  | granted grants free sem =>
      have counted : next.outstanding = st.outstanding + 1 := by
        rw [outstanding, grants, List.countP_append]
        rfl
      have room : st.limiter.sem < m := balanced.cap ▸ free
      have held : ∀ (conn : Nat) (g : Grant), next.grants[conn]? = some g → st.grants[conn]? = some g ∨ g = Grant.fresh := by
        intro conn g found
        rw [grants, List.getElem?_append] at found
        split_ifs at found with old
        · exact .inl found
        · exact .inr (List.mem_singleton.mp (List.mem_of_getElem? found))
      refine ⟨enabled, cap, by omega, by omega, fun conn g found => ?_, fun conn g found finished => ?_⟩
      · rcases held conn g found with old | rfl
        · exact balanced.once conn g old
        · rfl
      · rcases held conn g found with old | rfl
        · exact balanced.returned conn g old finished
        · cases finished
  | called conn g change found grants counted fired sem =>
      have moved := Counting.count_modify st.grants conn change (fun g => g.calls == 0) g found
      have later : ((change g).calls == 0) = false := by simp [counted]
      have first : (g.calls == 0) = !g.fired := by
        rw [balanced.once conn g found]
        cases g.calls <;> rfl
      have total : next.outstanding + (if g.fired then 0 else 1) = st.outstanding := by
        rw [outstanding, grants, outstanding]
        rw [later, first] at moved
        cases fired : g.fired <;> simpa [fired] using moved
      have held : ∀ (other : Nat) (h : Grant), next.grants[other]? = some h → st.grants[other]? = some h ∨ h = change g := by
        intro other h stored
        rw [grants, List.getElem?_modify] at stored
        by_cases same : conn = other
        · subst same
          rw [found] at stored
          exact .inr (by simpa using stored.symm)
        · exact .inl (by simpa [same] using stored)
      refine ⟨enabled, cap, by omega, by omega, fun other h stored => ?_, fun other h stored finished => ?_⟩
      · rcases held other h stored with old | rfl
        · exact balanced.once other h old
        · simp [fired, counted]
      · rcases held other h stored with old | rfl
        · exact balanced.returned other h old finished
        · simp [counted]

theorem balanced_preserved (env : Env) (allow : String) (m : Nat) :
    Runs.Preserved (step env allow) (fun _ _ => True) (Balanced m) := by
  intro st action next balanced _ taken
  obtain ⟨effect, limits⟩ := step_effect balanced.enabled env allow action taken
  exact effect_balanced m st next balanced effect limits

theorem call_release_some (m : Nat) (st : IntakeState) (balanced : Balanced m st) (conn : Nat) (g : Grant)
    (found : st.grants[conn]? = some g) :
    ∃ next, st.callRelease conn = some next ∧ next.limiter.sem + (if g.calls = 0 then 1 else 0) = st.limiter.sem ∧
      next.grants = st.grants.modify conn (Grant.called true) := by
  have once := balanced.once conn g found
  rw [callRelease, found, Option.bind_some]
  by_cases first : g.calls = 0
  · have occupied : 0 < st.limiter.sem := by
      rw [balanced.occupied, outstanding]
      exact List.countP_pos_iff.mpr ⟨g, List.mem_of_getElem? found, by simp [first]⟩
    have unfired : g.fired = false := by rw [once, first]; rfl
    rw [unfired, st.limiter.release_first balanced.enabled, if_pos occupied, if_pos first]
    exact ⟨_, rfl, Nat.sub_add_cancel occupied, rfl⟩
  · rw [once, decide_eq_true (by omega), st.limiter.release_again balanced.enabled, if_neg first]
    exact ⟨_, rfl, rfl, rfl⟩

theorem called_holds (st next : IntakeState) (conn other : Nat) (grants : next.grants = st.grants.modify conn (Grant.called true)) :
    next.Holds other ↔ st.Holds other ∧ other ≠ conn := by
  rw [Holds, grants, List.getElem?_modify]
  by_cases same : conn = other
  · subst same
    simp only [if_true, ne_eq, not_true_eq_false, and_false, iff_false]
    rintro ⟨g, found, unused⟩
    obtain ⟨old, _, rfl⟩ := Option.map_eq_some_iff.mp found
    cases unused
  · simp [same, Ne.symm same, Holds]

theorem freeing_granted (st : IntakeState) (conn : Nat) (due : st.freeing conn = true) : (st.grants[conn]?).isSome = true := by
  unfold freeing at due
  split at due
  · next found => rw [found]; rfl
  · cases due

theorem returning_granted (st : IntakeState) (conn : Nat) (due : st.returning conn = true) :
    (st.grants[conn]?).isSome = true := by
  unfold returning at due
  split at due
  · next found => rw [found]; rfl
  · cases due

theorem balanced_conserved (env : Env) (allow : String) (m : Nat) (st : IntakeState) (balanced : Balanced m st) :
    Conserved env allow m st := by
  have called : ∀ conn, (st.grants[conn]?).isSome = true → (st.callRelease conn).isSome = true := by
    intro conn present
    obtain ⟨g, found⟩ := Option.isSome_iff_exists.mp present
    obtain ⟨next, taken, _⟩ := call_release_some m st balanced conn g found
    rw [taken]
    rfl
  refine ⟨balanced.occupied, balanced.bounded, fun call input full => ?_, fun conn g found => ?_, fun conn due => ?_,
    fun conn due => ?_, fun all => ?_⟩
  · have reached := (turn_effect balanced.enabled allow call input).2.2 full
    have cap := balanced.cap
    have occupied := balanced.occupied
    have bounded := balanced.bounded
    omega
  · obtain ⟨next, taken, sem, grants⟩ := call_release_some m st balanced conn g found
    exact ⟨next, taken, sem, fun other => called_holds st next conn other grants⟩
  · rw [step, if_pos due, Option.isSome_map]
    exact called conn (freeing_granted st conn due)
  · rw [step, if_pos due, Option.isSome_map]
    exact called conn (returning_granted st conn due)
  · rw [balanced.occupied, outstanding, List.countP_eq_zero]
    intro g member
    obtain ⟨conn, found⟩ := List.mem_iff_getElem?.mp member
    have called := balanced.returned conn g found (all g member)
    simp
    omega

theorem start_balanced (cfg : RateLimitConfig) (enabled : cfg.disabled = false) (m : Nat) (positive : 1 ≤ m)
    (capped : cfg.maxInFlight = m) (mc : MCState) : Balanced m (start cfg mc) := by
  have limiter : (newConnLimiter cfg).disabled = false ∧ (newConnLimiter cfg).semCap = m ∧ (newConnLimiter cfg).sem = 0 := by
    have given : ¬ cfg.maxInFlight ≤ 0 := by omega
    simp [newConnLimiter, enabled, capped]
    omega
  exact ⟨limiter.1, limiter.2.1, limiter.2.2, by rw [start, limiter.2.2]; omega, by simp [start], by simp [start]⟩

end IntakeState

theorem permits_conserved (env : Env) (allow : String) (cfg : RateLimitConfig) (enabled : cfg.disabled = false) (m : Nat)
    (positive : 1 ≤ m) (capped : cfg.maxInFlight = m) (pool4 pool6 : Option IPPool) (userDB : Option UserDB) (queues : Nat)
    (trace : List (IntakeState × IntakeAction)) (final : IntakeState)
    (run : Runs.Run (IntakeState.step env allow) (.start cfg (.start pool4 pool6 userDB queues)) trace final) :
    ∀ st, Runs.Visited trace final st → st.Conserved env allow m := by
  intro st visited
  have balanced := Runs.visited_invariant (IntakeState.balanced_preserved env allow m) run (fun _ _ => trivial)
    (IntakeState.start_balanced cfg enabled m positive capped _) visited
  exact IntakeState.balanced_conserved env allow m st balanced

def singlePermitSteps : List IntakeAction :=
  [IntakeAction.incoming ⟨"10.0.0.9", 0, [], []⟩ (helloBytes 0xAA), .incoming ⟨"10.0.0.9", 0, [], []⟩ []] ++
    (handshakeSteps 0 true).map IntakeAction.handler ++
    [IntakeAction.free 0, .incoming ⟨"10.0.0.9", 0, [], []⟩ [], .handler (.acquire 0 0), .handler (.attach 0 0),
      .handler (.handshake 1), .finish 1, .handler (.detach 0 0), .finish 0]

theorem permits_conserved_single :
    ∃ trace final, Runs.Run (IntakeState.step pairEnv "") (.start ⟨false, 0, 0, 1, 0⟩ pairStart) trace final ∧
      final.limiter.sem = 0 ∧ final.grants.map Grant.calls = [2, 1] ∧
      ∀ st, Runs.Visited trace final st → st.Conserved pairEnv "" 1 := by
  have observed : (Runs.execute (IntakeState.step pairEnv "") (fun _ _ => True) (.start ⟨false, 0, 0, 1, 0⟩ pairStart)
      singlePermitSteps).map (fun st => (st.limiter.sem, st.grants.map Grant.calls)) = some (0, [2, 1]) := by
    decide +kernel
  obtain ⟨trace, final, run, _, _, view⟩ := Runs.execute_seen _ _ _ singlePermitSteps observed
  obtain ⟨sem, calls⟩ := Prod.mk.inj view
  exact ⟨trace, final, run, sem, calls, permits_conserved pairEnv "" ⟨false, 0, 0, 1, 0⟩ rfl 1 (by decide) rfl _ _ _ _ trace final run⟩

end Packethose
