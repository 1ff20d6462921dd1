import Packethose.Lib.Runs
import Packethose.HandshakeAgreement

set_option autoImplicit false

namespace Packethose

def backoffInitial : Nat := 250 * 1000000
def backoffMax : Nat := 30 * 1000000000

-- A queue of the kernel device. uso is the part of the offload mask that
-- TUNSETOFFLOAD last set; the probe behind usoOK needs the virtio header.
structure KernelTUN where
  vnetHdr : Bool
  usoOK : Bool
  uso : Bool
  probed : usoOK = true → vnetHdr = true

inductive UsoError where
  | vnetHdrRequired
  | unsupported
deriving DecidableEq, Repr

def UsoError.text : UsoError → String
  | .vnetHdrRequired => "USO requires vnet_hdr"
  | .unsupported => "USO not supported by this kernel"

namespace KernelTUN

def openTunQueue (vnetHdr kernelUSO : Bool) : KernelTUN where
  vnetHdr := vnetHdr
  usoOK := vnetHdr && kernelUSO
  uso := false
  probed := fun both => (Bool.and_eq_true_iff.mp both).1

def tunSetOffload (q : KernelTUN) (uso : Bool) : KernelTUN := { q with uso := uso }

def setUSO (q : KernelTUN) (enable : Bool) : Except UsoError KernelTUN :=
  if q.vnetHdr = false then if enable then .error .vnetHdrRequired else .ok q
  else if enable && !q.usoOK then .error .unsupported
  else .ok (q.tunSetOffload enable)

end KernelTUN

def localUSO (queues : List KernelTUN) : Bool := queues.all KernelTUN.usoOK && !queues.isEmpty

def nextBackoff (d : Nat) : Nat := if d * 2 > backoffMax then backoffMax else d * 2

inductive SupervisorPoint where
  | top
  | acquiring
  | waiting (wait : Nat)
  | up (ident : KeyedIdentity)
  | stopped
deriving DecidableEq

-- runSupervised over one queue; acquired is the history of what the handshakes
-- of its connections negotiated.
structure Supervisor where
  queue : KernelTUN
  backoff : Nat
  notified : Bool
  point : SupervisorPoint
  acquired : List Bool

inductive SupervisorAction where
  | call
  | acquireFailed
  | acquired (ident : KeyedIdentity)
  | waited (slept : Nat)
  | laneEnded
  | cancelled

namespace Supervisor

def start (queue : KernelTUN) : Supervisor :=
  { queue
    backoff := backoffInitial
    notified := false
    point := .top
    acquired := [] }

-- A failing SetUSO is logged and the lane comes up all the same.
def enableUSO (queue : KernelTUN) (ident : KeyedIdentity) : KernelTUN :=
  if ident.usoEnabled then (queue.setUSO true).toOption.getD queue else queue

def laneUp (onAssign : Bool) (st : Supervisor) (ident : KeyedIdentity) : Supervisor :=
  { queue := enableUSO st.queue ident
    backoff := backoffInitial
    notified := st.notified || (onAssign && ident.hasAssignment)
    point := .up ident
    acquired := st.acquired ++ [ident.usoEnabled] }

def setPoint (st : Supervisor) (point : SupervisorPoint) : Supervisor := { st with point := point }

def step (onAssign : Bool) (st : Supervisor) : SupervisorAction → Option Supervisor
  | .call => if st.point = .top then some (st.setPoint .acquiring) else none
  | .acquireFailed =>
      if st.point = .acquiring then
        some { st with point := .waiting st.backoff, backoff := nextBackoff st.backoff }
      else none
  | .acquired ident => if st.point = .acquiring then some (st.laneUp onAssign ident) else none
  | .waited slept =>
      match st.point with
      | .waiting wait => if wait ≤ slept ∧ slept ≤ wait + wait / 4 then some (st.setPoint .top) else none
      | _ => none
  | .laneEnded =>
      match st.point with
      | .up _ => some (st.setPoint .top)
      | _ => none
  | .cancelled =>
      match st.point with
      | .up _ => none
      | _ => some (st.setPoint .stopped)

end Supervisor

theorem initiate_uso (prim : Primitives) (lib : NoiseLib) (c : Initiator) (incoming : Bytes) (ident : KeyedIdentity)
    (initiated : initiateHandshake prim lib c incoming = .ok ident) (uso : ident.usoEnabled = true) : c.localUSO = true := by
  obtain ⟨_, _, _, _, _, _, _, _, _, _, rfl⟩ := initiate_returned prim lib c incoming ident initiated
  exact (Bool.and_eq_true_iff.mp uso).1

theorem accept_uso (prim : Primitives) (lib : NoiseLib) (s : Acceptor) (incoming : Bytes) (ident : KeyedIdentity) (reply : Bytes)
    (accepted : acceptHandshake prim lib s incoming = .ok (ident, reply)) (uso : ident.usoEnabled = true) :
    s.localUSO = true := by
  obtain ⟨_, _, _, _, _, _, _, _, _, rfl⟩ := accept_returned prim lib s incoming ident reply accepted
  exact (Bool.and_eq_true_iff.mp uso).1

namespace Supervisor

def Negotiated (queues : List KernelTUN) (_ : Supervisor) : SupervisorAction → Prop
  | .acquired ident => ident.usoEnabled = true → localUSO queues = true
  | _ => True

structure Tracks (queues : List KernelTUN) (st : Supervisor) : Prop where
  usable : localUSO queues = true → st.queue.usoOK = true
  mask : st.queue.uso = st.acquired.any id
  current : ∀ ident, st.point = .up ident → st.acquired.getLast? = some ident.usoEnabled

inductive Move (onAssign : Bool) (st : Supervisor) : SupervisorAction → Supervisor → Prop where
  | call (top : st.point = .top) : Move onAssign st .call (st.setPoint .acquiring)
  | acquireFailed (acquiring : st.point = .acquiring) :
      Move onAssign st .acquireFailed { st with point := .waiting st.backoff, backoff := nextBackoff st.backoff }
  | acquired (ident : KeyedIdentity) (acquiring : st.point = .acquiring) :
      Move onAssign st (.acquired ident) (st.laneUp onAssign ident)
  | waited (wait slept : Nat) (waiting : st.point = .waiting wait) (lower : wait ≤ slept) (upper : slept ≤ wait + wait / 4) :
      Move onAssign st (.waited slept) (st.setPoint .top)
  | laneEnded (ident : KeyedIdentity) (up : st.point = .up ident) : Move onAssign st .laneEnded (st.setPoint .top)
  | cancelled : Move onAssign st .cancelled (st.setPoint .stopped)

theorem step_move (onAssign : Bool) (st next : Supervisor) (action : SupervisorAction)
    (taken : step onAssign st action = some next) : Move onAssign st action next := by
  cases action with
  | call =>
      simp only [step] at taken
      split_ifs at taken with top
      cases taken
      exact .call top
  | acquireFailed =>
      simp only [step] at taken
      split_ifs at taken with acquiring
      cases taken
      exact .acquireFailed acquiring
  | acquired ident =>
      simp only [step] at taken
      split_ifs at taken with acquiring
      cases taken
      exact .acquired ident acquiring
  | waited slept =>
      simp only [step] at taken
      split at taken
      · rename_i wait waiting
        split_ifs at taken with within
        cases taken
        exact .waited wait slept waiting within.1 within.2
      · cases taken
  | laneEnded =>
      simp only [step] at taken
      split at taken
      · rename_i ident up
        cases taken
        exact .laneEnded ident up
      · cases taken
  | cancelled =>
      simp only [step] at taken
      split at taken
      · cases taken
      · cases taken
        exact .cancelled

theorem step_cases (onAssign : Bool) (st next : Supervisor) (action : SupervisorAction)
    (taken : step onAssign st action = some next) :
    (∃ ident, action = .acquired ident ∧ next = st.laneUp onAssign ident) ∨
      (next.queue = st.queue ∧ next.acquired = st.acquired ∧ ∀ ident, next.point ≠ .up ident) := by
  cases step_move onAssign st next action taken with
  | acquired ident => exact .inl ⟨ident, rfl, rfl⟩
  | call | acquireFailed | waited | laneEnded | cancelled => exact .inr ⟨rfl, rfl, fun _ same => by cases same⟩

theorem enable_uso_able (queue : KernelTUN) (ident : KeyedIdentity) (able : ident.usoEnabled = true → queue.usoOK = true) :
    (enableUSO queue ident).uso = (queue.uso || ident.usoEnabled) ∧ (enableUSO queue ident).usoOK = queue.usoOK := by
  unfold enableUSO
  cases uso : ident.usoEnabled with
  | false => simp
  | true =>
      have ok := able uso
      have header := queue.probed ok
      simp [KernelTUN.setUSO, header, ok, KernelTUN.tunSetOffload, Except.toOption]

theorem tracks_preserved (onAssign : Bool) (queues : List KernelTUN) :
    Runs.Preserved (step onAssign) (Negotiated queues) (Tracks queues) := by
  intro st action next tracks negotiated taken
  rcases step_cases onAssign st next action taken with ⟨ident, rfl, rfl⟩ | ⟨queue, acquired, down⟩
  · obtain ⟨mask, able⟩ := enable_uso_able st.queue ident fun uso => tracks.usable (negotiated uso)
    refine ⟨fun usable => able.trans (tracks.usable usable), ?_, fun current same => ?_⟩
    · rw [laneUp, mask, tracks.mask]
      simp
    · obtain rfl := SupervisorPoint.up.inj same
      simp [laneUp]
  · exact ⟨queue ▸ tracks.usable, by rw [queue, acquired, tracks.mask], fun ident same => absurd same (down ident)⟩

def Agrees (st : Supervisor) : Prop :=
  ∀ ident, st.point = .up ident → (st.queue.uso = true ↔ ident.usoEnabled = true)

def NeverLost (negotiated : List Bool) : Prop := negotiated.Pairwise fun earlier later => earlier = true → later = true

theorem never_lost_concat (negotiated : List Bool) (last : Bool) :
    NeverLost (negotiated ++ [last]) ↔ NeverLost negotiated ∧ (negotiated.any id = true → last = true) := by
  simp only [NeverLost, List.pairwise_append, List.pairwise_singleton, true_and, List.mem_singleton, forall_eq,
    List.any_eq_true, id_eq, exists_eq_right, and_congr_right_iff]
  intro _
  constructor
  · exact fun each any => each true any rfl
  · rintro whole earlier member rfl
    exact whole member

theorem agrees_never_lost (queues : List KernelTUN) (st : Supervisor) (tracks : Tracks queues st) (kept : NeverLost st.acquired) :
    Agrees st := by
  intro ident same
  obtain ⟨before, split⟩ := List.getLast?_eq_some_iff.mp (tracks.current ident same)
  rw [split, never_lost_concat] at kept
  rw [tracks.mask, split]
  simp only [List.any_append, List.any_cons, List.any_nil, Bool.or_false, id_eq, Bool.or_eq_true]
  exact ⟨fun either => either.elim kept.2 id, .inr⟩

theorem never_lost_preserved (onAssign : Bool) (queues : List KernelTUN) :
    Runs.Preserved (step onAssign)
      (fun st action => Negotiated queues st action ∧ ∀ next, step onAssign st action = some next → Agrees next)
      (fun st => Tracks queues st ∧ NeverLost st.acquired) := by
  rintro st action next ⟨tracks, kept⟩ ⟨negotiated, agrees⟩ taken
  refine ⟨tracks_preserved onAssign queues st action next tracks negotiated taken, ?_⟩
  rcases step_cases onAssign st next action taken with ⟨ident, rfl, rfl⟩ | ⟨_, acquired, _⟩
  · have mask := (enable_uso_able st.queue ident fun uso => tracks.usable (negotiated uso)).1
    refine (never_lost_concat st.acquired ident.usoEnabled).mpr ⟨kept, fun any => ?_⟩
    refine (agrees _ taken ident rfl).mp ?_
    rw [laneUp, mask, tracks.mask, any, Bool.true_or]
  · exact acquired ▸ kept

theorem acquired_grows (onAssign : Bool) (st : Supervisor) (action : SupervisorAction) (next : Supervisor)
    (taken : step onAssign st action = some next) : st.acquired <+: next.acquired := by
  rcases step_cases onAssign st next action taken with ⟨ident, _, rfl⟩ | ⟨_, acquired, _⟩
  · exact List.prefix_append _ _
  · exact acquired ▸ List.prefix_refl _

-- Offload is switched on and never off again, so the queue is right in every
-- state exactly when no connection without USO follows one with it.
theorem uso_as_negotiated (onAssign : Bool) (queues : List KernelTUN) (queue : KernelTUN) (member : queue ∈ queues)
    (opened : queue.uso = false) (trace : List (Supervisor × SupervisorAction)) (final : Supervisor)
    (run : Runs.Run (step onAssign) (start queue) trace final) (negotiated : Runs.Allowed (Negotiated queues) trace) :
    (∀ st, Runs.Visited trace final st → ∀ ident, st.point = .up ident → (st.queue.uso = true ↔ ident.usoEnabled = true)) ↔
      final.acquired.Pairwise (fun earlier later => earlier = true → later = true) := by
  have initial : Tracks queues (start queue) := by
    refine ⟨fun usable => ?_, opened, fun ident same => by cases same⟩
    exact List.all_eq_true.mp (Bool.and_eq_true_iff.mp usable).1 queue member
  constructor
  · intro agrees
    refine (Runs.run_invariant (never_lost_preserved onAssign queues) run (fun entry inside => ?_)
      ⟨initial, List.Pairwise.nil⟩).1.2
    exact ⟨negotiated entry inside, fun next taken => agrees next (Runs.visited_next run entry inside taken)⟩
  · intro kept st visited
    have grown : st.acquired <+: final.acquired :=
      Runs.visited_until (fun before after : Supervisor => before.acquired <+: after.acquired) (fun _ => List.prefix_refl _)
        (fun _ _ _ => List.IsPrefix.trans) (acquired_grows onAssign) run visited
    exact agrees_never_lost queues st (Runs.visited_invariant (tracks_preserved onAssign queues) run negotiated initial visited)
      (kept.sublist grown.sublist)

end Supervisor

def plainIdentity (uso : Bool) : KeyedIdentity where
  clientID := zeroClientID
  pubKey := []
  laneCount := 1
  userName := ""
  assigned4 := .zero
  prefix4 := 0
  assigned6 := .zero
  prefix6 := 0
  keys := ⟨true, cipherAESGCM, [], []⟩
  usoEnabled := uso
  peer4 := .zero
  peer6 := .zero

def usoQueue : KernelTUN := .openTunQueue true true

def relaneSteps (first second : Bool) : List SupervisorAction :=
  [.call, .acquired (plainIdentity first), .laneEnded, .call, .acquired (plainIdentity second)]

instance (queues : List KernelTUN) (st : Supervisor) (action : SupervisorAction) :
    Decidable (Supervisor.Negotiated queues st action) := by
  unfold Supervisor.Negotiated
  split <;> infer_instance

theorem uso_as_negotiated_upgrade :
    ∃ trace final, Runs.Run (Supervisor.step false) (Supervisor.start usoQueue) trace final ∧
      final.acquired = [false, true] ∧ final.point = .up (plainIdentity true) ∧ final.queue.uso = true := by
  have observed : (Runs.execute (Supervisor.step false) (Supervisor.Negotiated [usoQueue]) (Supervisor.start usoQueue)
      (relaneSteps false true)).map (fun st => (st.acquired, st.point)) =
      some ([false, true], .up (plainIdentity true)) := by
    decide +kernel
  obtain ⟨trace, final, run, negotiated, _, view⟩ := Runs.execute_seen _ _ _ _ observed
  obtain ⟨acquired, point⟩ := Prod.mk.inj view
  have agrees := (Supervisor.uso_as_negotiated false [usoQueue] usoQueue (by simp) rfl trace final run negotiated).mpr
    (by rw [show final.acquired = _ from acquired]; simp)
  exact ⟨trace, final, run, acquired, point, (agrees final (.inl rfl) _ point).mpr rfl⟩

theorem uso_outlives_connection :
    ∃ trace final, Runs.Run (Supervisor.step false) (Supervisor.start usoQueue) trace final ∧
      Runs.Allowed (Supervisor.Negotiated [usoQueue]) trace ∧ final.acquired = [true, false] ∧
      final.point = .up (plainIdentity false) ∧ final.queue.uso = true := by
  have observed : (Runs.execute (Supervisor.step false) (Supervisor.Negotiated [usoQueue]) (Supervisor.start usoQueue)
      (relaneSteps true false)).map (fun st => (st.acquired, st.point, st.queue.uso)) =
      some ([true, false], .up (plainIdentity false), true) := by
    decide +kernel
  obtain ⟨trace, final, run, negotiated, _, view⟩ := Runs.execute_seen _ _ _ _ observed
  simp only [Prod.mk.injEq] at view
  exact ⟨trace, final, run, negotiated, view⟩

end Packethose
