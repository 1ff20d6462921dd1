import Packethose.Lib.Counting
import Packethose.Lib.Runs
import Packethose.AcceptLoop
import Packethose.ServerFlags
import Packethose.Supervisor

set_option autoImplicit false

namespace Packethose

-- Dialer, TuneSocket, MPTCP and Logger are left out; onAssigned says whether the
-- hook is set.
structure ClientConfig where
  peer : String
  lanes : Int
  queues : List KernelTUN
  staticPrivateKey : Bytes
  peerPublicKey : Bytes
  cipher : Cipher
  requestIP : Addr
  requestIP6 : Addr
  onAssigned : Bool

inductive ClientProblem where
  | peerRequired
  | tooFewLanes
  | queueCount (entries : Nat) (lanes : Int)
  | privateKeyLength
  | peerKeyRequired
  | peerKeyAlone
  | privateKey (cause : String)
deriving DecidableEq

def ClientProblem.message : ClientProblem → String
  | .peerRequired => "packethose client: Peer is required"
  | .tooFewLanes => "packethose client: Lanes must be >= 1"
  | .queueCount entries lanes =>
      "packethose client: Queues has " ++ toString entries ++ " entries, expected Lanes=" ++ toString lanes
  | .privateKeyLength => "packethose client: StaticPrivateKey must be " ++ toString pubKeyLen ++ " bytes"
  | .peerKeyRequired => "packethose client: PeerPublicKey (server public key) required with StaticPrivateKey"
  | .peerKeyAlone => "packethose client: PeerPublicKey set without StaticPrivateKey"
  | .privateKey cause => "invalid private key: " ++ cause

namespace ClientConfig

def keyed (c : ClientConfig) : Bool := 0 < c.staticPrivateKey.length

def validate (c : ClientConfig) : Except ClientProblem Unit :=
  if c.peer = "" then .error .peerRequired
  else if c.lanes < 1 then .error .tooFewLanes
  else if (c.queues.length : Int) ≠ c.lanes then .error (.queueCount c.queues.length c.lanes)
  else if 0 < c.staticPrivateKey.length then
    if c.staticPrivateKey.length ≠ pubKeyLen then .error .privateKeyLength
    else if c.peerPublicKey.length ≠ pubKeyLen then .error .peerKeyRequired
    else .ok ()
  else if 0 < c.peerPublicKey.length then .error .peerKeyAlone
  else .ok ()

def request (c : ClientConfig) : AssignmentRequest where
  v4 := if c.requestIP.isValid && c.requestIP.is4 then c.requestIP else .zero
  v6 := if c.requestIP6.isValid && c.requestIP6.is6 then c.requestIP6 else .zero

end ClientConfig

structure KeyPairs where
  publicOf : Bytes → Except String Bytes

def KeyPairs.noiseStatic (pairs : KeyPairs) (priv : Bytes) : Except String DHKey :=
  (pairs.publicOf priv).map fun pub => ⟨priv, pub⟩

structure Client where
  cfg : ClientConfig
  clientID : ClientID

def newClient (prim : Primitives) (pairs : KeyPairs) (cfg : ClientConfig) : Except ClientProblem Client :=
  cfg.validate.bind fun _ =>
    if cfg.keyed then
      ((pairs.publicOf cfg.staticPrivateKey).mapError .privateKey).map fun pub => ⟨cfg, deriveClientID prim.sha256 pub⟩
    else .ok ⟨cfg, zeroClientID⟩

inductive Dial where
  | failed (cause : String)
  | connected (incoming ephemeral : Bytes) (draw : Option EnvelopeDraw) (written : Bool)

inductive SourceError where
  | dial (cause : String)
  | static (cause : String)
  | handshake (problem : InitiateError)
deriving DecidableEq

def ClientConfig.initiator (c : ClientConfig) (static : DHKey) (ephemeral : Bytes) (draw : Option EnvelopeDraw) (written : Bool) :
    Initiator where
  static := static
  serverPub := c.peerPublicKey
  cipher := c.cipher
  localUSO := localUSO c.queues
  laneCount := UInt8.ofNat c.lanes.toNat
  req := c.request
  ephemeral := ephemeral
  draw := draw
  written := written

def ClientConfig.openIdentity (c : ClientConfig) : KeyedIdentity := { KeyedIdentity.zero with laneCount := UInt8.ofNat c.lanes.toNat }

def clientSource (prim : Primitives) (lib : NoiseLib) (pairs : KeyPairs) (c : ClientConfig) : Dial → Except SourceError KeyedIdentity
  | .failed cause => .error (.dial cause)
  | .connected incoming ephemeral draw written =>
      if c.peerPublicKey.length = 0 then .ok c.openIdentity
      else
        ((pairs.noiseStatic c.staticPrivateKey).mapError .static).bind fun static =>
          (initiateHandshake prim lib (c.initiator static ephemeral draw written) incoming).mapError .handshake

-- The connection in the hands of a supervisor: in the source, which has dialled
-- it; behind the source, before the lane is up; and in runLane, where the
-- goroutine beside it may have closed it because the context ended.
inductive LaneConn where
  | none
  | shaking (conn : Nat) (attempt : Dial)
  | fetched (conn : Nat) (ident : KeyedIdentity)
  | running (conn : Nat) (cut : Bool)

def LaneConn.conn : LaneConn → Option Nat
  | .none => Option.none
  | .shaking conn _ | .fetched conn _ | .running conn _ => some conn

structure ClientLane where
  supervisor : Supervisor
  holding : LaneConn
  gained : List KeyedIdentity

-- Client.Run: one supervisor a lane, and the once around OnAssigned. A
-- connection is named by its place in the order of the dials. acquired lists the
-- identities of all connections, offered what the lanes brought to the once and
-- calls what OnAssigned was called with.
structure ClientRun where
  lanes : List ClientLane
  once : Bool
  done : Bool
  dialled : Nat
  closed : List Nat
  acquired : List KeyedIdentity
  offered : List (Nat × AssignmentResponse)
  calls : List AssignmentResponse

inductive ClientMove where
  | call
  | dial (attempt : Dial)
  | handshake
  | notify
  | watch
  | slept (wait : Nat)
  | stop
  | ended

inductive ClientAction where
  | lane (index : Nat) (move : ClientMove)
  | cancel

namespace ClientRun

def start (cfg : ClientConfig) : ClientRun where
  lanes := cfg.queues.map fun queue => ⟨.start queue, .none, []⟩
  once := false
  done := false
  dialled := 0
  closed := []
  acquired := []
  offered := []
  calls := []

def setLane (st : ClientRun) (index : Nat) (lane : ClientLane) : ClientRun := { st with lanes := st.lanes.set index lane }

def notify (cfg : ClientConfig) (st : ClientRun) (index : Nat) (lane : Supervisor) (ident : KeyedIdentity) : ClientRun :=
  if !lane.notified && ident.hasAssignment then
    { st with
      once := true
      offered := st.offered ++ [(index, ident.assignment)]
      calls := if !st.once && cfg.onAssigned then st.calls ++ [ident.assignment] else st.calls }
  else st

def supervise (st : ClientRun) (index : Nat) (lane : ClientLane) (action : SupervisorAction) : Option ClientRun :=
  (lane.supervisor.step true action).map fun supervisor => st.setLane index { lane with supervisor := supervisor }

def sourceFailed (st : ClientRun) (index : Nat) (lane : ClientLane) : Option ClientRun :=
  st.supervise index lane (if st.done then .cancelled else .acquireFailed)

def dial (st : ClientRun) (index : Nat) (lane : ClientLane) (attempt : Dial) : Option ClientRun :=
  match attempt with
  | .failed _ => st.sourceFailed index lane
  | .connected .. => some { st.setLane index { lane with holding := .shaking st.dialled attempt } with dialled := st.dialled + 1 }

section Steps

variable (prim : Primitives) (lib : NoiseLib) (pairs : KeyPairs) (cfg : ClientConfig)

def handshake (st : ClientRun) (index : Nat) (lane : ClientLane) (conn : Nat) (attempt : Dial) : Option ClientRun :=
  match clientSource prim lib pairs cfg attempt with
  | .error _ =>
      (st.sourceFailed index { lane with holding := .none }).map fun next => { next with closed := st.closed ++ [conn] }
  | .ok ident =>
      some { st.setLane index { lane with holding := .fetched conn ident, gained := lane.gained ++ [ident] } with
        acquired := st.acquired ++ [ident] }

def laneStep (st : ClientRun) (index : Nat) (lane : ClientLane) : ClientMove → Option ClientRun
  | .call => if lane.supervisor.point = .top then st.supervise index lane (if st.done then .cancelled else .call) else none
  | .dial attempt =>
      match lane.holding with
      | .none => if lane.supervisor.point = .acquiring then st.dial index lane attempt else none
      | _ => none
  | .handshake =>
      match lane.holding with
      | .shaking conn attempt => st.handshake prim lib pairs cfg index lane conn attempt
      | _ => none
  | .notify =>
      match lane.holding with
      | .fetched conn ident =>
          (st.notify cfg index lane.supervisor ident).supervise index { lane with holding := .running conn false } (.acquired ident)
      | _ => none
  | .watch =>
      match lane.holding with
      | .running conn false => if st.done then some (st.setLane index { lane with holding := .running conn true }) else none
      | _ => none
  | .slept wait => st.supervise index lane (.waited wait)
  | .stop =>
      match lane.supervisor.point with
      | .waiting _ => if st.done then st.supervise index lane .cancelled else none
      | _ => none
  | .ended =>
      match lane.holding with
      | .running conn _ =>
          (st.supervise index { lane with holding := .none } .laneEnded).map fun next => { next with closed := st.closed ++ [conn] }
      | _ => none

def step (st : ClientRun) : ClientAction → Option ClientRun
  | .lane index move => (st.lanes[index]?).bind fun lane => st.laneStep prim lib pairs cfg index lane move
  | .cancel => some { st with done := true }

end Steps

def held (st : ClientRun) : List Nat := st.lanes.filterMap fun lane => lane.holding.conn

section Effects

variable (prim : Primitives) (lib : NoiseLib) (pairs : KeyPairs) (cfg : ClientConfig) (st next : ClientRun)

inductive Effect : ClientRun → Prop where
  | supervised (index : Nat) (lane : ClientLane) (supervisor : Supervisor) (found : st.lanes[index]? = some lane)
      (told : supervisor.notified = lane.supervisor.notified) : Effect (st.setLane index { lane with supervisor := supervisor })
  | cut (index : Nat) (lane : ClientLane) (conn : Nat) (found : st.lanes[index]? = some lane)
      (running : lane.holding = .running conn false) : Effect (st.setLane index { lane with holding := .running conn true })
  | dialled (index : Nat) (lane : ClientLane) (attempt : Dial) (found : st.lanes[index]? = some lane) (free : lane.holding = .none) :
      Effect { st.setLane index { lane with holding := .shaking st.dialled attempt } with dialled := st.dialled + 1 }
  | fetched (index : Nat) (lane : ClientLane) (conn : Nat) (attempt : Dial) (ident : KeyedIdentity)
      (found : st.lanes[index]? = some lane) (shaking : lane.holding = .shaking conn attempt)
      (sourced : clientSource prim lib pairs cfg attempt = .ok ident) :
      Effect { st.setLane index { lane with holding := .fetched conn ident, gained := lane.gained ++ [ident] } with
        acquired := st.acquired ++ [ident] }
  | raised (index : Nat) (lane : ClientLane) (conn : Nat) (ident : KeyedIdentity) (found : st.lanes[index]? = some lane)
      (fetched : lane.holding = .fetched conn ident) :
      Effect ((st.notify cfg index lane.supervisor ident).setLane index
        { lane with supervisor := lane.supervisor.laneUp true ident, holding := .running conn false })
  | released (index : Nat) (lane : ClientLane) (conn : Nat) (supervisor : Supervisor) (found : st.lanes[index]? = some lane)
      (held : lane.holding.conn = some conn) (unfetched : ∀ conn ident, lane.holding ≠ .fetched conn ident)
      (told : supervisor.notified = lane.supervisor.notified) :
      Effect { st.setLane index { lane with supervisor := supervisor, holding := .none } with closed := st.closed ++ [conn] }
  | cancelled : Effect { st with done := true }

theorem supervise_down (index : Nat) (lane : ClientLane) (action : SupervisorAction) (other : ∀ ident, action ≠ .acquired ident)
    (taken : st.supervise index lane action = some next) :
    ∃ supervisor, next = st.setLane index { lane with supervisor := supervisor } ∧ supervisor.notified = lane.supervisor.notified := by
  obtain ⟨supervisor, moved, rfl⟩ := Option.map_eq_some_iff.mp taken
  cases Supervisor.step_move true lane.supervisor supervisor action moved with
  | acquired ident => exact absurd rfl (other ident)
  | call | acquireFailed | waited | laneEnded | cancelled => exact ⟨_, rfl, rfl⟩

theorem supervise_effect (index : Nat) (lane : ClientLane) (action : SupervisorAction) (found : st.lanes[index]? = some lane)
    (other : ∀ ident, action ≠ .acquired ident) (taken : st.supervise index lane action = some next) :
    Effect prim lib pairs cfg st next := by
  obtain ⟨supervisor, rfl, told⟩ := supervise_down st next index lane action other taken
  exact .supervised index lane supervisor found told

theorem handshake_effect (index : Nat) (lane : ClientLane) (conn : Nat) (attempt : Dial) (found : st.lanes[index]? = some lane)
    (shaking : lane.holding = .shaking conn attempt) (taken : st.handshake prim lib pairs cfg index lane conn attempt = some next) :
    Effect prim lib pairs cfg st next := by
  rw [handshake] at taken
  split at taken
  · obtain ⟨after, moved, rfl⟩ := Option.map_eq_some_iff.mp taken
    obtain ⟨supervisor, rfl, told⟩ := supervise_down st after index _ _ (by intro ident; split_ifs <;> simp) moved
    exact .released index lane conn supervisor found (by rw [shaking]; rfl) (by simp [shaking]) told
  · rename_i ident sourced
    obtain rfl := Option.some.inj taken
    exact .fetched index lane conn attempt ident found shaking sourced

theorem lane_effect (index : Nat) (lane : ClientLane) (move : ClientMove) (found : st.lanes[index]? = some lane)
    (taken : st.laneStep prim lib pairs cfg index lane move = some next) : Effect prim lib pairs cfg st next := by
  cases move with
  | call =>
      rw [laneStep] at taken
      obtain ⟨_, moved⟩ := Option.ite_none_right_eq_some.mp taken
      exact supervise_effect prim lib pairs cfg st next index lane _ found (by intro ident; split_ifs <;> simp) moved
  | dial attempt =>
      rw [laneStep] at taken
      split at taken
      · rename_i free
        obtain ⟨_, dialling⟩ := Option.ite_none_right_eq_some.mp taken
        cases attempt with
        | failed cause =>
            exact supervise_effect prim lib pairs cfg st next index lane _ found (by intro ident; split_ifs <;> simp) dialling
        | connected incoming ephemeral draw written =>
            obtain rfl := Option.some.inj dialling
            exact .dialled index lane _ found free
      · cases taken
  | handshake =>
      rw [laneStep] at taken
      split at taken
      · rename_i conn attempt shaking
        exact handshake_effect prim lib pairs cfg st next index lane conn attempt found shaking taken
      · cases taken
  | notify =>
      rw [laneStep] at taken
      split at taken
      · rename_i conn ident fetched
        obtain ⟨supervisor, moved, rfl⟩ := Option.map_eq_some_iff.mp taken
        cases Supervisor.step_move true _ supervisor _ moved with
        | acquired => exact .raised index lane conn ident found fetched
      · cases taken
  | watch =>
      rw [laneStep] at taken
      split at taken
      · rename_i conn running
        obtain ⟨_, same⟩ := Option.ite_none_right_eq_some.mp taken
        obtain rfl := Option.some.inj same
        exact .cut index lane conn found running
      · cases taken
  | slept wait => exact supervise_effect prim lib pairs cfg st next index lane _ found (by simp) taken
  | stop =>
      rw [laneStep] at taken
      split at taken
      · obtain ⟨_, moved⟩ := Option.ite_none_right_eq_some.mp taken
        exact supervise_effect prim lib pairs cfg st next index lane _ found (by simp) moved
      · cases taken
  | ended =>
      rw [laneStep] at taken
      split at taken
      · rename_i conn cut running
        obtain ⟨after, moved, rfl⟩ := Option.map_eq_some_iff.mp taken
        obtain ⟨supervisor, rfl, told⟩ := supervise_down st after index _ _ (by simp) moved
        exact .released index lane conn supervisor found (by rw [running]; rfl) (by simp [running]) told
      · cases taken

theorem step_effect (action : ClientAction) (taken : st.step prim lib pairs cfg action = some next) :
    Effect prim lib pairs cfg st next := by
  cases action with
  | cancel =>
      cases taken
      exact .cancelled
  | lane index move =>
      obtain ⟨lane, found, rest⟩ := Option.bind_eq_some_iff.mp taken
      exact lane_effect prim lib pairs cfg st next index lane move found rest

end Effects

section Invariants

variable (prim : Primitives) (lib : NoiseLib) (pairs : KeyPairs) (cfg : ClientConfig)

structure Sourced (st : ClientRun) : Prop where
  acquired : ∀ ident ∈ st.acquired, ∃ attempt, clientSource prim lib pairs cfg attempt = .ok ident
  placed : ∀ conn, (st.held ++ st.closed).count conn = (List.range st.dialled).count conn

theorem notify_frame (st : ClientRun) (index : Nat) (lane : Supervisor) (ident : KeyedIdentity) :
    (st.notify cfg index lane ident).lanes = st.lanes ∧ (st.notify cfg index lane ident).closed = st.closed ∧
      (st.notify cfg index lane ident).dialled = st.dialled ∧ (st.notify cfg index lane ident).acquired = st.acquired := by
  unfold notify
  split_ifs <;> exact ⟨rfl, rfl, rfl, rfl⟩

theorem placed_set (st next : ClientRun) (index : Nat) (lane changed : ClientLane) (found : st.lanes[index]? = some lane)
    (placed : ∀ conn, (st.held ++ st.closed).count conn = (List.range st.dialled).count conn)
    (lanes : next.lanes = st.lanes.set index changed)
    (balance : ∀ conn, changed.holding.conn.toList.count conn + next.closed.count conn + (List.range st.dialled).count conn =
      lane.holding.conn.toList.count conn + st.closed.count conn + (List.range next.dialled).count conn) (conn : Nat) :
    (next.held ++ next.closed).count conn = (List.range next.dialled).count conn := by
  have moved := Counting.count_held_set st.lanes index (fun lane => lane.holding.conn) lane changed found conn
  have before := placed conn
  have shift := balance conn
  rw [List.count_append, held] at before ⊢
  rw [lanes]
  omega

theorem sourced_preserved : Runs.Preserved (step prim lib pairs cfg) (fun _ _ => True) (Sourced prim lib pairs cfg) := by
  intro st action next sourced _ taken
  cases step_effect prim lib pairs cfg st next action taken with
  | supervised index lane supervisor found =>
      exact ⟨sourced.acquired, placed_set st _ index lane _ found sourced.placed rfl fun number => rfl⟩
  | cut index lane conn found running =>
      exact ⟨sourced.acquired, placed_set st _ index lane _ found sourced.placed rfl fun number => by rw [running]; rfl⟩
  | dialled index lane attempt found free =>
      refine ⟨sourced.acquired, placed_set st _ index lane _ found sourced.placed rfl fun number => ?_⟩
      simp only [free, LaneConn.conn, Option.toList_some, Option.toList_none, List.range_succ, List.count_append, List.count_nil, setLane]
      omega
  | fetched index lane conn attempt ident found shaking fetched =>
      refine ⟨fun other member => ?_, placed_set st _ index lane _ found sourced.placed rfl fun number => by rw [shaking]; rfl⟩
      rcases List.mem_append.mp member with old | fresh
      · exact sourced.acquired other old
      · obtain rfl := List.mem_singleton.mp fresh
        exact ⟨attempt, fetched⟩
  | raised index lane conn ident found fetched =>
      obtain ⟨lanes, closed, dialled, acquired⟩ := notify_frame cfg st index lane.supervisor ident
      refine ⟨fun other member => sourced.acquired other (acquired ▸ member), ?_⟩
      refine placed_set st _ index lane _ found sourced.placed (congrArg (List.set · index _) lanes) fun number => ?_
      simp only [setLane, closed, dialled, fetched, LaneConn.conn]
  | released index lane conn supervisor found holds =>
      refine ⟨sourced.acquired, placed_set st _ index lane _ found sourced.placed rfl fun number => ?_⟩
      rw [holds]
      simp only [LaneConn.conn, Option.toList_some, Option.toList_none, List.count_append, List.count_nil, setLane]
      omega
  | cancelled => exact ⟨sourced.acquired, sourced.placed⟩

theorem start_sourced : Sourced prim lib pairs cfg (start cfg) := by
  refine ⟨fun ident member => absurd member (by simp [start]), fun conn => ?_⟩
  simp [held, start, LaneConn.conn, List.filterMap_map]

def assignments (acquired : List KeyedIdentity) : List AssignmentResponse :=
  (acquired.filter fun ident => ident.hasAssignment).map KeyedIdentity.assignment

theorem assignments_concat (acquired : List KeyedIdentity) (ident : KeyedIdentity) :
    assignments (acquired ++ [ident]) = assignments acquired ++ if ident.hasAssignment then [ident.assignment] else [] := by
  cases has : ident.hasAssignment <;> simp [assignments, List.filter_append, has]

structure Untold (lane : ClientLane) : Prop where
  pending : ∀ conn ident, lane.holding = .fetched conn ident → ∃ before, lane.gained = before ++ [ident] ∧ assignments before = []
  nothing : (∀ conn ident, lane.holding ≠ .fetched conn ident) → assignments lane.gained = []

structure Reported (st : ClientRun) : Prop where
  once : st.once = !st.offered.isEmpty
  calls : st.calls = if cfg.onAssigned then (st.offered.take 1).map Prod.snd else []
  distinct : (st.offered.map Prod.fst).Nodup
  first : ∀ offer ∈ st.offered, ∃ lane, st.lanes[offer.1]? = some lane ∧ lane.supervisor.notified = true ∧
    (assignments lane.gained).head? = some offer.2
  untold : ∀ lane ∈ st.lanes, lane.supervisor.notified = false → Untold lane

theorem first_set (st : ClientRun) (reported : Reported cfg st) (index : Nat) (lane changed : ClientLane)
    (found : st.lanes[index]? = some lane) (told : lane.supervisor.notified = true → changed.supervisor.notified = true)
    (grown : ∀ first, (assignments lane.gained).head? = some first → (assignments changed.gained).head? = some first) :
    ∀ offer ∈ st.offered, ∃ lane, (st.lanes.set index changed)[offer.1]? = some lane ∧ lane.supervisor.notified = true ∧
      (assignments lane.gained).head? = some offer.2 := by
  intro offer member
  obtain ⟨owner, stored, heard, head⟩ := reported.first offer member
  rw [Counting.get_set st.lanes index offer.1 lane changed found]
  split_ifs with here
  · rw [here, found] at stored
    obtain rfl := Option.some.inj stored
    exact ⟨changed, rfl, told heard, grown offer.2 head⟩
  · exact ⟨owner, stored, heard, head⟩

theorem reported_set (st next : ClientRun) (reported : Reported cfg st) (index : Nat) (lane changed : ClientLane)
    (found : st.lanes[index]? = some lane) (once : next.once = st.once) (calls : next.calls = st.calls)
    (offered : next.offered = st.offered) (lanes : next.lanes = st.lanes.set index changed)
    (told : lane.supervisor.notified = true → changed.supervisor.notified = true)
    (grown : ∀ first, (assignments lane.gained).head? = some first → (assignments changed.gained).head? = some first)
    (untold : changed.supervisor.notified = false → Untold changed) : Reported cfg next := by
  refine ⟨by rw [once, offered, reported.once], by rw [calls, offered, reported.calls], offered ▸ reported.distinct, ?_, ?_⟩
  · rw [offered, lanes]
    exact first_set cfg st reported index lane changed found told grown
  · rw [lanes]
    exact Counting.all_set st.lanes index changed _ reported.untold untold

theorem unheard (st : ClientRun) (reported : Reported cfg st) (index : Nat) (lane : ClientLane) (found : st.lanes[index]? = some lane)
    (silent : lane.supervisor.notified = false) : index ∉ st.offered.map Prod.fst := by
  intro listed
  obtain ⟨offer, inside, same⟩ := List.mem_map.mp listed
  obtain ⟨owner, stored, heard, _⟩ := reported.first offer inside
  rw [same, found] at stored
  rw [← Option.some.inj stored, silent] at heard
  cases heard

theorem reported_offered (st : ClientRun) (reported : Reported cfg st) (index : Nat) (lane : ClientLane) (conn : Nat)
    (ident : KeyedIdentity) (found : st.lanes[index]? = some lane) (fetched : lane.holding = .fetched conn ident)
    (silent : lane.supervisor.notified = false) (has : ident.hasAssignment = true) :
    Reported cfg ((st.notify cfg index lane.supervisor ident).setLane index
      { lane with supervisor := lane.supervisor.laneUp true ident, holding := .running conn false }) := by
  obtain ⟨before, gained, none⟩ := (reported.untold lane (List.mem_of_getElem? found) silent).pending conn ident fetched
  have mine : (assignments lane.gained).head? = some ident.assignment := by simp [gained, assignments_concat, none, has]
  have heard : (lane.supervisor.laneUp true ident).notified = true := by simp [Supervisor.laneUp, has]
  rw [notify, if_pos (by simp [silent, has])]
  refine ⟨by simp [setLane], ?_, ?_, fun offer inside => ?_, ?_⟩
  · have calls := reported.calls
    have once := reported.once
    cases offered : st.offered <;> cases wanted : cfg.onAssigned <;> simp [setLane, offered, wanted] at calls once ⊢ <;>
      simp [once, calls]
  · simp only [setLane, List.map_append, List.map_cons, List.map_nil]
    refine List.nodup_append.mpr ⟨reported.distinct, List.nodup_singleton index, fun other inside last listed same => ?_⟩
    rw [List.mem_singleton.mp listed] at same
    exact unheard cfg st reported index lane found silent (same ▸ inside)
  · rcases List.mem_append.mp inside with old | last
    · exact first_set cfg st reported index lane
        { lane with supervisor := lane.supervisor.laneUp true ident, holding := .running conn false } found (fun _ => heard) (fun _ => id) offer old
    · obtain rfl := List.mem_singleton.mp last
      exact ⟨{ lane with supervisor := lane.supervisor.laneUp true ident, holding := .running conn false },
        (Counting.get_set st.lanes index index lane _ found).trans (if_pos rfl), heard, mine⟩
  · exact Counting.all_set st.lanes index _ _ reported.untold fun still => absurd still (by simp [heard])

theorem reported_raised (st : ClientRun) (reported : Reported cfg st) (index : Nat) (lane : ClientLane) (conn : Nat)
    (ident : KeyedIdentity) (found : st.lanes[index]? = some lane) (fetched : lane.holding = .fetched conn ident) :
    Reported cfg ((st.notify cfg index lane.supervisor ident).setLane index
      { lane with supervisor := lane.supervisor.laneUp true ident, holding := .running conn false }) := by
  by_cases fresh : lane.supervisor.notified = false ∧ ident.hasAssignment = true
  · exact reported_offered cfg st reported index lane conn ident found fetched fresh.1 fresh.2
  · rw [notify, if_neg (by simpa using fresh)]
    refine reported_set cfg st _ reported index lane _ found rfl rfl rfl rfl (fun heard => by simp [Supervisor.laneUp, heard])
      (fun _ => id) fun still => ?_
    obtain ⟨silent, without⟩ : lane.supervisor.notified = false ∧ ident.hasAssignment = false := by
      simpa [Supervisor.laneUp] using still
    obtain ⟨before, gained, none⟩ := (reported.untold lane (List.mem_of_getElem? found) silent).pending conn ident fetched
    exact ⟨by simp, fun _ => by simp [gained, assignments_concat, none, without]⟩

theorem reported_preserved : Runs.Preserved (step prim lib pairs cfg) (fun _ _ => True) (Reported cfg) := by
  intro st action next reported _ taken
  have untold := fun index (lane : ClientLane) (found : st.lanes[index]? = some lane) =>
    reported.untold lane (List.mem_of_getElem? found)
  cases step_effect prim lib pairs cfg st next action taken with
  | supervised index lane supervisor found told =>
      refine reported_set cfg st _ reported index lane _ found rfl rfl rfl rfl told.trans (fun _ => id) fun still => ?_
      obtain ⟨pending, nothing⟩ := untold index lane found (told ▸ still)
      exact ⟨pending, nothing⟩
  | cut index lane conn found running =>
      refine reported_set cfg st _ reported index lane _ found rfl rfl rfl rfl id (fun _ => id) fun still => ?_
      exact ⟨by simp, fun _ => (untold index lane found still).nothing (by simp [running])⟩
  | dialled index lane attempt found free =>
      refine reported_set cfg st _ reported index lane _ found rfl rfl rfl rfl id (fun _ => id) fun still => ?_
      exact ⟨by simp, fun _ => (untold index lane found still).nothing (by simp [free])⟩
  | fetched index lane conn attempt ident found shaking =>
      refine reported_set cfg st _ reported index lane _ found rfl rfl rfl rfl id (fun first head => ?_) fun still => ?_
      · rw [assignments_concat, List.head?_append, head]
        rfl
      · have none := (untold index lane found still).nothing (by simp [shaking])
        refine ⟨fun other same holds => ?_, fun without => absurd rfl (without conn ident)⟩
        cases holds
        exact ⟨lane.gained, rfl, none⟩
  | raised index lane conn ident found fetched => exact reported_raised cfg st reported index lane conn ident found fetched
  | released index lane conn supervisor found holds unfetched told =>
      refine reported_set cfg st _ reported index lane _ found rfl rfl rfl rfl told.trans (fun _ => id) fun still => ?_
      exact ⟨by simp, fun _ => (untold index lane found (told ▸ still)).nothing unfetched⟩
  | cancelled => exact ⟨reported.once, reported.calls, reported.distinct, reported.first, reported.untold⟩

theorem start_reported : Reported cfg (start cfg) := by
  refine ⟨rfl, by simp [start], by simp [start], by simp [start], fun lane member _ => ?_⟩
  obtain ⟨queue, _, rfl⟩ := List.mem_map.mp member
  exact ⟨by simp, fun _ => rfl⟩

end Invariants

end ClientRun

structure ClientFlags where
  tun : Option String
  lanes : Option Int
  key : Option String
  peerKey : Option String
  vnetHdr : Option Bool
  encrypt : Option String
  peer : Option String
  requestIP : Option String
  requestIP6 : Option String
  autoIP : Option Bool

inductive ClientFlagError where
  | peerRequired
  | flag (problem : FlagError)
  | requestIP (problem : Option String)
  | requestIP6 (problem : Option String)

def ClientFlagError.message (go : GoLib) : ClientFlagError → String
  | .peerRequired => "--peer is required"
  | .flag problem => problem.message go
  | .requestIP problem => "--request-ip: must be an IPv4 address: " ++ problem.getD "<nil>"
  | .requestIP6 problem => "--request-ip6: must be an IPv6 address: " ++ problem.getD "<nil>"

def flagRequest (go : GoLib) (text : String) (family : Addr → Bool) (bad : Option String → ClientFlagError) :
    Except ClientFlagError Addr :=
  if text = "" then .ok .zero
  else
    match go.parseAddr text with
    | .error problem => .error (bad (some problem))
    | .ok addr => if family addr then .ok addr else .error (bad none)

def ClientFlags.configure (sys : Shell) (kernelUSO : Bool) (flags : ClientFlags) : Except ClientFlagError ClientConfig :=
  let lanes := flags.lanes.getD 4
  let vnetHdr := flags.vnetHdr.getD true
  if flags.peer.getD "" = "" then .error .peerRequired
  else
    ((parseCipher (flags.encrypt.getD "aes-gcm")).mapError fun problem => .flag (.encrypt problem)).bind fun cipher =>
      ((openKernelTUN sys.host (flags.tun.getD "ph0") lanes vnetHdr).mapError fun problem => .flag (.openTUN problem)).bind fun _ =>
        (flagRequest sys.go (flags.requestIP.getD "") Addr.is4 .requestIP).bind fun requestIP =>
          (flagRequest sys.go (flags.requestIP6.getD "") Addr.is6 .requestIP6).bind fun requestIP6 =>
            ((flagKey sys (flags.key.getD "")).mapError .flag).bind fun static =>
              ((flagKey sys (flags.peerKey.getD "")).mapError .flag).map fun peer =>
                { peer := flags.peer.getD ""
                  lanes := lanes
                  queues := List.replicate lanes.toNat (.openTunQueue vnetHdr kernelUSO)
                  staticPrivateKey := static
                  peerPublicKey := peer
                  cipher := cipher
                  requestIP := requestIP
                  requestIP6 := requestIP6
                  onAssigned := flags.autoIP.getD false }

def NoKey (sys : Shell) (text : String) : Prop :=
  text = "" ∨ ∃ path content, text.toList = '@' :: path ∧ sys.readFile (String.ofList path) = .ok content ∧
    sys.trimSpace content = ""

theorem parse_key_none (go : GoLib) (text : String) (key : Bytes) (parsed : parseKey go text = .ok key) : key = [] ↔ text = "" := by
  constructor
  · intro none
    by_contra given
    exact FileConfig.parse_key_given go text key given parsed none
  · rintro rfl
    rw [parseKey, if_pos rfl] at parsed
    exact (Except.ok.inj parsed).symm

theorem flag_key_none (sys : Shell) (text : String) (key : Bytes) (read : flagKey sys text = .ok key) : key = [] ↔ NoKey sys text := by
  by_cases missing : text = ""
  · rw [flagKey, if_pos missing] at read
    exact iff_of_true (Except.ok.inj read).symm (.inl missing)
  · rw [flagKey, if_neg missing] at read
    obtain ⟨literal, named, parsed⟩ := Outcomes.bind_ok read
    rw [parse_key_none sys.go literal key (Outcomes.map_error_ok parsed)]
    rw [readKeyArg] at named
    split at named
    · rename_i path spelled
      obtain ⟨content, found, rfl⟩ := Outcomes.map_ok named
      refine ⟨fun blank => .inr ⟨path, content, spelled, Outcomes.map_error_ok found, blank⟩, ?_⟩
      rintro (absent | ⟨other, data, same, there, blank⟩)
      · exact absurd absent missing
      · obtain rfl : path = other := (List.cons.inj (spelled.symm.trans same)).2
        obtain rfl := Except.ok.inj ((Outcomes.map_error_ok found).symm.trans there)
        exact blank
    · rename_i plain
      obtain rfl := Except.ok.inj named
      refine iff_of_false missing ?_
      rintro (absent | ⟨path, _, same, _⟩)
      · exact missing absent
      · exact plain path same

theorem ClientConfig.validated_keys (c : ClientConfig) (accepted : c.validate = .ok ()) :
    (c.staticPrivateKey ≠ [] ∧ c.peerPublicKey ≠ []) ∨ (c.staticPrivateKey = [] ∧ c.peerPublicKey = []) := by
  unfold validate at accepted
  split_ifs at accepted with _ _ _ given _ peer alone
  · refine .inl ⟨List.length_pos_iff.mp given, fun none => ?_⟩
    simp [none, pubKeyLen] at peer
  · exact .inr ⟨by simpa using given, by simpa using alone⟩

theorem ClientFlags.configured_keys (sys : Shell) (kernelUSO : Bool) (flags : ClientFlags) (cfg : ClientConfig)
    (configured : flags.configure sys kernelUSO = .ok cfg) :
    (cfg.staticPrivateKey = [] ↔ NoKey sys (flags.key.getD "")) ∧ (cfg.peerPublicKey = [] ↔ NoKey sys (flags.peerKey.getD "")) := by
  unfold configure at configured
  split_ifs at configured
  obtain ⟨_, _, afterCipher⟩ := Outcomes.bind_ok configured
  obtain ⟨_, _, afterTUN⟩ := Outcomes.bind_ok afterCipher
  obtain ⟨_, _, afterIP⟩ := Outcomes.bind_ok afterTUN
  obtain ⟨_, _, afterIP6⟩ := Outcomes.bind_ok afterIP
  obtain ⟨static, own, afterKey⟩ := Outcomes.bind_ok afterIP6
  obtain ⟨peer, theirs, rfl⟩ := Outcomes.map_ok afterKey
  exact ⟨flag_key_none sys _ static (Outcomes.map_error_ok own), flag_key_none sys _ peer (Outcomes.map_error_ok theirs)⟩

namespace ClientRun

section Results

variable (prim : Primitives) (lib : NoiseLib) (pairs : KeyPairs) (cfg : ClientConfig) (st : ClientRun)

-- Over all lanes and reconnects OnAssigned hears one assignment: that of the
-- lane that was first to bring one, and the first which that lane was given. A
-- connection is in the hands of one lane or was closed.
theorem assigned_once (reached : Runs.Reach (step prim lib pairs cfg) (fun _ _ => True) (start cfg) st) :
    st.calls = (if cfg.onAssigned then (st.offered.take 1).map Prod.snd else []) ∧
      ((st.offered.map Prod.fst).Nodup ∧ ∀ offer ∈ st.offered, ∃ lane, st.lanes[offer.1]? = some lane ∧
        (assignments lane.gained).head? = some offer.2) ∧
      (st.held ++ st.closed).Perm (List.range st.dialled) := by
  have reported := Runs.reach_invariant (reported_preserved prim lib pairs cfg) reached (start_reported cfg)
  have sourced := Runs.reach_invariant (sourced_preserved prim lib pairs cfg) reached (start_sourced prim lib pairs cfg)
  refine ⟨reported.calls, ⟨reported.distinct, fun offer member => ?_⟩, List.perm_iff_count.mpr sourced.placed⟩
  obtain ⟨lane, found, _, first⟩ := reported.first offer member
  exact ⟨lane, found, first⟩

theorem source_open (keyless : cfg.peerPublicKey = []) (attempt : Dial) (ident : KeyedIdentity)
    (sourced : clientSource prim lib pairs cfg attempt = .ok ident) : ident = cfg.openIdentity := by
  cases attempt with
  | failed cause => cases sourced
  | connected incoming ephemeral draw written =>
      rw [clientSource, if_pos (by simp [keyless])] at sourced
      exact (Except.ok.inj sourced).symm

theorem source_keyed (keyed : cfg.peerPublicKey ≠ []) (attempt : Dial) (ident : KeyedIdentity)
    (sourced : clientSource prim lib pairs cfg attempt = .ok ident) :
    ∃ pub ephemeral draw written incoming, pairs.publicOf cfg.staticPrivateKey = .ok pub ∧
      initiateHandshake prim lib (cfg.initiator ⟨cfg.staticPrivateKey, pub⟩ ephemeral draw written) incoming = .ok ident := by
  cases attempt with
  | failed cause => cases sourced
  | connected incoming ephemeral draw written =>
      rw [clientSource, if_neg (by simpa using keyed)] at sourced
      obtain ⟨static, made, shaken⟩ := Outcomes.bind_ok sourced
      obtain ⟨pub, derived, rfl⟩ := Outcomes.map_ok (Outcomes.map_error_ok made)
      exact ⟨pub, ephemeral, draw, written, incoming, derived, Outcomes.map_error_ok shaken⟩

theorem new_client_id (client : Client) (made : newClient prim pairs cfg = .ok client) (keyed : cfg.staticPrivateKey ≠ []) (pub : Bytes)
    (derived : pairs.publicOf cfg.staticPrivateKey = .ok pub) : client.clientID = deriveClientID prim.sha256 pub := by
  obtain ⟨_, _, rest⟩ := Outcomes.bind_ok made
  rw [if_pos (by simpa [ClientConfig.keyed] using List.length_pos_iff.mpr keyed)] at rest
  obtain ⟨other, same, rfl⟩ := Outcomes.map_ok rest
  rw [derived] at same
  obtain rfl := Except.ok.inj same
  rfl

-- A client that was given a key on its command line never runs a lane in the
-- clear: every lane has shaken hands with the holder of the configured server
-- key, under the id the client reports.
theorem client_fails_closed (sys : Shell) (kernelUSO : Bool) (flags : ClientFlags)
    (configured : flags.configure sys kernelUSO = .ok cfg) (client : Client) (made : newClient prim pairs cfg = .ok client)
    (reached : Runs.Reach (step prim lib pairs cfg) (fun _ _ => True) (start cfg) st) (ident : KeyedIdentity)
    (member : ident ∈ st.acquired) :
    (ident.keys.encrypted = true ↔ ¬ (NoKey sys (flags.key.getD "") ∧ NoKey sys (flags.peerKey.getD ""))) ∧
      (ident.keys.encrypted = true → ident.clientID = client.clientID ∧ ∃ pub ephemeral draw written incoming,
        initiateHandshake prim lib (cfg.initiator ⟨cfg.staticPrivateKey, pub⟩ ephemeral draw written) incoming = .ok ident) := by
  obtain ⟨attempt, sourced⟩ :=
    (Runs.reach_invariant (sourced_preserved prim lib pairs cfg) reached (start_sourced prim lib pairs cfg)).acquired ident member
  obtain ⟨_, accepted, _⟩ := Outcomes.bind_ok made
  obtain ⟨own, peer⟩ := flags.configured_keys sys kernelUSO cfg configured
  rcases cfg.validated_keys accepted with ⟨key, peerKey⟩ | ⟨none, noPeer⟩
  · obtain ⟨pub, ephemeral, draw, written, incoming, derived, shaken⟩ := source_keyed prim lib pairs cfg peerKey attempt ident sourced
    have encrypted : ident.keys.encrypted = true ∧ ident.clientID = deriveClientID prim.sha256 pub := by
      obtain ⟨_, _, _, _, _, _, _, _, _, _, rfl⟩ := initiate_returned prim lib _ incoming ident shaken
      exact ⟨rfl, rfl⟩
    refine ⟨iff_of_true encrypted.1 fun both => key (own.mpr both.1), fun _ => ⟨?_, pub, ephemeral, draw, written, incoming, shaken⟩⟩
    exact encrypted.2.trans (new_client_id prim pairs cfg client made key pub derived).symm
  · obtain rfl := source_open prim lib pairs cfg noPeer attempt ident sourced
    have clear : cfg.openIdentity.keys.encrypted = false := rfl
    exact ⟨iff_of_false (by simp [clear]) (not_not.mpr ⟨own.mp none, peer.mp noPeer⟩), fun encrypted => by simp [clear] at encrypted⟩

end Results

end ClientRun

def clientShell : Shell := ⟨soloLib, fun _ => .error "no such file", id, tunnelHost⟩

def clientPairs : KeyPairs := ⟨fun _ => .ok (List.replicate 32 2)⟩

def twoLaneFlags : ClientFlags :=
  ⟨none, some 2, some "client key", some "ann's key", none, none, some "198.51.100.1:4500", none, none, some true⟩

def serverAnswer (host : UInt8) : Bytes :=
  clearDraw.envelope clearPrimitives.keystream (clearPrimitives.obfsKeyFromServerPub annUser.publicKey)
    (buildServerPayload ⟨tunnelAddr host, 24, tunnelAddr 1, .zero, 0, .zero⟩ true)

def dialMoves (index : Nat) (host : UInt8) : List ClientAction :=
  [.lane index .call, .lane index (.dial (.connected (serverAnswer host) [] (some clearDraw) true)), .lane index .handshake]

def twoLaneMoves : List ClientAction :=
  [.lane 0 .call, .lane 0 (.dial (.connected [] [] (some clearDraw) true)), .lane 0 .handshake, .lane 0 (.slept backoffInitial)] ++
    dialMoves 0 2 ++ dialMoves 1 3 ++ [.lane 1 .notify, .lane 0 .notify]

def twoLaneRun : Option (ClientConfig × Client × ClientRun) :=
  (twoLaneFlags.configure clientShell true).toOption.bind fun cfg =>
    (newClient clearPrimitives clientPairs cfg).toOption.bind fun client =>
      (Runs.execute (ClientRun.step clearPrimitives clearNoise clientPairs cfg) (fun _ _ => True) (.start cfg) twoLaneMoves).map
        fun st => (cfg, client, st)

theorem two_lane_parts (cfg : ClientConfig) (client : Client) (st : ClientRun) (ran : twoLaneRun = some (cfg, client, st)) :
    twoLaneFlags.configure clientShell true = .ok cfg ∧ newClient clearPrimitives clientPairs cfg = .ok client ∧
      Runs.Reach (ClientRun.step clearPrimitives clearNoise clientPairs cfg) (fun _ _ => True) (.start cfg) st := by
  obtain ⟨found, configured, rest⟩ := Option.bind_eq_some_iff.mp ran
  obtain ⟨made, constructed, moved⟩ := Option.bind_eq_some_iff.mp rest
  obtain ⟨final, completed, same⟩ := Option.map_eq_some_iff.mp moved
  cases same
  exact ⟨Outcomes.to_option_some configured, Outcomes.to_option_some constructed, Runs.execute_reach _ _ _ completed⟩

theorem assigned_once_two_lanes :
    ∃ cfg st, Runs.Reach (ClientRun.step clearPrimitives clearNoise clientPairs cfg) (fun _ _ => True) (.start cfg) st ∧
      (st.acquired.map fun ident => ident.assigned4) = [tunnelAddr 2, tunnelAddr 3] ∧ st.offered.map Prod.fst = [1, 0] ∧
      (st.calls.map fun assignment => assignment.v4Addr) = [tunnelAddr 3] ∧
      st.calls = (if cfg.onAssigned then (st.offered.take 1).map Prod.snd else []) ∧ st.closed = [0] ∧
      (st.held ++ st.closed).Perm (List.range 3) := by
  have observed : twoLaneRun.map (fun run => (run.2.2.acquired.map fun ident => ident.assigned4, run.2.2.offered.map Prod.fst,
      run.2.2.calls.map fun assignment => assignment.v4Addr, run.2.2.closed, run.2.2.dialled)) =
      some ([tunnelAddr 2, tunnelAddr 3], [1, 0], [tunnelAddr 3], [0], 3) := by
    decide +kernel
  obtain ⟨⟨cfg, client, st⟩, ran, view⟩ := Option.map_eq_some_iff.mp observed
  simp only [Prod.mk.injEq] at view
  obtain ⟨addresses, order, called, closed, dialled⟩ := view
  have reached := (two_lane_parts cfg client st ran).2.2
  obtain ⟨calls, _, placed⟩ := ClientRun.assigned_once clearPrimitives clearNoise clientPairs cfg st reached
  exact ⟨cfg, st, reached, addresses, order, called, calls, closed, dialled ▸ placed⟩

theorem client_fails_closed_two_lanes :
    ∃ (cfg : ClientConfig) (client : Client) (st : ClientRun) (ident : KeyedIdentity),
      twoLaneFlags.configure clientShell true = .ok cfg ∧ newClient clearPrimitives clientPairs cfg = .ok client ∧
      ident ∈ st.acquired ∧ ident.keys.encrypted = true ∧ ident.clientID = client.clientID := by
  have observed : twoLaneRun.map (fun run => run.2.2.acquired.map fun ident => ident.keys.encrypted) = some [true, true] := by
    decide +kernel
  obtain ⟨⟨cfg, client, st⟩, ran, view⟩ := Option.map_eq_some_iff.mp observed
  obtain ⟨configured, made, reached⟩ := two_lane_parts cfg client st ran
  obtain ⟨ident, member, encrypted⟩ := List.mem_map.mp (view ▸ List.mem_cons_self ..)
  have closed := ClientRun.client_fails_closed clearPrimitives clearNoise clientPairs cfg st clientShell true twoLaneFlags configured
    client made reached ident member
  exact ⟨cfg, client, st, ident, configured, made, member, encrypted, (closed.2 encrypted).1⟩

end Packethose
