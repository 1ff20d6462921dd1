import Packethose.Lib.Channels
import Packethose.Lib.Counting
import Packethose.AcceptLoop
import Packethose.Supervisor

set_option autoImplicit false

namespace Packethose

structure PoolEntry where
  c : Nat
  conn : ReadyConn
deriving DecidableEq

inductive LoopPoint where
  | accepting
  | sleeping
  | shaking (number : Nat) (c : Incoming) (authorize : Authorizer)
  | offering (number : Nat) (c : Incoming) (ident : KeyedIdentity)
  | returned

-- runSupervised with the connection runLane holds; cut says that the goroutine
-- beside runLane has closed it because the context ended.
structure SupervisedLane where
  supervisor : Supervisor
  running : Option PoolEntry
  cut : Bool

-- Server.Run with one client: the accept loop, pool.ready and the supervisors.
-- log counts as the metrics do, and its ready is all that was ever sent on
-- pool.ready; events, sent, claimed and closed are histories.
structure SingleServer where
  point : LoopPoint
  log : AcceptState
  conns : List Incoming
  ready : Channels.Channel PoolEntry
  lanes : List SupervisedLane
  closed : List Nat
  done : Bool
  finished : Bool
  events : List AcceptEvent
  sent : List PoolEntry
  claimed : List PoolEntry

inductive LaneMove where
  | call
  | claim
  | stop
  | watch
  | ended

inductive ServerMove where
  | acceptFailed
  | slept (full : Bool)
  | accept (c : Incoming)
  | handshake
  | offer
  | drop
  | lane (index : Nat) (move : LaneMove)
  | cancel
  | finish

def SupervisedLane.start (queue : KernelTUN) : SupervisedLane := ⟨.start queue, none, false⟩

def SupervisedLane.Agrees (lane : SupervisedLane) : Prop :=
  match lane.running with
  | some entry => lane.supervisor.point = .up entry.conn.ident
  | none => ∀ ident, lane.supervisor.point ≠ .up ident

def Incoming.settle (c : Incoming) (delivered : Bool) : AcceptEvent := .accepted { c with delivered := delivered }

theorem SupervisedLane.Agrees.free {lane : SupervisedLane} (agrees : lane.Agrees)
    (down : ∀ ident, lane.supervisor.point ≠ .up ident) : lane.running = none := by
  unfold SupervisedLane.Agrees at agrees
  split at agrees
  · exact absurd agrees (down _)
  · assumption

namespace SingleServer

def start (queues : List KernelTUN) : SingleServer where
  point := .accepting
  log := .start
  conns := []
  ready := .make queues.length
  lanes := queues.map .start
  closed := []
  done := false
  finished := false
  events := []
  sent := []
  claimed := []

def setLane (st : SingleServer) (index : Nat) (lane : SupervisedLane) : SingleServer :=
  { st with lanes := st.lanes.set index lane }

def refuse (st : SingleServer) (number : Nat) (c : Incoming) (log : AcceptState) : SingleServer :=
  { st with point := .accepting, log := log, closed := st.closed ++ [number], events := st.events ++ [.accepted c] }

def counted (st : SingleServer) (c : Incoming) : SingleServer :=
  { st with log := { st.log with accepts := st.log.accepts + 1 }, conns := st.conns ++ [c] }

def accept (loop : AcceptLoop) (st : SingleServer) (c : Incoming) : SingleServer :=
  let now := st.counted c
  if loop.allow ≠ "" ∧ c.remoteIP ≠ loop.allow then now.refuse st.conns.length c now.log
  else if !c.underLimit then now.refuse st.conns.length c { now.log with rateLimited := now.log.rateLimited + 1 }
  else
    match loop.authorize with
    | none => { now with point := .offering st.conns.length c .zero }
    | some authorize => { now with point := .shaking st.conns.length c authorize }

def shake (prim : Primitives) (lib : NoiseLib) (loop : AcceptLoop) (st : SingleServer) (number : Nat) (c : Incoming)
    (authorize : Authorizer) : SingleServer :=
  match acceptHandshake prim lib (loop.acceptor c authorize) c.input with
  | .error _ => st.refuse number c { st.log with handshakeFail := st.log.handshakeFail + 1 }
  | .ok (ident, _) =>
      { st with log := { st.log with handshakeOK := st.log.handshakeOK + 1 }, point := .offering number c ident }

def sending (st : SingleServer) (c : Incoming) (entry : PoolEntry) (ready : Channels.Channel PoolEntry) : SingleServer :=
  { st with
    point := .accepting
    ready := ready
    log := { st.log with ready := st.log.ready ++ [entry.conn] }
    events := st.events ++ [c.settle true]
    sent := st.sent ++ [entry] }

def offer (st : SingleServer) (number : Nat) (c : Incoming) (ident : KeyedIdentity) : Option SingleServer :=
  match st.ready.trySend ⟨number, c.input, ident⟩ with
  | (ready, .sent) => some (st.sending c ⟨number, c.input, ident⟩ ready)
  | _ => none

def drop (st : SingleServer) (number : Nat) (c : Incoming) : SingleServer :=
  { st with point := .returned, closed := st.closed ++ [number], events := st.events ++ [c.settle false] }

def supervise (st : SingleServer) (index : Nat) (lane : SupervisedLane) (action : SupervisorAction) : Option SingleServer :=
  (lane.supervisor.step false action).map fun supervisor => st.setLane index { lane with supervisor := supervisor }

def claim (st : SingleServer) (index : Nat) (lane : SupervisedLane) : Option SingleServer :=
  match st.ready.receive with
  | (ready, .got entry) =>
      (lane.supervisor.step false (.acquired entry.conn.ident)).map fun supervisor =>
        { st.setLane index ⟨supervisor, some entry, false⟩ with ready := ready, claimed := st.claimed ++ [entry] }
  | _ => none

def ended (st : SingleServer) (index : Nat) (lane : SupervisedLane) : Option SingleServer :=
  lane.running.bind fun entry =>
    (lane.supervisor.step false .laneEnded).map fun supervisor =>
      { st.setLane index ⟨supervisor, none, false⟩ with closed := st.closed ++ [entry.c] }

def laneStep (st : SingleServer) (index : Nat) (lane : SupervisedLane) : LaneMove → Option SingleServer
  | .call =>
      if lane.supervisor.point = .top then st.supervise index lane (if st.done then .cancelled else .call) else none
  | .claim => st.claim index lane
  | .stop => if lane.supervisor.point = .acquiring ∧ st.done = true then st.supervise index lane .cancelled else none
  | .watch =>
      if st.done = true ∧ lane.running.isSome ∧ lane.cut = false then some (st.setLane index { lane with cut := true }) else none
  | .ended => st.ended index lane

def step (prim : Primitives) (lib : NoiseLib) (loop : AcceptLoop) (st : SingleServer) : ServerMove → Option SingleServer
  | .acceptFailed =>
      match st.point with
      | .accepting =>
          if st.done then some { st with point := .returned, events := st.events ++ [.failed true false] }
          else some { st with point := .sleeping }
      | _ => none
  | .slept full =>
      match st.point with
      | .sleeping =>
          if full || st.done then
            some { st with point := if full then .accepting else .returned, events := st.events ++ [.failed false full] }
          else none
      | _ => none
  | .accept c =>
      match st.point with
      | .accepting => if st.finished then none else some (st.accept loop c)
      | _ => none
  | .handshake =>
      match st.point with
      | .shaking number c authorize => some (st.shake prim lib loop number c authorize)
      | _ => none
  | .offer =>
      match st.point with
      | .offering number c ident => st.offer number c ident
      | _ => none
  | .drop =>
      match st.point with
      | .offering number c _ => if st.done then some (st.drop number c) else none
      | _ => none
  | .lane index move => (st.lanes[index]?).bind fun lane => st.laneStep index lane move
  | .cancel => some { st with done := true }
  | .finish =>
      if st.lanes.all (fun lane => lane.supervisor.point = .stopped) && !st.finished then some { st with finished := true } else none

def inLoop (st : SingleServer) : List Nat :=
  match st.point with
  | .shaking number _ _ | .offering number _ _ => [number]
  | _ => []

def waiting (st : SingleServer) : List Nat := st.ready.items.map PoolEntry.c

def running (st : SingleServer) : List Nat := st.lanes.filterMap fun lane => lane.running.map PoolEntry.c

section Effects

variable (prim : Primitives) (lib : NoiseLib) (loop : AcceptLoop) (st next : SingleServer)

def Admits (c : Incoming) : Prop := (loop.allow = "" ∨ c.remoteIP = loop.allow) ∧ c.underLimit = true

inductive Effect : ServerMove → SingleServer → Prop where
  | acceptEnded (accepting : st.point = .accepting) (done : st.done = true) :
      Effect .acceptFailed { st with point := .returned, events := st.events ++ [.failed true false] }
  | acceptRetry (accepting : st.point = .accepting) : Effect .acceptFailed { st with point := .sleeping }
  | slept (full : Bool) (sleeping : st.point = .sleeping) :
      Effect (.slept full)
        { st with point := if full then .accepting else .returned, events := st.events ++ [.failed false full] }
  | refused (c : Incoming) (log : AcceptState) (accepting : st.point = .accepting) (unfinished : st.finished = false)
      (ready : log.ready = st.log.ready) (turned : loop.turn prim lib st.log (.accepted c) = (log, true)) :
      Effect (.accept c) ((st.counted c).refuse st.conns.length c log)
  | opened (c : Incoming) (accepting : st.point = .accepting) (unfinished : st.finished = false) (admitted : Admits loop c)
      (keyless : loop.authorize = none) :
      Effect (.accept c) { st.counted c with point := .offering st.conns.length c .zero }
  | shaking (c : Incoming) (authorize : Authorizer) (accepting : st.point = .accepting) (unfinished : st.finished = false)
      (admitted : Admits loop c) (keyed : loop.authorize = some authorize) :
      Effect (.accept c) { st.counted c with point := .shaking st.conns.length c authorize }
  | shakeFailed (number : Nat) (c : Incoming) (authorize : Authorizer) (problem : AcceptFailure)
      (here : st.point = .shaking number c authorize)
      (failed : acceptHandshake prim lib (loop.acceptor c authorize) c.input = .error problem) :
      Effect .handshake (st.refuse number c { st.log with handshakeFail := st.log.handshakeFail + 1 })
  | shaken (number : Nat) (c : Incoming) (authorize : Authorizer) (ident : KeyedIdentity) (reply : Bytes)
      (here : st.point = .shaking number c authorize)
      (passed : acceptHandshake prim lib (loop.acceptor c authorize) c.input = .ok (ident, reply)) :
      Effect .handshake
        { st with log := { st.log with handshakeOK := st.log.handshakeOK + 1 }, point := .offering number c ident }
  | offered (number : Nat) (c : Incoming) (ident : KeyedIdentity) (ready : Channels.Channel PoolEntry)
      (here : st.point = .offering number c ident) (taken : st.ready.trySend ⟨number, c.input, ident⟩ = (ready, .sent)) :
      Effect .offer (st.sending c ⟨number, c.input, ident⟩ ready)
  | dropped (number : Nat) (c : Incoming) (ident : KeyedIdentity) (here : st.point = .offering number c ident)
      (done : st.done = true) : Effect .drop (st.drop number c)
  | called (index : Nat) (lane : SupervisedLane) (found : st.lanes[index]? = some lane) (top : lane.supervisor.point = .top)
      (running : st.done = false) :
      Effect (.lane index .call) (st.setLane index { lane with supervisor := lane.supervisor.setPoint .acquiring })
  | stopped (index : Nat) (lane : SupervisedLane) (move : LaneMove) (found : st.lanes[index]? = some lane) (done : st.done = true)
      (down : lane.supervisor.point = .top ∨ lane.supervisor.point = .acquiring) :
      Effect (.lane index move) (st.setLane index { lane with supervisor := lane.supervisor.setPoint .stopped })
  | claimed (index : Nat) (lane : SupervisedLane) (entry : PoolEntry) (ready : Channels.Channel PoolEntry)
      (found : st.lanes[index]? = some lane) (acquiring : lane.supervisor.point = .acquiring)
      (taken : st.ready.receive = (ready, .got entry)) :
      Effect (.lane index .claim)
        { st.setLane index ⟨lane.supervisor.laneUp false entry.conn.ident, some entry, false⟩ with
          ready := ready, claimed := st.claimed ++ [entry] }
  | watched (index : Nat) (lane : SupervisedLane) (found : st.lanes[index]? = some lane) (done : st.done = true)
      (held : lane.running.isSome = true) (uncut : lane.cut = false) :
      Effect (.lane index .watch) (st.setLane index { lane with cut := true })
  | ended (index : Nat) (lane : SupervisedLane) (entry : PoolEntry) (found : st.lanes[index]? = some lane)
      (held : lane.running = some entry) :
      Effect (.lane index .ended)
        { st.setLane index ⟨lane.supervisor.setPoint .top, none, false⟩ with closed := st.closed ++ [entry.c] }
  | cancelled : Effect .cancel { st with done := true }
  | finished (stopped : ∀ lane ∈ st.lanes, lane.supervisor.point = .stopped) : Effect .finish { st with finished := true }

theorem accept_effect (accepting : st.point = .accepting) (unfinished : st.finished = false) (c : Incoming) :
    Effect prim lib loop st (.accept c) (st.accept loop c) := by
  unfold accept
  split_ifs with outside limited
  · exact .refused c _ accepting unfinished rfl (by rw [AcceptLoop.turn, if_pos outside]; rfl)
  · exact .refused c _ accepting unfinished rfl (by rw [AcceptLoop.turn, if_neg outside, if_pos limited]; rfl)
  · have admitted : Admits loop c := by
      refine ⟨?_, by simpa using limited⟩
      by_cases open_ : loop.allow = ""
      · exact .inl open_
      · exact .inr (by_contra fun other => outside ⟨open_, other⟩)
    split
    · rename_i keyless
      exact .opened c accepting unfinished admitted keyless
    · rename_i authorize keyed
      exact .shaking c authorize accepting unfinished admitted keyed

theorem supervise_up (index : Nat) (lane : SupervisedLane) (action : SupervisorAction)
    (taken : st.supervise index lane action = some next) :
    ∃ supervisor, Supervisor.Move false lane.supervisor action supervisor ∧
      next = st.setLane index { lane with supervisor := supervisor } := by
  obtain ⟨supervisor, moved, rfl⟩ := Option.map_eq_some_iff.mp taken
  exact ⟨supervisor, Supervisor.step_move false _ _ _ moved, rfl⟩

theorem lane_effect (index : Nat) (lane : SupervisedLane) (move : LaneMove) (found : st.lanes[index]? = some lane)
    (taken : st.laneStep index lane move = some next) : Effect prim lib loop st (.lane index move) next := by
  cases move with
  | call =>
      rw [laneStep] at taken
      split_ifs at taken with top done
      · obtain ⟨_, moved, rfl⟩ := supervise_up st next index lane _ taken
        cases moved
        exact .stopped index lane .call found done (.inl top)
      · obtain ⟨_, moved, rfl⟩ := supervise_up st next index lane _ taken
        cases moved
        exact .called index lane found top (by simpa using done)
  | claim =>
      rw [laneStep, claim] at taken
      split at taken
      · rename_i ready entry received
        obtain ⟨supervisor, moved, rfl⟩ := Option.map_eq_some_iff.mp taken
        cases Supervisor.step_move false _ _ _ moved with
        | acquired _ acquiring => exact .claimed index lane entry ready found acquiring received
      · cases taken
  | stop =>
      rw [laneStep] at taken
      split_ifs at taken with ready
      obtain ⟨_, moved, rfl⟩ := supervise_up st next index lane _ taken
      cases moved
      exact .stopped index lane .stop found ready.2 (.inr ready.1)
  | watch =>
      rw [laneStep] at taken
      split_ifs at taken with due
      cases taken
      exact .watched index lane found due.1 due.2.1 due.2.2
  | ended =>
      rw [laneStep, SingleServer.ended] at taken
      obtain ⟨entry, held, rest⟩ := Option.bind_eq_some_iff.mp taken
      obtain ⟨supervisor, moved, rfl⟩ := Option.map_eq_some_iff.mp rest
      cases Supervisor.step_move false _ _ _ moved with
      | laneEnded _ up => exact .ended index lane entry found held

theorem step_effect (move : ServerMove) (taken : st.step prim lib loop move = some next) : Effect prim lib loop st move next := by
  cases move with
  | acceptFailed =>
      rw [step] at taken
      split at taken
      · rename_i accepting
        split_ifs at taken with done
        · cases taken
          exact .acceptEnded accepting done
        · cases taken
          exact .acceptRetry accepting
      · cases taken
  | slept full =>
      rw [step] at taken
      split at taken
      · rename_i sleeping
        obtain ⟨_, same⟩ := Option.ite_none_right_eq_some.mp taken
        cases same
        exact .slept full sleeping
      · cases taken
  | accept c =>
      rw [step] at taken
      split at taken
      · rename_i accepting
        split_ifs at taken with finished
        cases taken
        exact accept_effect prim lib loop st accepting (by simpa using finished) c
      · cases taken
  | handshake =>
      rw [step] at taken
      split at taken
      · rename_i number c authorize here
        cases taken
        unfold shake
        split
        · rename_i problem failed
          exact .shakeFailed number c authorize problem here failed
        · rename_i ident reply passed
          exact .shaken number c authorize ident reply here passed
      · cases taken
  | offer =>
      rw [step] at taken
      split at taken
      · rename_i number c ident here
        rw [offer] at taken
        split at taken
        · rename_i ready sent
          cases taken
          exact .offered number c ident ready here sent
        · cases taken
      · cases taken
  | drop =>
      rw [step] at taken
      split at taken
      · rename_i number c ident here
        split_ifs at taken with done
        cases taken
        exact .dropped number c ident here done
      · cases taken
  | lane index move =>
      obtain ⟨lane, found, rest⟩ := Option.bind_eq_some_iff.mp taken
      exact lane_effect prim lib loop st next index lane move found rest
  | cancel =>
      cases taken
      exact .cancelled
  | finish =>
      rw [step] at taken
      split_ifs at taken with ready
      cases taken
      simp only [Bool.and_eq_true, List.all_eq_true, decide_eq_true_eq] at ready
      exact .finished ready.1

end Effects

section Placement

variable (prim : Primitives) (lib : NoiseLib) (loop : AcceptLoop) (st next : SingleServer)

def places (st : SingleServer) : List Nat := st.inLoop ++ st.waiting ++ st.running ++ st.closed

structure Placed (lanes : Nat) (st : SingleServer) : Prop where
  once : ∀ number, st.places.count number = (List.range st.conns.length).count number
  width : st.lanes.length = lanes ∧ st.ready.capacity = lanes
  room : st.ready.items.length ≤ st.ready.capacity
  held : ∀ lane ∈ st.lanes, lane.Agrees

theorem places_lane (index : Nat) (lane changed : SupervisedLane) (found : st.lanes[index]? = some lane) (number : Nat) :
    (st.setLane index changed).running.count number + (lane.running.map PoolEntry.c).toList.count number =
      st.running.count number + (changed.running.map PoolEntry.c).toList.count number :=
  Counting.count_held_set st.lanes index (fun lane => lane.running.map PoolEntry.c) lane changed found number

theorem places_kept (index : Nat) (lane changed : SupervisedLane) (found : st.lanes[index]? = some lane)
    (same : changed.running = lane.running) (number : Nat) : (st.setLane index changed).places.count number = st.places.count number := by
  have moved := places_lane st index lane changed found number
  rw [same] at moved
  simp only [places, inLoop, waiting, setLane, List.count_append] at moved ⊢
  omega

theorem effect_places (lanes : Nat) (move : ServerMove) (placed : Placed lanes st) (effect : Effect prim lib loop st move next)
    (number : Nat) : next.places.count number = (List.range next.conns.length).count number := by
  have once := placed.once number
  cases effect with
  | called index lane found | stopped index lane _ found | watched index lane found =>
      exact (places_kept st index lane _ found (by rfl) number).trans once
  | acceptEnded accepting | acceptRetry accepting => simpa [places, inLoop, accepting, waiting, running] using once
  | slept full sleeping => cases full <;> simpa [places, inLoop, sleeping, waiting, running] using once
  | refused c log accepting =>
      simp only [places, inLoop, accepting, waiting, running, refuse, counted, List.count_append, List.length_append,
        List.length_singleton, List.range_succ] at once ⊢
      omega
  | opened c accepting | shaking c authorize accepting =>
      simp only [places, inLoop, accepting, waiting, running, counted, List.count_append, List.length_append,
        List.length_singleton, List.range_succ, List.count_nil] at once ⊢
      omega
  | shakeFailed _ _ _ _ here =>
      simp only [places, inLoop, here, waiting, running, refuse, List.count_append, List.count_nil] at once ⊢
      omega
  | shaken _ _ _ _ _ here => simpa [places, inLoop, here, waiting, running] using once
  | offered n c ident ready here taken =>
      have items : ready.items = st.ready.items ++ [⟨n, c.input, ident⟩] := (Channels.try_send_fits st.ready ready _ taken).1
      simp only [places, inLoop, here, waiting, running, sending, items, List.map_append, List.count_append, List.map_cons,
        List.map_nil, List.count_nil] at once ⊢
      omega
  | dropped n c ident here =>
      simp only [places, inLoop, here, waiting, running, drop, List.count_append, List.count_nil] at once ⊢
      omega
  | claimed index lane entry ready found acquiring taken =>
      have items := (Channels.receive_got st.ready ready entry taken).1
      have moved := places_lane st index lane ⟨lane.supervisor.laneUp false entry.conn.ident, some entry, false⟩ found number
      have free : lane.running = none := placed.held lane (List.mem_of_getElem? found) |>.free (by simp [acquiring])
      simp only [places, List.count_append, inLoop, waiting, setLane, running, items, free, List.map_cons, List.count_cons,
        Option.map_none, Option.toList_none, List.count_nil, Option.map_some, Option.toList_some] at once moved ⊢
      omega
  | ended index lane entry found held =>
      have moved := places_lane st index lane ⟨lane.supervisor.setPoint .top, none, false⟩ found number
      simp only [places, List.count_append, inLoop, waiting, setLane, running, held, Option.map_none, Option.toList_none,
        List.count_nil, Option.map_some, Option.toList_some] at once moved ⊢
      omega
  | cancelled | finished => exact once

theorem effect_agrees (lanes : Nat) (move : ServerMove) (placed : Placed lanes st) (effect : Effect prim lib loop st move next) :
    ∀ lane ∈ next.lanes, lane.Agrees := by
  have held := placed.held
  cases effect with
  | called index lane found top =>
      refine Counting.all_set st.lanes index _ _ held ?_
      have free := (held lane (List.mem_of_getElem? found)).free (by simp [top])
      simp [SupervisedLane.Agrees, free, Supervisor.setPoint]
  | stopped index lane _ found _ down =>
      refine Counting.all_set st.lanes index _ _ held ?_
      have free := (held lane (List.mem_of_getElem? found)).free (by rcases down with top | acquiring <;> simp [*])
      simp [SupervisedLane.Agrees, free, Supervisor.setPoint]
  | claimed index lane entry => exact Counting.all_set st.lanes index _ _ held rfl
  | watched index lane found => exact Counting.all_set st.lanes index _ _ held (held lane (List.mem_of_getElem? found))
  | ended index lane entry found =>
      exact Counting.all_set st.lanes index _ _ held (by simp [SupervisedLane.Agrees, Supervisor.setPoint])
  | acceptEnded | acceptRetry | slept | refused | opened | shaking | shakeFailed | shaken | offered | dropped | cancelled | finished =>
      exact held

theorem effect_room (lanes : Nat) (move : ServerMove) (placed : Placed lanes st) (effect : Effect prim lib loop st move next) :
    (next.lanes.length = lanes ∧ next.ready.capacity = lanes) ∧ next.ready.items.length ≤ next.ready.capacity := by
  obtain ⟨length, capacity⟩ := placed.width
  have room := placed.room
  cases effect with
  | offered _ _ _ ready _ taken =>
      obtain ⟨_, same, fits⟩ := Channels.try_send_fits st.ready ready _ taken
      exact ⟨⟨length, same.trans capacity⟩, fits⟩
  | claimed index lane entry ready found _ taken =>
      obtain ⟨items, same⟩ := Channels.receive_got st.ready ready entry taken
      rw [items, List.length_cons] at room
      exact ⟨⟨(List.length_set ..).trans length, same.trans capacity⟩, by change ready.items.length ≤ ready.capacity; omega⟩
  | called | stopped | watched | ended => exact ⟨⟨(List.length_set ..).trans length, capacity⟩, room⟩
  | acceptEnded | acceptRetry | slept | refused | opened | shaking | shakeFailed | shaken | dropped | cancelled | finished =>
      exact ⟨⟨length, capacity⟩, room⟩

theorem placed_preserved (lanes : Nat) : Runs.Preserved (step prim lib loop) (fun _ _ => True) (Placed lanes) := by
  intro st move next placed _ taken
  have effect := step_effect prim lib loop st next move taken
  obtain ⟨width, room⟩ := effect_room prim lib loop st next lanes move placed effect
  exact ⟨effect_places prim lib loop st next lanes move placed effect, width, room,
    effect_agrees prim lib loop st next lanes move placed effect⟩

theorem start_placed (queues : List KernelTUN) : Placed queues.length (start queues) := by
  refine ⟨fun number => ?_, ⟨by simp [start], rfl⟩, Nat.zero_le _, fun lane member => ?_⟩
  · simp [places, start, inLoop, waiting, running, Channels.Channel.make, SupervisedLane.start, List.filterMap_map, Function.comp_def]
  · obtain ⟨queue, _, rfl⟩ := List.mem_map.mp member
    simp [SupervisedLane.Agrees, SupervisedLane.start, Supervisor.start]

end Placement

section Refinement

variable (prim : Primitives) (lib : NoiseLib) (loop : AcceptLoop) (st next : SingleServer)

def turns : AcceptState × Bool := Runs.loop (loop.turn prim lib) .start st.events

structure Traced (st : SingleServer) : Prop where
  turned : match st.point with
    | .accepting | .sleeping => st.turns prim lib loop = (st.log, true)
    | .returned => st.turns prim lib loop = (st.log, false)
    | .shaking _ c authorize => ∃ before, st.turns prim lib loop = (before, true) ∧ Admits loop c ∧
        loop.authorize = some authorize ∧ st.log = { before with accepts := before.accepts + 1 }
    | .offering _ c ident => ∃ before, st.turns prim lib loop = (before, true) ∧ before.ready = st.log.ready ∧
        ∀ delivered, loop.turn prim lib before (c.settle delivered) = st.log.deliver { c with delivered := delivered } ident
  logged : st.log.ready = st.sent.map PoolEntry.conn
  relayed : st.ready.Relayed st.sent st.claimed
  holders : ∀ lane ∈ st.lanes, ∀ entry, lane.running = some entry → entry ∈ st.claimed

theorem turn_admitted (before : AcceptState) (c : Incoming) (admitted : Admits loop c) :
    loop.turn prim lib before (.accepted c) =
      match loop.authorize with
      | none => { before with accepts := before.accepts + 1 }.deliver c .zero
      | some authorize =>
          match acceptHandshake prim lib (loop.acceptor c authorize) c.input with
          | .error _ => ({ before with accepts := before.accepts + 1, handshakeFail := before.handshakeFail + 1 }, true)
          | .ok (ident, _) =>
              { before with accepts := before.accepts + 1, handshakeOK := before.handshakeOK + 1 }.deliver c ident := by
  rewrite [AcceptLoop.turn, if_neg (by rcases admitted.1 with here | here <;> simp [here]), if_neg (by simp [admitted.2])]
  rfl

theorem turns_next (event : AcceptEvent) (before : AcceptState) (turned : st.turns prim lib loop = (before, true))
    (log : AcceptState) (continues : Bool) (taken : loop.turn prim lib before event = (log, continues))
    (events : next.events = st.events ++ [event]) : next.turns prim lib loop = (log, continues) := by
  rw [turns, events, Runs.loop_concat _ _ before st.events event turned, taken]

theorem effect_turned (move : ServerMove) (traced : Traced prim lib loop st) (effect : Effect prim lib loop st move next) :
    match next.point with
    | .accepting | .sleeping => next.turns prim lib loop = (next.log, true)
    | .returned => next.turns prim lib loop = (next.log, false)
    | .shaking _ c authorize => ∃ before, next.turns prim lib loop = (before, true) ∧ Admits loop c ∧
        loop.authorize = some authorize ∧ next.log = { before with accepts := before.accepts + 1 }
    | .offering _ c ident => ∃ before, next.turns prim lib loop = (before, true) ∧ before.ready = next.log.ready ∧
        ∀ delivered, loop.turn prim lib before (c.settle delivered) = next.log.deliver { c with delivered := delivered } ident := by
  have turned := traced.turned
  cases effect with
  | acceptEnded accepting =>
      simp only [accepting] at turned
      exact turns_next prim lib loop st _ (.failed true false) st.log turned _ _ rfl rfl
  | acceptRetry accepting =>
      simp only [accepting] at turned
      exact turned
  | slept full sleeping =>
      simp only [sleeping] at turned
      cases full <;> exact turns_next prim lib loop st _ (.failed false _) st.log turned _ _ rfl rfl
  | refused c log accepting _ _ refused =>
      simp only [accepting] at turned
      exact turns_next prim lib loop st _ (.accepted c) st.log turned _ _ refused rfl
  | opened c accepting _ admitted keyless =>
      simp only [accepting] at turned
      refine ⟨st.log, turned, rfl, fun delivered => ?_⟩
      rw [Incoming.settle, turn_admitted prim lib loop st.log { c with delivered := delivered } admitted, keyless]
      rfl
  | shaking c authorize accepting _ admitted keyed =>
      simp only [accepting] at turned
      exact ⟨st.log, turned, admitted, keyed, rfl⟩
  | shakeFailed _ c authorize _ here failed =>
      simp only [here] at turned
      obtain ⟨before, turned, admitted, keyed, log⟩ := turned
      refine turns_next prim lib loop st _ (.accepted c) before turned _ _ ?_ rfl
      simp only [turn_admitted prim lib loop before c admitted, keyed, failed, log, refuse]
  | shaken _ c authorize ident reply here passed =>
      simp only [here] at turned
      obtain ⟨before, turned, admitted, keyed, log⟩ := turned
      refine ⟨before, turned, by rw [log], fun delivered => ?_⟩
      have same : acceptHandshake prim lib (loop.acceptor { c with delivered := delivered } authorize) c.input =
          .ok (ident, reply) := passed
      rw [Incoming.settle, turn_admitted prim lib loop before { c with delivered := delivered } admitted, keyed]
      simp only [same, log]
  | offered _ c ident ready here =>
      simp only [here] at turned
      obtain ⟨before, turned, _, settled⟩ := turned
      exact turns_next prim lib loop st _ (c.settle true) before turned _ _ (settled true) rfl
  | dropped _ c ident here =>
      simp only [here] at turned
      obtain ⟨before, turned, _, settled⟩ := turned
      exact turns_next prim lib loop st _ (c.settle false) before turned _ _ (settled false) rfl
  | called | stopped | claimed | watched | ended | cancelled | finished => exact turned

theorem effect_logged (move : ServerMove) (traced : Traced prim lib loop st) (effect : Effect prim lib loop st move next) :
    next.log.ready = next.sent.map PoolEntry.conn := by
  have logged := traced.logged
  cases effect with
  | refused c log _ _ ready => exact ready.trans logged
  | offered => simp [sending, logged]
  | acceptEnded | acceptRetry | slept | opened | shaking | shakeFailed | shaken | dropped | called | stopped | claimed | watched
  | ended | cancelled | finished => exact logged

theorem effect_relayed (move : ServerMove) (traced : Traced prim lib loop st) (effect : Effect prim lib loop st move next) :
    next.ready.Relayed next.sent next.claimed := by
  have relayed := traced.relayed
  cases effect with
  | offered _ _ _ ready _ taken => exact (Channels.relayed_sent st.ready ready _ taken _ _ relayed).1
  | claimed _ _ entry ready _ _ taken => exact (Channels.relayed_got st.ready ready entry taken _ _ relayed).1
  | refused | acceptEnded | acceptRetry | slept | opened | shaking | shakeFailed | shaken | dropped | called | stopped | watched
  | ended | cancelled | finished => exact relayed

theorem effect_holders (move : ServerMove) (traced : Traced prim lib loop st) (effect : Effect prim lib loop st move next) :
    ∀ lane ∈ next.lanes, ∀ entry, lane.running = some entry → entry ∈ next.claimed := by
  have holders := traced.holders
  cases effect with
  | called index lane found | stopped index lane _ found | watched index lane found =>
      exact Counting.all_set st.lanes index _ _ holders (holders lane (List.mem_of_getElem? found))
  | claimed index lane entry =>
      refine Counting.all_set st.lanes index _ _ (fun lane member other running => ?_) fun other running => ?_
      · exact List.mem_append_left _ (holders lane member other running)
      · obtain rfl := Option.some.inj running
        exact List.mem_append_right _ (List.mem_singleton_self _)
  | ended index => exact Counting.all_set st.lanes index _ _ holders fun _ running => by cases running
  | refused | acceptEnded | acceptRetry | slept | opened | shaking | shakeFailed | shaken | offered | dropped
  | cancelled | finished => exact holders

theorem traced_preserved : Runs.Preserved (step prim lib loop) (fun _ _ => True) (Traced prim lib loop) := by
  intro st move next traced _ taken
  have effect := step_effect prim lib loop st next move taken
  exact ⟨effect_turned prim lib loop st next move traced effect, effect_logged prim lib loop st next move traced effect,
    effect_relayed prim lib loop st next move traced effect, effect_holders prim lib loop st next move traced effect⟩

theorem start_traced (queues : List KernelTUN) : Traced prim lib loop (start queues) := by
  refine ⟨rfl, rfl, rfl, fun lane member entry running => ?_⟩
  obtain ⟨queue, _, rfl⟩ := List.mem_map.mp member
  cases running

end Refinement

section Vetting

variable (prim : Primitives) (lib : NoiseLib) (loop : AcceptLoop) (st next : SingleServer)

structure Passed (c : Incoming) (conn : ReadyConn) : Prop where
  admitted : Admits loop c
  input : conn.input = c.input
  ident : match loop.authorize with
    | none => conn.ident = .zero
    | some authorize => ∃ reply, acceptHandshake prim lib (loop.acceptor c authorize) c.input = .ok (conn.ident, reply)

structure Vetted (st : SingleServer) : Prop where
  inHand : match st.point with
    | .shaking number c authorize => st.conns[number]? = some c ∧ Admits loop c ∧ loop.authorize = some authorize
    | .offering number c ident => st.conns[number]? = some c ∧ Passed prim lib loop c ⟨c.input, ident⟩
    | _ => True
  sent : ∀ entry ∈ st.sent, ∃ c, st.conns[entry.c]? = some c ∧ Passed prim lib loop c entry.conn

theorem newest (c : Incoming) : (st.conns ++ [c])[st.conns.length]? = some c := by
  rw [List.getElem?_append_right (Nat.le_refl _), Nat.sub_self]
  rfl

theorem effect_vetted (move : ServerMove) (vetted : Vetted prim lib loop st) (effect : Effect prim lib loop st move next) :
    Vetted prim lib loop next := by
  have grown : ∀ c, ∀ entry ∈ st.sent, ∃ old, (st.conns ++ [c])[entry.c]? = some old ∧ Passed prim lib loop old entry.conn := by
    intro c entry member
    obtain ⟨old, found, passed⟩ := vetted.sent entry member
    exact ⟨old, by rw [List.getElem?_append_left (List.getElem?_eq_some_iff.mp found).1, found], passed⟩
  have inHand := vetted.inHand
  cases effect with
  | acceptEnded | acceptRetry | dropped | shakeFailed => exact ⟨trivial, vetted.sent⟩
  | slept full => exact ⟨by cases full <;> trivial, vetted.sent⟩
  | refused c => exact ⟨trivial, grown c⟩
  | opened c _ _ admitted keyless =>
      exact ⟨⟨newest st c, admitted, rfl, by rw [keyless]⟩, grown c⟩
  | shaking c authorize _ _ admitted keyed => exact ⟨⟨newest st c, admitted, keyed⟩, grown c⟩
  | shaken number c authorize ident reply here passed =>
      simp only [here] at inHand
      obtain ⟨found, admitted, keyed⟩ := inHand
      refine ⟨⟨found, admitted, rfl, ?_⟩, vetted.sent⟩
      rw [keyed]
      exact ⟨reply, passed⟩
  | offered number c ident ready here =>
      simp only [here] at inHand
      refine ⟨trivial, fun entry member => ?_⟩
      rcases List.mem_append.mp member with before | last
      · exact vetted.sent entry before
      · obtain rfl := List.mem_singleton.mp last
        exact ⟨c, inHand⟩
  | called | stopped | claimed | watched | ended | cancelled | finished => exact ⟨inHand, vetted.sent⟩

theorem vetted_preserved : Runs.Preserved (step prim lib loop) (fun _ _ => True) (Vetted prim lib loop) :=
  fun st move next vetted _ taken => effect_vetted prim lib loop st next move vetted (step_effect prim lib loop st next move taken)

theorem start_vetted (queues : List KernelTUN) : Vetted prim lib loop (start queues) :=
  ⟨trivial, fun _ member => by cases member⟩

end Vetting

section Shutdown

variable (prim : Primitives) (lib : NoiseLib) (loop : AcceptLoop) (st next : SingleServer)

def SupervisedLane.left (lane : SupervisedLane) : Nat :=
  match lane.supervisor.point with
  | .acquiring => 4
  | .up _ => if lane.cut then 2 else 3
  | .top | .waiting _ => 1
  | .stopped => 0

def ServerMove.isLane (index : Nat) : ServerMove → Bool
  | .lane other _ => other == index
  | _ => false

def left (index : Nat) (st : SingleServer) : Nat := ((st.lanes[index]?).map SupervisedLane.left).getD 0

theorem lane_left (lane : SupervisedLane) : SupervisedLane.left lane ≤ 4 := by
  unfold SupervisedLane.left
  split
  · exact Nat.le_refl 4
  · split_ifs <;> omega
  · omega
  · omega
  · omega

theorem left_bounded (index : Nat) : st.left index ≤ 4 := by
  unfold left
  cases st.lanes[index]? with
  | none => exact Nat.zero_le 4
  | some lane => exact lane_left lane

theorem left_set (index other : Nat) (lane changed : SupervisedLane) (found : st.lanes[index]? = some lane)
    (less : SupervisedLane.left changed + 1 ≤ SupervisedLane.left lane) :
    (if index == other then 1 else 0) + (st.setLane index changed).left other ≤ st.left other := by
  rw [left, left, setLane, Counting.get_set st.lanes index other lane changed found]
  by_cases here : other = index
  · subst here
    simp only [found, beq_self_eq_true, if_true, Option.map_some, Option.getD_some]
    omega
  · simp [here, Ne.symm here]

theorem effect_spends (lanes other : Nat) (move : ServerMove) (placed : Placed lanes st) (done : st.done = true)
    (effect : Effect prim lib loop st move next) :
    (if ServerMove.isLane other move then 1 else 0) + next.left other ≤ st.left other := by
  have up : ∀ lane entry, lane ∈ st.lanes → lane.running = some entry → lane.supervisor.point = .up entry.conn.ident := by
    intro lane entry member running
    have agrees := placed.held lane member
    simpa only [SupervisedLane.Agrees, running] using agrees
  cases effect with
  | called _ _ _ _ running => simp [done] at running
  | stopped index lane move found _ down =>
      refine left_set st index other lane _ found ?_
      rcases down with top | acquiring <;> simp [SupervisedLane.left, Supervisor.setPoint, *]
  | claimed index lane entry ready found acquiring =>
      refine left_set st index other lane ⟨_, some entry, false⟩ found ?_
      simp [SupervisedLane.left, Supervisor.laneUp, acquiring]
  | watched index lane found _ held uncut =>
      obtain ⟨entry, running⟩ := Option.isSome_iff_exists.mp held
      refine left_set st index other lane _ found ?_
      simp [SupervisedLane.left, up lane entry (List.mem_of_getElem? found) running, uncut]
  | ended index lane entry found held =>
      refine left_set st index other lane ⟨lane.supervisor.setPoint .top, none, false⟩ found ?_
      simp only [SupervisedLane.left, up lane entry (List.mem_of_getElem? found) held, Supervisor.setPoint]
      split_ifs <;> omega
  | acceptEnded | acceptRetry | slept | refused | opened | shaking | shakeFailed | shaken | offered | dropped | cancelled | finished =>
      exact (Nat.zero_add _).le

theorem effect_done (move : ServerMove) (done : st.done = true) (effect : Effect prim lib loop st move next) : next.done = true := by
  cases effect <;> first | exact done | rfl

def Stopped (st : SingleServer) : Prop := ∀ lane ∈ st.lanes, lane.supervisor.point = .stopped

theorem effect_abandoned (lanes : Nat) (move : ServerMove) (placed : Placed lanes st) (stopped : st.Stopped)
    (effect : Effect prim lib loop st move next) : next.Stopped ∧ st.ready.items <+: next.ready.items := by
  have halted : ∀ (index : Nat) (lane : SupervisedLane), st.lanes[index]? = some lane → lane.supervisor.point = .stopped :=
    fun index lane found => stopped lane (List.mem_of_getElem? found)
  have idle : ∀ (index : Nat) (lane : SupervisedLane), st.lanes[index]? = some lane → lane.running = none :=
    fun index lane found => (placed.held lane (List.mem_of_getElem? found)).free (by simp [halted index lane found])
  cases effect with
  | called index lane found top => simp [halted index lane found] at top
  | stopped index lane _ found _ down => simp [halted index lane found] at down
  | claimed index lane _ _ found acquiring => simp [halted index lane found] at acquiring
  | watched index lane found _ held => simp [idle index lane found] at held
  | ended index lane entry found held => simp [idle index lane found] at held
  | offered number c ident ready _ taken =>
      have items : ready.items = st.ready.items ++ [⟨number, c.input, ident⟩] := (Channels.try_send_fits st.ready ready _ taken).1
      refine ⟨stopped, ?_⟩
      rw [sending, items]
      exact List.prefix_append ..
  | acceptEnded | acceptRetry | slept | refused | opened | shaking | shakeFailed | shaken | dropped | cancelled | finished =>
      exact ⟨stopped, List.prefix_rfl⟩

end Shutdown

section Results

variable (prim : Primitives) (lib : NoiseLib) (loop : AcceptLoop) (queues : List KernelTUN) (st : SingleServer)
  (reached : Runs.Reach (step prim lib loop) (fun _ _ => True) (start queues) st)
include reached

theorem connections_placed :
    (st.inLoop ++ st.waiting ++ st.running ++ st.closed).Perm (List.range st.conns.length) ∧
      st.conns.length ≤ st.closed.length + 2 * queues.length + 1 := by
  have placed := Runs.reach_invariant (placed_preserved prim lib loop queues.length) reached (start_placed queues)
  have perm : st.places.Perm (List.range st.conns.length) := List.perm_iff_count.mpr placed.once
  refine ⟨perm, ?_⟩
  have total := perm.length_eq
  have waits : st.waiting.length ≤ queues.length := by
    rw [waiting, List.length_map, ← placed.width.2]
    exact placed.room
  have runs : st.running.length ≤ queues.length := by
    rw [← placed.width.1]
    exact List.length_filterMap_le ..
  have one : st.inLoop.length ≤ 1 := by
    unfold inLoop
    split <;> simp
  simp only [places, List.length_append, List.length_range] at total
  omega

theorem connections_vetted :
    (loop.runAcceptLoop prim lib st.events).ready = (st.claimed ++ st.ready.items).map PoolEntry.conn ∧
      ∀ lane ∈ st.lanes, ∀ entry, lane.running = some entry → lane.supervisor.point = .up entry.conn.ident ∧
        ∃ c, st.conns[entry.c]? = some c ∧ Passed prim lib loop c entry.conn := by
  have placed := Runs.reach_invariant (placed_preserved prim lib loop queues.length) reached (start_placed queues)
  have traced := Runs.reach_invariant (traced_preserved prim lib loop) reached (start_traced prim lib loop queues)
  have vetted := Runs.reach_invariant (vetted_preserved prim lib loop) reached (start_vetted prim lib loop queues)
  have whole : st.sent = st.claimed ++ st.ready.items := traced.relayed
  refine ⟨?_, fun lane member entry running => ⟨?_, ?_⟩⟩
  · rw [← whole, ← traced.logged]
    have turned := traced.turned
    change (st.turns prim lib loop).1.ready = st.log.ready
    split at turned
    · rw [turned]
    · rw [turned]
    · rw [turned]
    · obtain ⟨before, same, _, _, log⟩ := turned
      rw [same, log]
    · obtain ⟨before, same, ready, _⟩ := turned
      rw [same, ready]
  · have agrees := placed.held lane member
    simpa only [SupervisedLane.Agrees, running] using agrees
  · exact vetted.sent entry (whole ▸ List.mem_append_left _ (traced.holders lane member entry running))

-- Once the context has ended each supervisor takes at most four more steps, and
-- what waits in the pool when they have returned is never closed.
theorem shutdown_left_behind (trace : List (SingleServer × ServerMove)) (final : SingleServer)
    (run : Runs.Run (step prim lib loop) st trace final) :
    (st.done = true → ∀ index, trace.countP (fun entry => ServerMove.isLane index entry.2) ≤ 4) ∧
      (st.Stopped → ∀ entry ∈ st.ready.items, entry ∈ final.ready.items ∧ entry.c ∉ final.closed) := by
  have placed := Runs.reach_invariant (placed_preserved prim lib loop queues.length) reached (start_placed queues)
  refine ⟨fun done index => ?_, fun stopped entry member => ?_⟩
  · have ending : Runs.Preserved (step prim lib loop) (fun _ _ => True) fun st => st.done = true ∧ Placed queues.length st :=
      fun st move next held allowed taken =>
        ⟨effect_done prim lib loop st next move held.1 (step_effect prim lib loop st next move taken),
          placed_preserved prim lib loop queues.length st move next held.2 allowed taken⟩
    have spent := Runs.run_spends (left index) (ServerMove.isLane index) ending
      (fun st move next held taken => effect_spends prim lib loop st next queues.length index move held.2 held.1
        (step_effect prim lib loop st next move taken)) run (fun _ _ => trivial) ⟨done, placed⟩
    have most := left_bounded st index
    omega
  · have abandoned : Runs.Preserved (step prim lib loop) (fun _ _ => True)
        fun later => later.Stopped ∧ Placed queues.length later ∧ st.ready.items <+: later.ready.items := by
      rintro later move next ⟨halted, held, front⟩ allowed taken
      obtain ⟨halted', longer⟩ := effect_abandoned prim lib loop later next queues.length move held halted
        (step_effect prim lib loop later next move taken)
      exact ⟨halted', placed_preserved prim lib loop queues.length later move next held allowed taken, front.trans longer⟩
    obtain ⟨_, held, front⟩ := (Runs.run_invariant abandoned run (fun _ _ => trivial) ⟨stopped, placed, List.prefix_rfl⟩).1
    have there := front.subset member
    refine ⟨there, fun shut => ?_⟩
    have once := held.once entry.c
    have waits : 0 < final.waiting.count entry.c := List.count_pos_iff.mpr (List.mem_map_of_mem there)
    have closes : 0 < final.closed.count entry.c := List.count_pos_iff.mpr shut
    have single := List.nodup_iff_count_le_one.mp (List.nodup_range (n := final.conns.length)) entry.c
    simp only [places, List.count_append] at once
    omega

end Results

end SingleServer

def sampleLoop : AcceptLoop := ⟨"", sampleServer.static, cipherAESGCM, true, some sampleServer.authorize⟩

def sampleIncoming : Incoming := ⟨"198.51.100.7", true, sampleGreeting.2, [], some clearDraw, true, true⟩

def admitMoves (c : Incoming) : List ServerMove := [.accept c, .handshake, .offer]

def soleLaneMoves : List ServerMove :=
  [.accept { sampleIncoming with input := [] }, .handshake] ++ admitMoves sampleIncoming ++ [.lane 0 .call, .lane 0 .claim] ++
    admitMoves sampleIncoming

def closingMoves : List ServerMove := [.lane 0 .watch, .lane 0 .ended, .lane 0 .call]

def soleLaneRun (moves : List ServerMove) : Option SingleServer :=
  Runs.execute (SingleServer.step clearPrimitives clearNoise sampleLoop) (fun _ _ => True) (.start [usoQueue]) moves

def SoleLaneReach (st : SingleServer) : Prop :=
  Runs.Reach (SingleServer.step clearPrimitives clearNoise sampleLoop) (fun _ _ => True) (.start [usoQueue]) st

theorem connections_placed_sole :
    ∃ st, SoleLaneReach st ∧ (st.waiting, st.running, st.closed) = ([2], [1], [0]) ∧
      (st.inLoop ++ st.waiting ++ st.running ++ st.closed).Perm (List.range st.conns.length) := by
  have observed : (soleLaneRun soleLaneMoves).map (fun st => (st.waiting, st.running, st.closed)) = some ([2], [1], [0]) := by
    decide +kernel
  obtain ⟨st, completed, view⟩ := Option.map_eq_some_iff.mp observed
  have reached : SoleLaneReach st := Runs.execute_reach _ _ _ completed
  exact ⟨st, reached, view, (SingleServer.connections_placed clearPrimitives clearNoise sampleLoop [usoQueue] st reached).1⟩

theorem connections_vetted_sole :
    ∃ st lane entry c, SoleLaneReach st ∧ lane ∈ st.lanes ∧ lane.running = some entry ∧ entry.c = 1 ∧
      st.conns[entry.c]? = some c ∧ SingleServer.Passed clearPrimitives clearNoise sampleLoop c entry.conn := by
  have observed : (soleLaneRun soleLaneMoves).map (fun st => st.lanes.map fun lane => lane.running.map PoolEntry.c) =
      some [some 1] := by
    decide +kernel
  obtain ⟨st, completed, view⟩ := Option.map_eq_some_iff.mp observed
  have reached : SoleLaneReach st := Runs.execute_reach _ _ _ completed
  obtain ⟨lane, member, held⟩ := List.mem_map.mp (view ▸ List.mem_singleton_self (some 1))
  obtain ⟨entry, running, number⟩ := Option.map_eq_some_iff.mp held
  obtain ⟨_, c, found, passed⟩ := (SingleServer.connections_vetted clearPrimitives clearNoise sampleLoop [usoQueue] st reached).2
    lane member entry running
  exact ⟨st, lane, entry, c, reached, member, running, number, found, passed⟩

theorem shutdown_left_behind_sole :
    ∃ st trace mid after last entry, SoleLaneReach st ∧ st.done = true ∧
      Runs.Run (SingleServer.step clearPrimitives clearNoise sampleLoop) st trace mid ∧ trace.map Prod.snd = closingMoves ∧
      trace.countP (fun entry => SingleServer.ServerMove.isLane 0 entry.2) ≤ 4 ∧ mid.Stopped ∧
      Runs.Run (SingleServer.step clearPrimitives clearNoise sampleLoop) mid after last ∧
      after.map Prod.snd = [.finish, .acceptFailed] ∧ entry ∈ mid.ready.items ∧ entry.c = 2 ∧ entry.c ∉ last.closed := by
  have observed : ((soleLaneRun (soleLaneMoves ++ [.cancel])).bind fun st => (Runs.execute
      (SingleServer.step clearPrimitives clearNoise sampleLoop) (fun _ _ => True) st closingMoves).bind fun mid => (Runs.execute
      (SingleServer.step clearPrimitives clearNoise sampleLoop) (fun _ _ => True) mid [.finish, .acceptFailed]).map fun _ =>
      (st.done, mid.lanes.all fun lane => lane.supervisor.point = .stopped, mid.waiting)) = some (true, true, [2]) := by
    decide +kernel
  obtain ⟨st, completed, rest⟩ := Option.bind_eq_some_iff.mp observed
  obtain ⟨mid, ending, rest⟩ := Option.bind_eq_some_iff.mp rest
  obtain ⟨last, finishing, view⟩ := Option.map_eq_some_iff.mp rest
  simp only [Prod.mk.injEq, List.all_eq_true, decide_eq_true_eq] at view
  obtain ⟨done, stopped, waits⟩ := view
  have reached : SoleLaneReach st := Runs.execute_reach _ _ _ completed
  obtain ⟨trace, run, allowed, actions⟩ := Runs.execute_run _ _ _ ending
  obtain ⟨after, later, _, moves⟩ := Runs.execute_run _ _ _ finishing
  have further : SoleLaneReach mid := Runs.reach_onward reached run allowed
  obtain ⟨entry, member, number⟩ := List.mem_map.mp (waits ▸ List.mem_singleton_self 2)
  have few := (SingleServer.shutdown_left_behind clearPrimitives clearNoise sampleLoop [usoQueue] st reached trace mid run).1 done 0
  have behind := (SingleServer.shutdown_left_behind clearPrimitives clearNoise sampleLoop [usoQueue] mid further after last later).2
    stopped entry member
  exact ⟨st, trace, mid, after, last, entry, reached, done, run, actions, few, stopped, later, moves, member, number, behind.2⟩

end Packethose
