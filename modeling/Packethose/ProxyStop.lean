import Mathlib.Algebra.Order.BigOperators.Group.List
import Mathlib.Algebra.Order.Ring.Nat
import Packethose.FlowDelivery
import Packethose.TcpRelay

set_option autoImplicit false

namespace Packethose

-- Stop before it closes the channel, the TCP listener and the UDP socket, in
-- wg.Wait and behind it.
inductive StopPoint where
  | idle
  | closed
  | unheard
  | waiting
  | returned
deriving DecidableEq

def StopPoint.udpClosed : StopPoint → Bool
  | .waiting | .returned => true
  | _ => false

structure Proxy where
  tcp : TcpRelay
  udp : FlowRelay
  stopper : StopPoint

inductive ProxyAction where
  | tcp (action : TcpAction)
  | udp (action : FlowAction)
  | stop

namespace Proxy

def start : Proxy := ⟨.start, .start, .idle⟩

def wg (st : Proxy) : Nat := st.tcp.wg + st.udp.wg

-- Closing belongs to Stop, and a closed socket has net.ErrClosed for every read.
def admits (st : Proxy) : ProxyAction → Bool
  | .tcp .close | .tcp .shut | .udp .stop => false
  | .udp (.receive (.failed errClosed)) => errClosed == st.stopper.udpClosed
  | .udp (.receive _) => !st.stopper.udpClosed
  | _ => true

section Steps

variable (net : NetLib) (t : TPROXYListener) (st : Proxy)

def stop : Option Proxy :=
  match st.stopper with
  | .idle =>
      (st.tcp.step net t .close).bind fun tcp => (st.udp.step net t .stop).map fun udp => ⟨tcp, udp, .closed⟩
  | .closed => (st.tcp.step net t .shut).map fun tcp => { st with tcp := tcp, stopper := .unheard }
  | .unheard => some { st with stopper := .waiting }
  | .waiting => if st.wg = 0 then some { st with stopper := .returned } else none
  | .returned => none

def step (action : ProxyAction) : Option Proxy :=
  if st.udp.crashed = true ∨ st.admits action = false then none
  else
    match action with
    | .tcp action => (st.tcp.step net t action).map fun tcp => { st with tcp := tcp }
    | .udp action => (st.udp.step net t action).map fun udp => { st with udp := udp }
    | .stop => st.stop net t

end Steps

end Proxy

def ProxyAction.counted : ProxyAction → Bool
  | .tcp (.flow _ _) | .udp (.advance _) | .udp .cancel => false
  | _ => true

-- Time passes, or a goroutine moves on without the context, a datagram or an
-- upstream.
def FlowAction.unaided : FlowAction → Bool
  | .stop | .cancel => false
  | .receive (.failed errClosed) => errClosed
  | .receive _ => false
  | .pumpRead _ result => result == .timeout
  | _ => true

def ProxyAction.unaided : ProxyAction → Bool
  | .tcp (.flow _ _) => false
  | .udp action => action.unaided
  | _ => true

def PumpPoint.ahead (clock : Nat) : PumpPoint → Nat
  | .done => 0
  | .shutting => 1
  | .leaving => 2
  | .checking => 3
  | .replying _ => 4
  | .storing _ _ => 5
  | .answered _ => 6
  | .reading deadline => if deadline ≤ clock then 7 else 8
  | .comparing _ _ => 9
  | .loading => 10

def AcceptPoint.ahead : AcceptPoint → Nat
  | .returned => 0
  | .top => 1
  | .receiving => 2
  | .batch rest => 2 + 8 * rest.length
  | .writing _ rest => 3 + 8 * rest.length
  | .marking _ rest => 4 + 8 * rest.length
  | .storing _ rest _ => 5 + 8 * rest.length
  | .stamping _ rest => 6 + 8 * rest.length

theorem PumpPoint.ahead_later (point : PumpPoint) (clock elapsed : Nat) : point.ahead (clock + elapsed) ≤ point.ahead clock := by
  cases point with
  | reading deadline =>
      simp only [ahead]
      split_ifs <;> omega
  | checking | loading | comparing | answered | storing | replying | leaving | shutting | done => exact Nat.le_refl _

namespace FlowRelay

def pumpsAhead (st : FlowRelay) : Nat := (st.heap.map fun f => f.pump.ahead st.clock).sum

def ahead (st : FlowRelay) : Nat := (if st.crashed then 0 else 1) + st.accept.ahead + st.pumpsAhead

def InHeap (st : FlowRelay) : Prop := ∀ item, st.accept.item = some item → ∃ e, st.ends item.flow = some e

section Steps

variable (net : NetLib) (t : TPROXYListener) (st next : FlowRelay) (action : FlowAction)

theorem turn_ahead (flow : Nat) (f : TPROXYUDPFlow) (point : PumpPoint) (stopped : st.stopped = true)
    (turn : Turn t st flow f action point) : point.ahead st.clock < f.pump.ahead st.clock := by
  cases turn with
  | passed _ running => simp [stopped] at running
  | ended here | loaded here | expired _ _ here | stamped _ here | unsent _ here => simp [here, PumpPoint.ahead]
  | blocked _ _ here | looped _ _ here | failed _ here | answered _ _ here =>
      simp only [here, PumpPoint.ahead]
      split_ifs <;> omega

theorem pumps_lower (flow : Nat) (f : TPROXYUDPFlow) (change : TPROXYUDPFlow → TPROXYUDPFlow) (stored : st.heap[flow]? = some f)
    (lower : (change f).pump.ahead st.clock < f.pump.ahead st.clock) : 1 + (st.setFlow flow change).pumpsAhead ≤ st.pumpsAhead := by
  have moved := Counting.sum_modify st.heap flow change (fun f => f.pump.ahead st.clock) f stored
  rw [pumpsAhead, pumpsAhead]
  dsimp only [setFlow]
  omega

theorem pumps_same (flow : Nat) (change : TPROXYUDPFlow → TPROXYUDPFlow) (same : ∀ f, (change f).pump = f.pump) :
    (st.setFlow flow change).pumpsAhead = st.pumpsAhead :=
  congrArg List.sum (modify_map_same st.heap flow change _ fun f _ => by rw [same])

theorem pumps_later (elapsed : Nat) : { st with clock := st.clock + elapsed }.pumpsAhead ≤ st.pumpsAhead :=
  List.sum_le_sum fun f _ => f.pump.ahead_later st.clock elapsed

theorem pumps_due (flow : Nat) (f : TPROXYUDPFlow) (deadline : Int) (stored : st.heap[flow]? = some f)
    (reading : f.pump = .reading deadline) (early : ¬ deadline ≤ st.clock) :
    { st with clock := st.clock + (deadline.toNat - st.clock) }.pumpsAhead < st.pumpsAhead := by
  refine List.sum_lt_sum _ _ (fun f _ => f.pump.ahead_later st.clock _) ⟨f, List.mem_of_getElem? stored, ?_⟩
  simp only [reading, PumpPoint.ahead]
  rw [if_pos (by omega), if_neg early]
  omega

theorem accept_lowers (same : next.crashed = st.crashed) (pumps : next.pumpsAhead = st.pumpsAhead)
    (lower : next.accept.ahead < st.accept.ahead) : 1 + next.ahead ≤ st.ahead := by
  rw [ahead, ahead, same]
  omega

theorem pump_lowers (same : next.crashed = st.crashed) (accept : next.accept = st.accept)
    (lower : 1 + next.pumpsAhead ≤ st.pumpsAhead) : 1 + next.ahead ≤ st.ahead := by
  rw [ahead, ahead, same, accept]
  omega

theorem leave_lowers (waits : st.accept = .top ∨ st.accept = .receiving) : 1 + st.leave.ahead ≤ st.ahead := by
  refine accept_lowers st _ rfl rfl ?_
  rcases waits with here | here <;> simp [here, leave, AcceptPoint.ahead]

theorem opened_lowers (key : String) (src dst : AddrPort) (age : Nat) (a : Arrival) (rest : List Arrival) (item : InHand)
    (batch : st.accept = .batch (a :: rest)) :
    1 + ((st.openUDPFlow key src dst age).setAccept (.stamping item rest)).ahead ≤ st.ahead := by
  have pumps : ((st.openUDPFlow key src dst age).setAccept (.stamping item rest)).pumpsAhead = st.pumpsAhead + 3 := by
    simp only [pumpsAhead, setAccept, openUDPFlow, newFlow, List.map_append, List.sum_append]
    rfl
  have same : ((st.openUDPFlow key src dst age).setAccept (.stamping item rest)).crashed = st.crashed := rfl
  rw [ahead, ahead, pumps, batch, same]
  simp only [setAccept, AcceptPoint.ahead, List.length_cons]
  omega

theorem effect_lowers (stopped : st.stopped = true) (live : st.crashed = false) (effect : Effect net t st action next)
    (unread : ∀ arrivals, action ≠ .receive (.batch arrivals)) (other : action ≠ .stop)
    (counted : (ProxyAction.udp action).counted = true) : 1 + next.ahead ≤ st.ahead := by
  cases effect with
  | advance | cancel => cases counted
  | stop => exact absurd rfl other
  | enter _ running => simp [stopped] at running
  | leave _ waits => exact leave_lowers st waits
  | receive arrivals => exact absurd rfl (unread arrivals)
  | panicked =>
      have same : { st with crashed := true }.pumpsAhead = st.pumpsAhead := rfl
      rw [ahead, ahead, live, same]
      simp [Nat.add_assoc]
  | retry _ here | drained _ here | skipped _ _ _ here | unopened _ _ _ _ here | stamped _ _ here
  | sent _ _ _ _ here | unsent _ _ here =>
      refine accept_lowers st _ rfl rfl ?_
      simp [here, setAccept, AcceptPoint.ahead]
  | found _ _ _ _ _ _ here =>
      refine accept_lowers st _ rfl rfl ?_
      simp only [here, setAccept, AcceptPoint.ahead, List.length_cons]
      omega
  | opened age a rest src packet here => exact opened_lowers st _ src packet.dst age a rest _ here
  | bumped item rest stamp here =>
      refine accept_lowers st _ rfl (pumps_same st item.flow (.bump stamp st.clock) fun _ => rfl) ?_
      simp [here, setAccept, AcceptPoint.ahead]
  | mark applied item rest f here | keep applied item rest f here =>
      refine accept_lowers st _ rfl (pumps_same st item.flow (.marked item.packet.dscp) fun _ => rfl) ?_
      simp [here, setAccept, AcceptPoint.ahead]
  | turned _ flow f point stored turn =>
      exact pump_lowers st _ rfl rfl (pumps_lower st flow f _ stored (turn_ahead t st action flow f point stopped turn))
  | recorded flow f payload stamp stored here =>
      exact pump_lowers st _ rfl rfl (pumps_lower st flow f _ stored (by simp [here, TPROXYUDPFlow.moved, PumpPoint.ahead]))
  | replied flow f s payload stored here =>
      exact pump_lowers st _ rfl rfl (pumps_lower st flow f (.moved .checking) stored (by simp [here, TPROXYUDPFlow.moved, PumpPoint.ahead]))
  | removed flow f stored here | unlisted flow f stored here =>
      exact pump_lowers st _ rfl rfl (pumps_lower st flow f (.moved .shutting) stored (by simp [here, TPROXYUDPFlow.moved, PumpPoint.ahead]))
  | shut flow f stored here | shutAgain flow f stored here =>
      exact pump_lowers st _ rfl rfl (pumps_lower st flow f .shutdown stored (by simp [here, TPROXYUDPFlow.shutdown, PumpPoint.ahead]))

theorem effect_spends (stopped : st.stopped = true) (live : st.crashed = false) (effect : Effect net t st action next)
    (unread : ∀ arrivals, action ≠ .receive (.batch arrivals)) (other : action ≠ .stop) :
    (if (ProxyAction.udp action).counted then 1 else 0) + next.ahead ≤ st.ahead := by
  by_cases counted : (ProxyAction.udp action).counted = true
  · rw [if_pos counted]
    exact effect_lowers net t st next action stopped live effect unread other counted
  · rw [if_neg counted, Nat.zero_add]
    cases action with
    | advance elapsed =>
        cases effect with
        | advance =>
            have later := pumps_later st elapsed
            rw [ahead, ahead]
            exact Nat.add_le_add_left later _
        | leave _ waits => exact Nat.le_of_succ_le ((Nat.add_comm ..).trans_le (leave_lowers st waits))
        | turned _ _ _ _ _ turn => cases turn
    | cancel =>
        cases effect with
        | cancel => exact Nat.le_refl _
        | leave _ waits => exact Nat.le_of_succ_le ((Nat.add_comm ..).trans_le (leave_lowers st waits))
        | turned _ _ _ _ _ turn => cases turn
    | stop | check | receive | take | stamp | store | mark | write | pumpCheck | pumpLoad | pumpCompare | pumpRead | pumpStamp
    | pumpStore | pumpReply | pumpRemove | pumpShut => exact absurd rfl counted

theorem in_heap (effect : Effect net t st action next) (sound : st.Sound net) (inside : st.InHeap) : next.InHeap := by
  intro item held
  have kept := fun flow (there : ∃ e, st.ends flow = some e) =>
    there.imp fun e joined => effect_ends net t st next action effect flow e joined
  have same := fun inHand : st.accept.item = some item => kept item.flow (inside item inHand)
  cases effect with
  | found opening a rest src packet flow batch passed listed =>
      obtain rfl := Option.some.inj held
      obtain ⟨h, stored, _⟩ := (sound.listed _ flow).mp listed
      obtain ⟨f, place, _⟩ := Option.map_eq_some_iff.mp ((List.getElem?_map ..).symm.trans stored)
      exact kept flow ⟨f.toFlowEnds, by rw [ends, place]; rfl⟩
  | opened opening a rest src packet =>
      obtain rfl := Option.some.inj held
      exact ⟨_, by rw [ends, setAccept, openUDPFlow, List.getElem?_concat_length]; rfl⟩
  | stamped _ _ point | bumped _ _ _ point | mark _ _ _ _ point | keep _ _ _ _ point =>
      exact same (by rw [point]; exact held)
  | enter | leave | receive | retry | drained | skipped | unopened | sent | unsent => cases held
  | advance | stop | cancel | panicked | turned | recorded | replied | removed | unlisted | shut | shutAgain =>
      exact same held

theorem unaided_lowers (stopped : st.stopped = true) (live : st.crashed = false) (unaided : action.unaided = true)
    (counted : (ProxyAction.udp action).counted = true) (taken : st.step net t action = some next) : next.ahead < st.ahead := by
  have lowered := effect_lowers net t st next action stopped live (step_effect net t st next action taken)
    (by rintro arrivals rfl; cases unaided) (by rintro rfl; cases unaided) counted
  omega

theorem accept_progress (sound : st.Sound net) (inside : st.InHeap) (stopped : st.stopped = true) (live : st.crashed = false)
    (running : st.accept ≠ .returned) :
    ∃ action next, action.unaided = true ∧ st.step net t action = some next ∧ next.ahead < st.ahead := by
  have lowers := fun action next => unaided_lowers net t st next action stopped live
  cases point : st.accept with
  | top =>
      have taken : st.step net t .check = some st.leave := by simp [step, live, check, point, stopped]
      exact ⟨_, _, rfl, taken, lowers _ _ rfl rfl taken⟩
  | receiving =>
      have taken : st.step net t (.receive (.failed true)) = some st.leave := by simp [step, live, receive, point]
      exact ⟨_, _, rfl, taken, lowers _ _ rfl rfl taken⟩
  | batch rest =>
      obtain ⟨next, taken⟩ : ∃ next, st.step net t (.take .dialFailed) = some next := by
        cases rest with
        | nil => exact ⟨st.setAccept .top, by simp [step, live, take, point]⟩
        | cons a rest =>
            simp only [step, live, Bool.false_eq_true, if_false, take, point]
            split <;> exact ⟨_, rfl⟩
      exact ⟨_, _, rfl, taken, lowers _ _ rfl rfl taken⟩
  | stamping item rest =>
      have taken : st.step net t .stamp = some (st.setAccept (.storing item rest st.clock)) := by simp [step, live, stamp, point]
      exact ⟨_, _, rfl, taken, lowers _ _ rfl rfl taken⟩
  | storing item rest stamp =>
      obtain ⟨next, taken⟩ : ∃ next, st.step net t .store = some next := by simp [step, live, store, point]
      exact ⟨_, _, rfl, taken, lowers _ _ rfl rfl taken⟩
  | marking item rest =>
      obtain ⟨e, joined⟩ := inside item (by rw [point]; rfl)
      obtain ⟨f, stored, _⟩ := Option.map_eq_some_iff.mp joined
      obtain ⟨next, taken⟩ : ∃ next, st.step net t (.mark true) = some next := by simp [step, live, mark, point, stored]
      exact ⟨_, _, rfl, taken, lowers _ _ rfl rfl taken⟩
  | writing item rest =>
      obtain ⟨e, joined⟩ := inside item (by rw [point]; rfl)
      obtain ⟨f, stored, _⟩ := Option.map_eq_some_iff.mp joined
      have bound := (sound.bound f.holding (heap_holding st f (List.mem_of_getElem? stored))).1
      obtain ⟨s, socket, _⟩ := Option.map_eq_some_iff.mp ((List.getElem?_map ..).symm.trans bound)
      have socket : st.sockets[f.upstream]? = some s := socket
      have taken : st.step net t (.write false) = some (st.setAccept (.batch rest)) := by
        simp [step, live, write, point, stored, socket]
      exact ⟨_, _, rfl, taken, lowers _ _ rfl rfl taken⟩
  | returned => exact absurd point running

theorem pump_progress (stopped : st.stopped = true) (live : st.crashed = false) (returned : st.accept = .returned) (flow : Nat)
    (f : TPROXYUDPFlow) (stored : st.heap[flow]? = some f) (running : f.pump ≠ .done) :
    ∃ action next, action.unaided = true ∧ st.step net t action = some next ∧ next.ahead < st.ahead := by
  have lowers := fun action next => unaided_lowers net t st next action stopped live
  have moves : ∀ action, action.unaided = true → (ProxyAction.udp action).counted = true →
      (∃ next, st.step net t action = some next) →
      ∃ action next, action.unaided = true ∧ st.step net t action = some next ∧ next.ahead < st.ahead :=
    fun action unaided counted ⟨next, taken⟩ => ⟨action, next, unaided, taken, lowers action next unaided counted taken⟩
  cases point : f.pump with
  | checking => exact moves (.pumpCheck flow) rfl rfl (by simp [step, live, pumpCheck, stored, point])
  | loading => exact moves (.pumpLoad flow) rfl rfl (by simp [step, live, pumpLoad, stored, point])
  | comparing last loadedAt => exact moves (.pumpCompare flow) rfl rfl (by simp [step, live, pumpCompare, stored, point])
  | reading deadline =>
      by_cases due : deadline ≤ st.clock
      · exact moves (.pumpRead flow .timeout) rfl rfl (by simp [step, live, pumpRead, stored, point, due])
      · refine ⟨.advance (deadline.toNat - st.clock), _, rfl, by rw [step, if_neg (by simp [live])], ?_⟩
        rw [ahead, ahead]
        exact Nat.add_lt_add_left (pumps_due st flow f deadline stored point due) _
  | answered payload => exact moves (.pumpStamp flow) rfl rfl (by simp [step, live, pumpStamp, stored, point])
  | storing payload stamp => exact moves (.pumpStore flow) rfl rfl (by simp [step, live, pumpStore, stored, point])
  | replying payload => exact moves (.pumpReply flow false) rfl rfl (by simp [step, live, pumpReply, stored, point])
  | leaving =>
      refine moves (.pumpRemove flow) rfl rfl ?_
      simp only [step, live, Bool.false_eq_true, if_false, pumpRemove, stored, Option.bind_some]
      rw [if_pos ⟨point, by rw [returned]; rfl⟩]
      split_ifs <;> exact ⟨_, rfl⟩
  | shutting =>
      refine moves (.pumpShut flow) rfl rfl ?_
      simp only [step, live, Bool.false_eq_true, if_false, pumpShut, stored, Option.bind_some, point, if_true]
      split_ifs <;> exact ⟨_, rfl⟩
  | done => exact absurd point running

theorem effect_stopped (effect : Effect net t st action next) (other : action ≠ .stop) : next.stopped = st.stopped := by
  cases effect with
  | stop => exact absurd rfl other
  | advance | cancel | enter | leave | receive | retry | drained | panicked | skipped | found | unopened | opened | stamped | bumped
  | mark | keep | sent | unsent | turned | recorded | replied | removed | unlisted | shut | shutAgain =>
      rfl

theorem effect_over (sound : st.Sound net) (effect : Effect net t st action next) (settled : st.wg = 0) : next.wg = 0 := by
  obtain ⟨returned, ended⟩ := goroutines_over net st sound settled
  cases effect with
  | opened _ _ _ _ _ batch => simp [returned] at batch
  | leave | shut | shutAgain => simp [leave, finish, setFlow, release, setSocket, settled]
  | advance | stop | cancel | enter | receive | retry | drained | panicked | skipped | found | unopened | stamped | bumped
  | mark | keep | sent | unsent | turned | recorded | replied | removed | unlisted =>
      exact settled

theorem progress (sound : st.Sound net) (inside : st.InHeap) (stopped : st.stopped = true) (live : st.crashed = false)
    (busy : st.wg ≠ 0) : ∃ action next, action.unaided = true ∧ st.step net t action = some next ∧ next.ahead < st.ahead := by
  by_cases returned : st.accept = .returned
  · have counted : st.wg = _ := sound.counted.trans (running_counted st)
    simp only [returned, AcceptPoint.accepting, Bool.false_eq_true, if_false, Nat.zero_add] at counted
    obtain ⟨f, member, running⟩ := List.countP_pos_iff.mp (Nat.pos_of_ne_zero (counted ▸ busy))
    obtain ⟨flow, stored⟩ := List.mem_iff_getElem?.mp member
    exact pump_progress net t st stopped live returned flow f stored (by simpa using running)
  · exact accept_progress net t st sound inside stopped live returned

end Steps

end FlowRelay

namespace Proxy

section Runs

variable (net : NetLib) (t : TPROXYListener) (st next : Proxy) (action : ProxyAction)

structure Sound : Prop where
  tcp : st.tcp.Sound net t
  udp : st.udp.Sound net
  inside : st.udp.InHeap
  stopped : st.stopper ≠ .idle → st.tcp.closed = true ∧ st.udp.stopped = true
  unheard : st.stopper ≠ .idle → st.stopper ≠ .closed → st.tcp.listening = false
  settled : st.stopper = .returned → st.wg = 0

def ahead : Nat := (if st.stopper = .waiting then 1 else 0) + (if st.tcp.accepting then 1 else 0) + st.udp.ahead

inductive Effect : ProxyAction → Proxy → Prop where
  | tcp (action : TcpAction) (tcp : TcpRelay) (other : action ≠ .close ∧ action ≠ .shut)
      (taken : st.tcp.step net t action = some tcp) : Effect (.tcp action) { st with tcp := tcp }
  | udp (action : FlowAction) (udp : FlowRelay) (other : action ≠ .stop)
      (closed : st.stopper.udpClosed = true → ∀ result, action = .receive result → result = .failed true)
      (taken : st.udp.step net t action = some udp) : Effect (.udp action) { st with udp := udp }
  | close (idle : st.stopper = .idle) :
      Effect .stop ⟨{ st.tcp with closed := true }, { st.udp with stopped := true }, .closed⟩
  | shut (closed : st.stopper = .closed) : Effect .stop { st with tcp := { st.tcp with listening := false }, stopper := .unheard }
  | wait (unheard : st.stopper = .unheard) : Effect .stop { st with stopper := .waiting }
  | done (waiting : st.stopper = .waiting) (settled : st.wg = 0) : Effect .stop { st with stopper := .returned }

theorem step_effect (taken : st.step net t action = some next) : st.udp.crashed = false ∧ Effect net t st action next := by
  unfold step at taken
  split_ifs at taken with barred
  simp only [not_or, Bool.not_eq_true, Bool.not_eq_false] at barred
  obtain ⟨live, admitted⟩ := barred
  refine ⟨live, ?_⟩
  cases action with
  | tcp action =>
      obtain ⟨tcp, moved, rfl⟩ := Option.map_eq_some_iff.mp taken
      exact .tcp action tcp ⟨(by rintro rfl; cases admitted), (by rintro rfl; cases admitted)⟩ moved
  | udp action =>
      obtain ⟨udp, moved, rfl⟩ := Option.map_eq_some_iff.mp taken
      refine .udp action udp (by rintro rfl; cases admitted) (fun closed result same => ?_) moved
      subst same
      cases result with
      | failed errClosed => simpa [admits, closed] using admitted
      | batch | errno => simp [admits, closed] at admitted
  | stop =>
      simp only [stop] at taken
      split at taken
      · rename_i idle
        obtain ⟨tcp, moved, rest⟩ := Option.bind_eq_some_iff.mp taken
        obtain ⟨udp, shifted, rfl⟩ := Option.map_eq_some_iff.mp rest
        cases moved
        rw [FlowRelay.step, if_neg (by simp [live])] at shifted
        cases shifted
        exact .close idle
      · rename_i closed
        cases taken
        exact .shut closed
      · rename_i unheard
        cases taken
        exact .wait unheard
      · rename_i waiting
        obtain ⟨settled, same⟩ := Option.ite_none_right_eq_some.mp taken
        cases same
        exact .done waiting settled
      · cases taken

theorem tcp_frame (action : TcpAction) (tcp : TcpRelay) (other : action ≠ .close ∧ action ≠ .shut)
    (taken : st.tcp.step net t action = some tcp) :
    tcp.closed = st.tcp.closed ∧ tcp.listening = st.tcp.listening ∧ tcp.wg ≤ st.tcp.wg := by
  cases action with
  | accept | acceptFailed =>
      rw [TcpRelay.step] at taken
      split_ifs at taken <;> cases taken <;> exact ⟨rfl, rfl, by simp⟩
  | close => exact absurd rfl other.1
  | shut => exact absurd rfl other.2
  | flow index move =>
      obtain ⟨f, _, rest⟩ := Option.bind_eq_some_iff.mp taken
      obtain ⟨changed, _, rfl⟩ := Option.map_eq_some_iff.mp rest
      exact ⟨rfl, rfl, Nat.le_refl _⟩

theorem sound_preserved (guard : Proxy → ProxyAction → Prop) : Runs.Preserved (step net t) guard (Sound net t) := by
  intro st action next sound _ taken
  obtain ⟨live, effect⟩ := step_effect net t st next action taken
  cases effect with
  | tcp action tcp other moved =>
      obtain ⟨closed, listening, counted⟩ := tcp_frame net t st action tcp other moved
      refine ⟨TcpRelay.sound_preserved net t (fun _ _ => True) _ _ _ sound.tcp trivial moved, sound.udp, sound.inside,
        fun called => ?_, fun called shut => listening.trans (sound.unheard called shut), fun returned => ?_⟩
      · exact ⟨closed.trans (sound.stopped called).1, (sound.stopped called).2⟩
      · have settled := sound.settled returned
        simp only [wg] at settled ⊢
        omega
  | udp action udp other closed moved =>
      have effect := FlowRelay.step_effect net t st.udp udp action moved
      refine ⟨sound.tcp, FlowRelay.sound_preserved net t (fun _ _ => True) _ _ _ sound.udp trivial moved,
        FlowRelay.in_heap net t st.udp udp action effect sound.udp sound.inside, fun called => ?_, sound.unheard, fun returned => ?_⟩
      · exact ⟨(sound.stopped called).1, (FlowRelay.effect_stopped net t st.udp udp action effect other).trans (sound.stopped called).2⟩
      · have settled := sound.settled returned
        have last := FlowRelay.effect_over net t st.udp udp action sound.udp effect (by simp only [wg] at settled; omega)
        simp only [wg] at settled ⊢
        omega
  | close => exact ⟨⟨sound.tcp.flows, sound.tcp.counted⟩, sound.udp, sound.inside, fun _ => ⟨rfl, rfl⟩, by simp, by simp⟩
  | shut closed =>
      exact ⟨⟨sound.tcp.flows, sound.tcp.counted⟩, sound.udp, sound.inside, fun _ => sound.stopped (by simp [closed]), fun _ _ => rfl,
        by simp⟩
  | wait unheard =>
      exact ⟨sound.tcp, sound.udp, sound.inside, fun _ => sound.stopped (by simp [unheard]),
        fun _ _ => sound.unheard (by simp [unheard]) (by simp [unheard]), by simp⟩
  | done waiting settled =>
      exact ⟨sound.tcp, sound.udp, sound.inside, fun _ => sound.stopped (by simp [waiting]),
        fun _ _ => sound.unheard (by simp [waiting]) (by simp [waiting]), fun _ => settled⟩

theorem start_sound : Sound net t start :=
  ⟨TcpRelay.start_sound net t, FlowRelay.start_sound net, by simp [FlowRelay.InHeap, start, FlowRelay.start, AcceptPoint.item],
    by simp [start], by simp [start], by simp [start]⟩

structure Ending : Prop where
  sound : st.Sound net t
  closed : st.stopper.udpClosed = true

theorem ending_stopped (ending : st.Ending net t) : st.tcp.closed = true ∧ st.tcp.listening = false ∧ st.udp.stopped = true := by
  have called : st.stopper ≠ .idle ∧ st.stopper ≠ .closed := by
    constructor <;> intro here <;> simpa [here, StopPoint.udpClosed] using ending.closed
  exact ⟨(ending.sound.stopped called.1).1, ending.sound.unheard called.1 called.2, (ending.sound.stopped called.1).2⟩

theorem ending_preserved (guard : Proxy → ProxyAction → Prop) : Runs.Preserved (step net t) guard (Ending net t) := by
  intro st action next ending permitted taken
  refine ⟨sound_preserved net t guard st action next ending.sound permitted taken, ?_⟩
  have closed := ending.closed
  cases (step_effect net t st next action taken).2 with
  | tcp | udp => exact closed
  | wait | done => rfl
  | close here | shut here => simp [here, StopPoint.udpClosed] at closed

theorem step_spends (ending : st.Ending net t) (taken : st.step net t action = some next) :
    (if action.counted then 1 else 0) + next.ahead ≤ st.ahead := by
  obtain ⟨closed, listening, stopped⟩ := ending_stopped net t st ending
  have still := ending.closed
  obtain ⟨live, effect⟩ := step_effect net t st next action taken
  cases effect with
  | tcp action tcp other moved =>
      cases action with
      | accept => simp [TcpRelay.step, listening] at moved
      | acceptFailed =>
          simp only [TcpRelay.step, closed, Bool.true_or, if_true] at moved
          split_ifs at moved with accepting
          cases moved
          simp [ahead, accepting, ProxyAction.counted]
          omega
      | close => exact absurd rfl other.1
      | shut => exact absurd rfl other.2
      | flow index move =>
          obtain ⟨f, _, rest⟩ := Option.bind_eq_some_iff.mp moved
          obtain ⟨changed, _, rfl⟩ := Option.map_eq_some_iff.mp rest
          simp [ahead, ProxyAction.counted]
  | udp action udp other reads moved =>
      have spent := FlowRelay.effect_spends net t st.udp udp action stopped live (FlowRelay.step_effect net t st.udp udp action moved)
        (fun arrivals same => by cases reads still _ same) other
      simp only [ahead]
      omega
  | close here | shut here | wait here => simp [here, StopPoint.udpClosed] at still
  | done waiting =>
      simp [ahead, waiting, ProxyAction.counted]
      omega

theorem step_lowers (ending : st.Ending net t) (counted : action.counted = true) (taken : st.step net t action = some next) :
    next.ahead < st.ahead := by
  have spent := step_spends net t st next action ending taken
  rw [if_pos counted] at spent
  omega

theorem udp_admitted (action : FlowAction) (udp : FlowRelay) (ending : st.Ending net t) (live : st.udp.crashed = false)
    (unaided : action.unaided = true) (taken : st.udp.step net t action = some udp) :
    st.step net t (.udp action) = some { st with udp := udp } := by
  have admitted : st.admits (.udp action) = true := by
    cases action with
    | receive result =>
        cases result with
        | failed errClosed =>
            have same : errClosed = true := unaided
            simp [admits, same, ending.closed]
        | batch | errno => cases unaided
    | stop => cases unaided
    | advance | cancel | check | take | stamp | store | mark | write | pumpCheck | pumpLoad | pumpCompare | pumpRead | pumpStamp
    | pumpStore | pumpReply | pumpRemove | pumpShut => rfl
  simp [step, live, admitted, taken]

theorem ending_progress (ending : st.Ending net t) (live : st.udp.crashed = false) (waits : st.stopper ≠ .returned) :
    ∃ action next, action.unaided = true ∧ st.step net t action = some next ∧ next.tcp.flows = st.tcp.flows ∧
      next.ahead < st.ahead := by
  obtain ⟨closed, listening, stopped⟩ := ending_stopped net t st ending
  by_cases accepting : st.tcp.accepting = true
  · have taken : st.step net t (.tcp .acceptFailed) =
        some { st with tcp := { st.tcp with accepting := false, wg := st.tcp.wg - 1 } } := by
      simp [step, live, admits, TcpRelay.step, accepting, closed]
    exact ⟨_, _, rfl, taken, rfl, step_lowers net t st _ _ ending rfl taken⟩
  · by_cases busy : st.udp.wg = 0
    · have waiting : st.stopper = .waiting := by
        have still := ending.closed
        cases here : st.stopper with
        | waiting => rfl
        | returned => exact absurd here waits
        | idle | closed | unheard => simp [here, StopPoint.udpClosed] at still
      have settled : st.wg = 0 := by
        have counted := ending.sound.tcp.counted
        rw [if_neg accepting] at counted
        rw [wg]
        omega
      have taken : st.step net t .stop = some { st with stopper := .returned } := by
        simp [step, live, admits, stop, waiting, settled]
      exact ⟨_, _, rfl, taken, rfl, step_lowers net t st _ _ ending rfl taken⟩
    · obtain ⟨action, udp, unaided, moved, nearer⟩ :=
        FlowRelay.progress net t st.udp ending.sound.udp ending.sound.inside stopped live busy
      refine ⟨.udp action, _, unaided, udp_admitted net t st action udp ending live unaided moved, rfl, ?_⟩
      simp only [ahead]
      omega

theorem ending_bounded (ending : st.Ending net t) (trace : List (Proxy × ProxyAction)) (final : Proxy)
    (run : Runs.Run (step net t) st trace final) : (trace.countP fun entry => entry.2.counted) ≤ st.ahead := by
  have spent := Runs.run_spends ahead ProxyAction.counted (ending_preserved net t (fun _ _ => True))
    (fun state action next => step_spends net t state next action) run (fun _ _ => trivial) ending
  omega

theorem ending_settles (ending : st.Ending net t) :
    ∃ final, Runs.Reach (step net t) (fun _ action => action.unaided = true) st final ∧
      (final.stopper = .returned ∨ final.udp.crashed = true) ∧ final.tcp.flows = st.tcp.flows := by
  have progress : ∀ state : Proxy, state.Ending net t ∧ state.tcp.flows = st.tcp.flows →
      ¬ (state.stopper = .returned ∨ state.udp.crashed = true) → ∃ action next, action.unaided = true ∧
        state.step net t action = some next ∧ (next.Ending net t ∧ next.tcp.flows = st.tcp.flows) ∧ next.ahead < state.ahead := by
    rintro state ⟨now, same⟩ unsettled
    obtain ⟨waits, live⟩ := not_or.mp unsettled
    obtain ⟨action, next, unaided, taken, flows, nearer⟩ := ending_progress net t state now ((Bool.not_eq_true _).mp live) waits
    have still := ending_preserved net t (fun _ _ => True) state action next now trivial taken
    exact ⟨action, next, unaided, taken, ⟨still, flows.trans same⟩, nearer⟩
  obtain ⟨final, led, ⟨_, same⟩, settled⟩ := Runs.reach_settles ahead _ progress st ⟨ending, rfl⟩
  exact ⟨final, led, settled, same⟩

-- Stop returns behind the datagram flows and leaves the connections alone.
theorem stop_spares_connections (reached : Runs.Reach (step net t) (fun _ _ => True) start st) :
    (st.stopper = .returned → st.tcp.accepting = false ∧ st.udp.accept = .returned ∧
      (∀ key, st.udp.flows.lookup key = none) ∧ ∀ s ∈ st.udp.sockets, s.closes = 1) ∧
    (st.stopper = .waiting →
      (∃ bound, ∀ trace final, Runs.Run (step net t) st trace final → (trace.countP fun entry => entry.2.counted) ≤ bound) ∧
      ∃ final, Runs.Reach (step net t) (fun _ action => action.unaided = true) st final ∧
        (final.stopper = .returned ∨ final.udp.crashed = true) ∧ final.tcp.flows = st.tcp.flows) := by
  have sound := Runs.reach_invariant (sound_preserved net t _) reached (start_sound net t)
  refine ⟨fun returned => ?_, fun waiting => ?_⟩
  · have settled : st.tcp.wg + st.udp.wg = 0 := sound.settled returned
    obtain ⟨left, ended⟩ := FlowRelay.goroutines_over net st.udp sound.udp (by omega)
    refine ⟨?_, left, FlowRelay.settled_released net st.udp sound.udp ended⟩
    by_contra accepting
    have counted := sound.tcp.counted
    rw [if_pos ((Bool.not_eq_false _).mp accepting)] at counted
    omega
  · have ending : st.Ending net t := ⟨sound, by rw [waiting]; rfl⟩
    exact ⟨⟨st.ahead, ending_bounded net t st ending⟩, ending_settles net t st ending⟩

end Runs

end Proxy

def joinedSteps : List ProxyAction :=
  [.tcp (.accept ⟨.four (tunnelBytes 1), 53, ""⟩), .tcp (.flow 0 .check), .tcp (.flow 0 (.dial true))] ++
    [FlowAction.check, .receive (.batch [resolverQuery]), .take (.opened 0), .stamp, .store, .mark true, .write true,
      .take (.opened 0), .check, .pumpCheck 0, .pumpLoad 0, .pumpCompare 0].map .udp ++ [.stop, .stop, .stop]

def drainSteps : List ProxyAction :=
  .tcp .acceptFailed :: ([FlowAction.receive (.failed true), .advance resolverListener.cfg.udpIdleTimeout.toNat, .pumpRead 0 .timeout,
    .pumpCheck 0, .pumpRemove 0, .pumpShut 0].map .udp ++ [.stop])

theorem stop_spares_connections_joined :
    ∃ st final, Runs.Reach (Proxy.step plainNet resolverListener) (fun _ _ => True) .start st ∧ st.stopper = .waiting ∧ st.wg = 3 ∧
      (∃ bound, ∀ trace final, Runs.Run (Proxy.step plainNet resolverListener) st trace final →
        (trace.countP fun entry => entry.2.counted) ≤ bound) ∧
      Runs.Reach (Proxy.step plainNet resolverListener) (fun _ _ => True) .start final ∧ final.stopper = .returned ∧
      (final.tcp.flows.map fun f => (f.phase.opened, f.phase.upstream.isSome)) = [(true, true)] ∧
      final.udp.sockets.length = 2 ∧ ∀ s ∈ final.udp.sockets, s.closes = 1 := by
  have stopped : (Runs.execute (Proxy.step plainNet resolverListener) (fun _ _ => True) .start joinedSteps).map
      (fun st => (st.stopper, st.wg)) = some (.waiting, 3) := by
    decide +kernel
  have drained : (Runs.execute (Proxy.step plainNet resolverListener) (fun _ _ => True) .start (joinedSteps ++ drainSteps)).map
      (fun st => (st.stopper, st.tcp.flows.map fun f => (f.phase.opened, f.phase.upstream.isSome), st.udp.sockets.length)) =
      some (.returned, [(true, true)], 2) := by
    decide +kernel
  obtain ⟨st, completed, view⟩ := Option.map_eq_some_iff.mp stopped
  obtain ⟨final, ended, seen⟩ := Option.map_eq_some_iff.mp drained
  simp only [Prod.mk.injEq] at view seen
  have reached := Runs.execute_reach _ _ _ completed
  have last := Runs.execute_reach _ _ _ ended
  exact ⟨st, final, reached, view.1, view.2,
    ((Proxy.stop_spares_connections plainNet resolverListener st reached).2 view.1).1, last, seen.1, seen.2.1, seen.2.2,
    ((Proxy.stop_spares_connections plainNet resolverListener final last).1 seen.1).2.2.2⟩

end Packethose
