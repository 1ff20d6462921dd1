import Packethose.Lib.Counting
import Packethose.Lib.Runs
import Packethose.Relay

set_option autoImplicit false

namespace Packethose

structure Arrival where
  name : RawSockaddrAny
  control : Bytes
  payload : Bytes

def Arrival.datagram (a : Arrival) : Datagram := ⟨a.name, a.control, a.payload.length⟩

structure UDPSocket where
  peer : AddrPort
  tos : UInt8
  closes : Nat
deriving DecidableEq

-- Where runUDPReplyPump stands: at the head of its loop, before and behind the
-- load of the last activity, in its read, in the bump before and behind the
-- clock, before its reply, and in the deferred call before and behind the
-- removal.
inductive PumpPoint where
  | checking
  | loading
  | comparing (last loadedAt : Nat)
  | reading (deadline : Int)
  | answered (payload : Bytes)
  | storing (payload : Bytes) (stamp : Nat)
  | replying (payload : Bytes)
  | leaving
  | shutting
  | done
deriving DecidableEq

structure FlowEnds where
  src : AddrPort
  dst : AddrPort
  upstream : Nat
  reply : Nat
  clientAddr : AddrPort
  key : String
deriving DecidableEq

-- tproxyUDPFlow with its pump. The last three fields are histories: the marks
-- of the datagrams it was found for, when its last activity was stored, and the
-- longest pause between two such stores.
structure TPROXYUDPFlow extends FlowEnds where
  lastActivity : Nat
  lastDSCP : UInt8
  closed : Bool
  pump : PumpPoint
  dscps : List UInt8
  touched : Nat
  quiet : Nat
deriving DecidableEq

structure InHand where
  flow : Nat
  src : AddrPort
  packet : PerPacket
  payload : Bytes
deriving DecidableEq

inductive AcceptPoint where
  | top
  | receiving
  | batch (rest : List Arrival)
  | stamping (item : InHand) (rest : List Arrival)
  | storing (item : InHand) (rest : List Arrival) (stamp : Nat)
  | marking (item : InHand) (rest : List Arrival)
  | writing (item : InHand) (rest : List Arrival)
  | returned

structure Forwarded where
  item : InHand
  peer : AddrPort
  tos : UInt8
  dscps : List UInt8
deriving DecidableEq

structure Reply where
  flow : Nat
  payload : Bytes
  source : AddrPort
  client : AddrPort
deriving DecidableEq

-- udpAcceptLoop with its flows and their pumps; wg counts these goroutines.
-- The last three fields are histories.
structure FlowRelay where
  flows : Table String Nat
  heap : List TPROXYUDPFlow
  sockets : List UDPSocket
  accept : AcceptPoint
  clock : Nat
  stopped : Bool
  cancelled : Bool
  crashed : Bool
  wg : Nat
  arrived : List Arrival
  forwarded : List Forwarded
  replies : List Reply

inductive BatchRead where
  | batch (arrivals : List Arrival)
  | errno
  | failed (errClosed : Bool)

inductive Opening where
  | dialFailed
  | listenFailed
  | mistyped
  | opened (age : Nat)
deriving DecidableEq

inductive PumpRead where
  | timeout
  | failed
  | got (payload : Bytes)
deriving DecidableEq

inductive FlowAction where
  | advance (elapsed : Nat)
  | stop
  | cancel
  | check
  | receive (result : BatchRead)
  | take (opening : Opening)
  | stamp
  | store
  | mark (applied : Bool)
  | write (sent : Bool)
  | pumpCheck (flow : Nat)
  | pumpLoad (flow : Nat)
  | pumpCompare (flow : Nat)
  | pumpRead (flow : Nat) (result : PumpRead)
  | pumpStamp (flow : Nat)
  | pumpStore (flow : Nat)
  | pumpReply (flow : Nat) (sent : Bool)
  | pumpRemove (flow : Nat)
  | pumpShut (flow : Nat)

def flowKey (net : NetLib) (src dst : AddrPort) : String := net.addrPortText src ++ "|" ++ net.addrPortText dst

def TPROXYUDPFlow.bump (stamp now : Nat) (f : TPROXYUDPFlow) : TPROXYUDPFlow :=
  { f with lastActivity := stamp, touched := now, quiet := max f.quiet (now - f.touched) }

def TPROXYUDPFlow.moved (point : PumpPoint) (f : TPROXYUDPFlow) : TPROXYUDPFlow := { f with pump := point }

def TPROXYUDPFlow.shutdown (f : TPROXYUDPFlow) : TPROXYUDPFlow := { f with closed := true, pump := .done }

def TPROXYUDPFlow.marked (dscp : UInt8) (f : TPROXYUDPFlow) : TPROXYUDPFlow :=
  { f with
    lastDSCP := if dscp ≠ 0 ∧ dscp ≠ f.lastDSCP then dscp else f.lastDSCP
    dscps := f.dscps ++ [dscp] }

def AcceptPoint.locked : AcceptPoint → Bool
  | .stamping _ _ | .storing _ _ _ => true
  | _ => false

def UDPSocket.close (s : UDPSocket) : UDPSocket := { s with closes := s.closes + 1 }

namespace FlowRelay

def start : FlowRelay where
  flows := ∅
  heap := []
  sockets := []
  accept := .top
  clock := 0
  stopped := false
  cancelled := false
  crashed := false
  wg := 1
  arrived := []
  forwarded := []
  replies := []

def setFlow (st : FlowRelay) (flow : Nat) (change : TPROXYUDPFlow → TPROXYUDPFlow) : FlowRelay :=
  { st with heap := st.heap.modify flow change }

def setSocket (st : FlowRelay) (socket : Nat) (change : UDPSocket → UDPSocket) : FlowRelay :=
  { st with sockets := st.sockets.modify socket change }

def setAccept (st : FlowRelay) (point : AcceptPoint) : FlowRelay := { st with accept := point }

def leave (st : FlowRelay) : FlowRelay := { st with accept := .returned, wg := st.wg - 1 }

def unlist (st : FlowRelay) (key : String) : FlowRelay := { st with flows := st.flows.erase key }

def release (st : FlowRelay) (ends : FlowEnds) : FlowRelay :=
  (st.setSocket ends.upstream .close).setSocket ends.reply .close

def finish (st : FlowRelay) : FlowRelay := { st with wg := st.wg - 1 }

def check (st : FlowRelay) : Option FlowRelay :=
  match st.accept with
  | .top => some (if st.stopped then st.leave else st.setAccept .receiving)
  | _ => none

def receive (st : FlowRelay) (result : BatchRead) : Option FlowRelay :=
  match st.accept with
  | .receiving =>
      match result with
      | .batch arrivals => some { st with accept := .batch arrivals, arrived := st.arrived ++ arrivals }
      | .errno => some (st.setAccept .top)
      | .failed errClosed => some (if st.stopped ∨ errClosed then st.leave else st.setAccept .top)
  | _ => none

def spend (st : FlowRelay) (peers : List AddrPort) : FlowRelay :=
  { st with sockets := st.sockets ++ peers.map fun peer => ⟨peer, 0, 1⟩ }

def newFlow (st : FlowRelay) (key : String) (src dst : AddrPort) (age : Nat) : TPROXYUDPFlow where
  src := src
  dst := dst
  upstream := st.sockets.length
  reply := st.sockets.length + 1
  clientAddr := src
  key := key
  lastActivity := st.clock - age
  lastDSCP := 0
  closed := false
  pump := .checking
  dscps := []
  touched := st.clock
  quiet := 0

def openUDPFlow (st : FlowRelay) (key : String) (src dst : AddrPort) (age : Nat) : FlowRelay :=
  { st with
    flows := st.flows.insert key st.heap.length
    heap := st.heap ++ [st.newFlow key src dst age]
    sockets := st.sockets ++ [⟨dialled dst, 0, 0⟩, ⟨dst, 0, 0⟩]
    wg := st.wg + 1 }

def dispatch (net : NetLib) (st : FlowRelay) (src : AddrPort) (packet : PerPacket) (payload : Bytes) (rest : List Arrival)
    (opening : Opening) : FlowRelay :=
  match st.flows.lookup (flowKey net src packet.dst) with
  | some flow => st.setAccept (.stamping ⟨flow, src, packet, payload⟩ rest)
  | none =>
      match opening with
      | .dialFailed => st.setAccept (.batch rest)
      | .listenFailed => (st.spend [dialled packet.dst]).setAccept (.batch rest)
      | .mistyped => (st.spend [dialled packet.dst, packet.dst]).setAccept (.batch rest)
      | .opened age =>
          (st.openUDPFlow (flowKey net src packet.dst) src packet.dst age).setAccept
            (.stamping ⟨st.heap.length, src, packet, payload⟩ rest)

def take (net : NetLib) (t : TPROXYListener) (st : FlowRelay) (opening : Opening) : Option FlowRelay :=
  match st.accept with
  | .batch [] => some (st.setAccept .top)
  | .batch (a :: rest) =>
      match t.screenUDP net a.datagram with
      | .panicked => some { st with crashed := true }
      | .passed (src, packet) => some (st.dispatch net src packet a.payload rest opening)
      | _ => some (st.setAccept (.batch rest))
  | _ => none

def stamp (st : FlowRelay) : Option FlowRelay :=
  match st.accept with
  | .stamping item rest => some (st.setAccept (.storing item rest st.clock))
  | _ => none

def store (st : FlowRelay) : Option FlowRelay :=
  match st.accept with
  | .storing item rest stamp => some ((st.setFlow item.flow (.bump stamp st.clock)).setAccept (.marking item rest))
  | _ => none

-- applyDSCP chooses the option by the family of the destination as written. It
-- does nothing on a closed socket, and a mapped destination has an IPv4 socket.
def applyDSCP (applied is6 : Bool) (dscp : UInt8) (s : UDPSocket) : UDPSocket :=
  if applied ∧ s.closes = 0 ∧ is6 = s.peer.addr.is6 then { s with tos := dscp } else s

def mark (st : FlowRelay) (applied : Bool) : Option FlowRelay :=
  match st.accept with
  | .marking item rest =>
      (st.heap[item.flow]?).map fun f =>
        let marked := if item.packet.dscp ≠ 0 ∧ item.packet.dscp ≠ f.lastDSCP
          then st.setSocket f.upstream (applyDSCP applied item.packet.dst.addr.is6 item.packet.dscp) else st
        (marked.setFlow item.flow (.marked item.packet.dscp)).setAccept (.writing item rest)
  | _ => none

def write (st : FlowRelay) (sent : Bool) : Option FlowRelay :=
  match st.accept with
  | .writing item rest =>
      (st.heap[item.flow]?).bind fun f =>
        (st.sockets[f.upstream]?).bind fun s =>
          if sent then
            if s.closes = 0 then
              some { st with
                accept := .batch rest
                forwarded := st.forwarded ++ [⟨item, s.peer, s.tos, f.dscps⟩] }
            else none
          else some (st.setAccept (.batch rest))
  | _ => none

def pumpCheck (st : FlowRelay) (flow : Nat) : Option FlowRelay :=
  (st.heap[flow]?).bind fun f =>
    if f.pump = .checking then
      some (st.setFlow flow (.moved (if st.cancelled ∨ st.stopped ∨ f.closed then .leaving else .loading)))
    else none

def pumpLoad (st : FlowRelay) (flow : Nat) : Option FlowRelay :=
  (st.heap[flow]?).bind fun f =>
    if f.pump = .loading then some (st.setFlow flow (.moved (.comparing f.lastActivity st.clock))) else none

def pumpCompare (t : TPROXYListener) (st : FlowRelay) (flow : Nat) : Option FlowRelay :=
  (st.heap[flow]?).bind fun f =>
    match f.pump with
    | .comparing last _ =>
        some (st.setFlow flow (.moved
          (if last + t.cfg.udpIdleTimeout ≤ st.clock then .leaving else .reading (last + t.cfg.udpIdleTimeout))))
    | _ => none

def pumpRead (st : FlowRelay) (flow : Nat) (result : PumpRead) : Option FlowRelay :=
  (st.heap[flow]?).bind fun f =>
    match f.pump with
    | .reading deadline =>
        match result with
        | .timeout => if deadline ≤ st.clock then some (st.setFlow flow (.moved .checking)) else none
        | .failed => some (st.setFlow flow (.moved .leaving))
        | .got [] => some (st.setFlow flow (.moved .checking))
        | .got payload => some (st.setFlow flow (.moved (.answered payload)))
    | _ => none

def pumpStamp (st : FlowRelay) (flow : Nat) : Option FlowRelay :=
  (st.heap[flow]?).bind fun f =>
    match f.pump with
    | .answered payload => some (st.setFlow flow (.moved (.storing payload st.clock)))
    | _ => none

def pumpStore (st : FlowRelay) (flow : Nat) : Option FlowRelay :=
  (st.heap[flow]?).bind fun f =>
    match f.pump with
    | .storing payload stamp => some (st.setFlow flow fun f => (f.bump stamp st.clock).moved (.replying payload))
    | _ => none

def pumpReply (st : FlowRelay) (flow : Nat) (sent : Bool) : Option FlowRelay :=
  (st.heap[flow]?).bind fun f =>
    match f.pump with
    | .replying payload =>
        if sent then
          (st.sockets[f.reply]?).map fun s =>
            { st.setFlow flow (.moved .checking) with replies := st.replies ++ [⟨flow, payload, s.peer, f.clientAddr⟩] }
        else some (st.setFlow flow (.moved .checking))
    | _ => none

def pumpRemove (st : FlowRelay) (flow : Nat) : Option FlowRelay :=
  (st.heap[flow]?).bind fun f =>
    if f.pump = .leaving ∧ st.accept.locked = false then
      if st.flows.lookup f.key = some flow then some ((st.unlist f.key).setFlow flow (.moved .shutting))
      else some (st.setFlow flow (.moved .shutting))
    else none

def pumpShut (st : FlowRelay) (flow : Nat) : Option FlowRelay :=
  (st.heap[flow]?).bind fun f =>
    if f.pump = .shutting then
      if f.closed then some (st.finish.setFlow flow .shutdown)
      else some ((st.release f.toFlowEnds).finish.setFlow flow .shutdown)
    else none

def step (net : NetLib) (t : TPROXYListener) (st : FlowRelay) (action : FlowAction) : Option FlowRelay :=
  if st.crashed then none
  else
    match action with
    | .advance elapsed => some { st with clock := st.clock + elapsed }
    | .stop => some { st with stopped := true }
    | .cancel => some { st with cancelled := true }
    | .check => st.check
    | .receive result => st.receive result
    | .take opening => st.take net t opening
    | .stamp => st.stamp
    | .store => st.store
    | .mark applied => st.mark applied
    | .write sent => st.write sent
    | .pumpCheck flow => st.pumpCheck flow
    | .pumpLoad flow => st.pumpLoad flow
    | .pumpCompare flow => st.pumpCompare t flow
    | .pumpRead flow result => st.pumpRead flow result
    | .pumpStamp flow => st.pumpStamp flow
    | .pumpStore flow => st.pumpStore flow
    | .pumpReply flow sent => st.pumpReply flow sent
    | .pumpRemove flow => st.pumpRemove flow
    | .pumpShut flow => st.pumpShut flow

inductive Turn (t : TPROXYListener) (st : FlowRelay) (flow : Nat) (f : TPROXYUDPFlow) : FlowAction → PumpPoint → Prop where
  | ended (checking : f.pump = .checking) (finished : st.cancelled = true ∨ st.stopped = true ∨ f.closed = true) :
      Turn t st flow f (.pumpCheck flow) .leaving
  | passed (checking : f.pump = .checking) (running : st.stopped = false) : Turn t st flow f (.pumpCheck flow) .loading
  | loaded (loading : f.pump = .loading) : Turn t st flow f (.pumpLoad flow) (.comparing f.lastActivity st.clock)
  | expired (last loadedAt : Nat) (comparing : f.pump = .comparing last loadedAt) (idle : last + t.cfg.udpIdleTimeout ≤ st.clock) :
      Turn t st flow f (.pumpCompare flow) .leaving
  | blocked (last loadedAt : Nat) (comparing : f.pump = .comparing last loadedAt) :
      Turn t st flow f (.pumpCompare flow) (.reading (last + t.cfg.udpIdleTimeout))
  | looped (result : PumpRead) (deadline : Int) (reading : f.pump = .reading deadline) :
      Turn t st flow f (.pumpRead flow result) .checking
  | failed (deadline : Int) (reading : f.pump = .reading deadline) : Turn t st flow f (.pumpRead flow .failed) .leaving
  | answered (deadline : Int) (payload : Bytes) (reading : f.pump = .reading deadline) :
      Turn t st flow f (.pumpRead flow (.got payload)) (.answered payload)
  | stamped (payload : Bytes) (answered : f.pump = .answered payload) :
      Turn t st flow f (.pumpStamp flow) (.storing payload st.clock)
  | unsent (payload : Bytes) (replying : f.pump = .replying payload) : Turn t st flow f (.pumpReply flow false) .checking

inductive Effect (net : NetLib) (t : TPROXYListener) (st : FlowRelay) : FlowAction → FlowRelay → Prop where
  | advance (elapsed : Nat) : Effect net t st (.advance elapsed) { st with clock := st.clock + elapsed }
  | stop : Effect net t st .stop { st with stopped := true }
  | cancel : Effect net t st .cancel { st with cancelled := true }
  | enter (top : st.accept = .top) (running : st.stopped = false) : Effect net t st .check (st.setAccept .receiving)
  | leave (action : FlowAction) (waits : st.accept = .top ∨ st.accept = .receiving) : Effect net t st action st.leave
  | receive (arrivals : List Arrival) (receiving : st.accept = .receiving) :
      Effect net t st (.receive (.batch arrivals)) { st with accept := .batch arrivals, arrived := st.arrived ++ arrivals }
  | retry (result : BatchRead) (receiving : st.accept = .receiving) : Effect net t st (.receive result) (st.setAccept .top)
  | drained (opening : Opening) (empty : st.accept = .batch []) : Effect net t st (.take opening) (st.setAccept .top)
  | panicked (opening : Opening) : Effect net t st (.take opening) { st with crashed := true }
  | skipped (opening : Opening) (a : Arrival) (rest : List Arrival) (batch : st.accept = .batch (a :: rest)) :
      Effect net t st (.take opening) (st.setAccept (.batch rest))
  | found (opening : Opening) (a : Arrival) (rest : List Arrival) (src : AddrPort) (packet : PerPacket) (flow : Nat)
      (batch : st.accept = .batch (a :: rest)) (passed : t.screenUDP net a.datagram = .passed (src, packet))
      (listed : st.flows.lookup (flowKey net src packet.dst) = some flow) :
      Effect net t st (.take opening) (st.setAccept (.stamping ⟨flow, src, packet, a.payload⟩ rest))
  | unopened (opening : Opening) (a : Arrival) (rest : List Arrival) (peers : List AddrPort)
      (batch : st.accept = .batch (a :: rest)) :
      Effect net t st (.take opening) ((st.spend peers).setAccept (.batch rest))
  | opened (age : Nat) (a : Arrival) (rest : List Arrival) (src : AddrPort) (packet : PerPacket)
      (batch : st.accept = .batch (a :: rest)) (passed : t.screenUDP net a.datagram = .passed (src, packet))
      (absent : st.flows.lookup (flowKey net src packet.dst) = none) :
      Effect net t st (.take (.opened age))
        ((st.openUDPFlow (flowKey net src packet.dst) src packet.dst age).setAccept
          (.stamping ⟨st.heap.length, src, packet, a.payload⟩ rest))
  | stamped (item : InHand) (rest : List Arrival) (stamping : st.accept = .stamping item rest) :
      Effect net t st .stamp (st.setAccept (.storing item rest st.clock))
  | bumped (item : InHand) (rest : List Arrival) (stamp : Nat) (storing : st.accept = .storing item rest stamp) :
      Effect net t st .store ((st.setFlow item.flow (.bump stamp st.clock)).setAccept (.marking item rest))
  | mark (applied : Bool) (item : InHand) (rest : List Arrival) (f : TPROXYUDPFlow) (marking : st.accept = .marking item rest)
      (stored : st.heap[item.flow]? = some f) (fresh : item.packet.dscp ≠ 0 ∧ item.packet.dscp ≠ f.lastDSCP) :
      Effect net t st (.mark applied)
        (((st.setSocket f.upstream (applyDSCP applied item.packet.dst.addr.is6 item.packet.dscp)).setFlow item.flow
          (.marked item.packet.dscp)).setAccept (.writing item rest))
  | keep (applied : Bool) (item : InHand) (rest : List Arrival) (f : TPROXYUDPFlow) (marking : st.accept = .marking item rest)
      (stored : st.heap[item.flow]? = some f) (same : ¬ (item.packet.dscp ≠ 0 ∧ item.packet.dscp ≠ f.lastDSCP)) :
      Effect net t st (.mark applied) ((st.setFlow item.flow (.marked item.packet.dscp)).setAccept (.writing item rest))
  | sent (item : InHand) (rest : List Arrival) (f : TPROXYUDPFlow) (s : UDPSocket) (writing : st.accept = .writing item rest)
      (stored : st.heap[item.flow]? = some f) (socket : st.sockets[f.upstream]? = some s) (unclosed : s.closes = 0) :
      Effect net t st (.write true)
        { st with accept := .batch rest, forwarded := st.forwarded ++ [⟨item, s.peer, s.tos, f.dscps⟩] }
  | unsent (item : InHand) (rest : List Arrival) (writing : st.accept = .writing item rest) :
      Effect net t st (.write false) (st.setAccept (.batch rest))
  | turned (action : FlowAction) (flow : Nat) (f : TPROXYUDPFlow) (point : PumpPoint) (stored : st.heap[flow]? = some f)
      (turn : Turn t st flow f action point) : Effect net t st action (st.setFlow flow (.moved point))
  | recorded (flow : Nat) (f : TPROXYUDPFlow) (payload : Bytes) (stamp : Nat) (stored : st.heap[flow]? = some f)
      (storing : f.pump = .storing payload stamp) :
      Effect net t st (.pumpStore flow) (st.setFlow flow fun f => (f.bump stamp st.clock).moved (.replying payload))
  | replied (flow : Nat) (f : TPROXYUDPFlow) (s : UDPSocket) (payload : Bytes) (stored : st.heap[flow]? = some f)
      (replying : f.pump = .replying payload) (socket : st.sockets[f.reply]? = some s) :
      Effect net t st (.pumpReply flow true)
        { st.setFlow flow (.moved .checking) with replies := st.replies ++ [⟨flow, payload, s.peer, f.clientAddr⟩] }
  | removed (flow : Nat) (f : TPROXYUDPFlow) (stored : st.heap[flow]? = some f) (leaving : f.pump = .leaving)
      (listed : st.flows.lookup f.key = some flow) :
      Effect net t st (.pumpRemove flow) ((st.unlist f.key).setFlow flow (.moved .shutting))
  | unlisted (flow : Nat) (f : TPROXYUDPFlow) (stored : st.heap[flow]? = some f) (leaving : f.pump = .leaving)
      (other : st.flows.lookup f.key ≠ some flow) :
      Effect net t st (.pumpRemove flow) (st.setFlow flow (.moved .shutting))
  | shut (flow : Nat) (f : TPROXYUDPFlow) (stored : st.heap[flow]? = some f) (shutting : f.pump = .shutting)
      (first : f.closed = false) :
      Effect net t st (.pumpShut flow) ((st.release f.toFlowEnds).finish.setFlow flow .shutdown)
  | shutAgain (flow : Nat) (f : TPROXYUDPFlow) (stored : st.heap[flow]? = some f) (shutting : f.pump = .shutting)
      (again : f.closed = true) : Effect net t st (.pumpShut flow) (st.finish.setFlow flow .shutdown)

section Inversion

variable (net : NetLib) (t : TPROXYListener) (st next : FlowRelay)

theorem check_effect (taken : st.check = some next) : Effect net t st .check next := by
  unfold check at taken
  split at taken
  · rename_i top
    obtain rfl := Option.some.inj taken
    split_ifs with stopped
    · exact .leave .check (.inl top)
    · exact .enter top ((Bool.not_eq_true _).mp stopped)
  · cases taken

theorem receive_effect (result : BatchRead) (taken : st.receive result = some next) :
    Effect net t st (.receive result) next := by
  unfold receive at taken
  split at taken
  · rename_i receiving
    cases result with
    | batch arrivals =>
        obtain rfl := Option.some.inj taken
        exact .receive arrivals receiving
    | errno =>
        obtain rfl := Option.some.inj taken
        exact .retry .errno receiving
    | failed errClosed =>
        obtain rfl := Option.some.inj taken
        split_ifs
        · exact .leave _ (.inr receiving)
        · exact .retry _ receiving
  · cases taken

theorem take_effect (opening : Opening) (taken : st.take net t opening = some next) :
    Effect net t st (.take opening) next := by
  unfold take at taken
  split at taken
  · rename_i empty
    obtain rfl := Option.some.inj taken
    exact .drained opening empty
  · rename_i a rest batch
    split at taken
    · obtain rfl := Option.some.inj taken
      exact .panicked opening
    · rename_i src packet passed
      obtain rfl := Option.some.inj taken
      unfold dispatch
      split
      · rename_i flow listed
        exact .found opening a rest src packet flow batch passed listed
      · rename_i absent
        cases opening with
        | dialFailed => exact .skipped .dialFailed a rest batch
        | listenFailed => exact .unopened .listenFailed a rest _ batch
        | mistyped => exact .unopened .mistyped a rest _ batch
        | opened age => exact .opened age a rest src packet batch passed absent
    · obtain rfl := Option.some.inj taken
      exact .skipped opening a rest batch
  · cases taken

theorem stamp_effect (taken : st.stamp = some next) : Effect net t st .stamp next := by
  unfold stamp at taken
  split at taken
  · rename_i item rest stamping
    obtain rfl := Option.some.inj taken
    exact .stamped item rest stamping
  · cases taken

theorem store_effect (taken : st.store = some next) : Effect net t st .store next := by
  unfold store at taken
  split at taken
  · rename_i item rest stamp storing
    obtain rfl := Option.some.inj taken
    exact .bumped item rest stamp storing
  · cases taken

theorem mark_effect (applied : Bool) (taken : st.mark applied = some next) : Effect net t st (.mark applied) next := by
  unfold mark at taken
  split at taken
  · rename_i item rest marking
    obtain ⟨f, stored, rfl⟩ := Option.map_eq_some_iff.mp taken
    dsimp only
    split_ifs with fresh
    · exact .mark applied item rest f marking stored fresh
    · exact .keep applied item rest f marking stored fresh
  · cases taken

theorem write_effect (sent : Bool) (taken : st.write sent = some next) : Effect net t st (.write sent) next := by
  unfold write at taken
  split at taken
  · rename_i item rest writing
    obtain ⟨f, stored, found⟩ := Option.bind_eq_some_iff.mp taken
    obtain ⟨s, socket, ended⟩ := Option.bind_eq_some_iff.mp found
    split_ifs at ended with success unclosed
    · obtain rfl := Option.some.inj ended
      exact success ▸ .sent item rest f s writing stored socket unclosed
    · obtain rfl := Option.some.inj ended
      exact (Bool.not_eq_true _).mp success ▸ .unsent item rest writing
  · cases taken

theorem pump_check_effect (flow : Nat) (taken : st.pumpCheck flow = some next) :
    Effect net t st (.pumpCheck flow) next := by
  obtain ⟨f, stored, checked⟩ := Option.bind_eq_some_iff.mp taken
  split_ifs at checked with checking finished
  · obtain rfl := Option.some.inj checked
    exact .turned _ flow f _ stored (.ended checking finished)
  · obtain rfl := Option.some.inj checked
    exact .turned _ flow f _ stored (.passed checking ((Bool.not_eq_true _).mp fun stopped => finished (.inr (.inl stopped))))

theorem pump_load_effect (flow : Nat) (taken : st.pumpLoad flow = some next) : Effect net t st (.pumpLoad flow) next := by
  obtain ⟨f, stored, loaded⟩ := Option.bind_eq_some_iff.mp taken
  split_ifs at loaded with loading
  obtain rfl := Option.some.inj loaded
  exact .turned _ flow f _ stored (.loaded loading)

theorem pump_compare_effect (flow : Nat) (taken : st.pumpCompare t flow = some next) :
    Effect net t st (.pumpCompare flow) next := by
  obtain ⟨f, stored, compared⟩ := Option.bind_eq_some_iff.mp taken
  split at compared
  · rename_i last loadedAt comparing
    obtain rfl := Option.some.inj compared
    split_ifs with idle
    · exact .turned _ flow f _ stored (.expired last loadedAt comparing idle)
    · exact .turned _ flow f _ stored (.blocked last loadedAt comparing)
  · cases compared

theorem pump_read_effect (flow : Nat) (result : PumpRead) (taken : st.pumpRead flow result = some next) :
    Effect net t st (.pumpRead flow result) next := by
  obtain ⟨f, stored, read⟩ := Option.bind_eq_some_iff.mp taken
  split at read
  · rename_i deadline reading
    split at read
    · split_ifs at read
      obtain rfl := Option.some.inj read
      exact .turned _ flow f _ stored (.looped _ deadline reading)
    · obtain rfl := Option.some.inj read
      exact .turned _ flow f _ stored (.failed deadline reading)
    · obtain rfl := Option.some.inj read
      exact .turned _ flow f _ stored (.looped _ deadline reading)
    · rename_i payload _
      obtain rfl := Option.some.inj read
      exact .turned _ flow f _ stored (.answered deadline payload reading)
  · cases read

theorem pump_stamp_effect (flow : Nat) (taken : st.pumpStamp flow = some next) : Effect net t st (.pumpStamp flow) next := by
  obtain ⟨f, stored, stamped⟩ := Option.bind_eq_some_iff.mp taken
  split at stamped
  · rename_i payload answered
    obtain rfl := Option.some.inj stamped
    exact .turned _ flow f _ stored (.stamped payload answered)
  · cases stamped

theorem pump_store_effect (flow : Nat) (taken : st.pumpStore flow = some next) : Effect net t st (.pumpStore flow) next := by
  obtain ⟨f, stored, recorded⟩ := Option.bind_eq_some_iff.mp taken
  split at recorded
  · rename_i payload stamp storing
    obtain rfl := Option.some.inj recorded
    exact .recorded flow f payload stamp stored storing
  · cases recorded

theorem pump_reply_effect (flow : Nat) (sent : Bool) (taken : st.pumpReply flow sent = some next) :
    Effect net t st (.pumpReply flow sent) next := by
  obtain ⟨f, stored, replied⟩ := Option.bind_eq_some_iff.mp taken
  split at replied
  · rename_i payload replying
    split_ifs at replied with success
    · obtain ⟨s, socket, rfl⟩ := Option.map_eq_some_iff.mp replied
      exact success ▸ .replied flow f s payload stored replying socket
    · obtain rfl := Option.some.inj replied
      exact (Bool.not_eq_true _).mp success ▸ .turned _ flow f _ stored (.unsent payload replying)
  · cases replied

theorem pump_remove_effect (flow : Nat) (taken : st.pumpRemove flow = some next) :
    Effect net t st (.pumpRemove flow) next := by
  obtain ⟨f, stored, left⟩ := Option.bind_eq_some_iff.mp taken
  split_ifs at left with leaving listed
  · obtain rfl := Option.some.inj left
    exact .removed flow f stored leaving.1 listed
  · obtain rfl := Option.some.inj left
    exact .unlisted flow f stored leaving.1 listed

theorem pump_shut_effect (flow : Nat) (taken : st.pumpShut flow = some next) : Effect net t st (.pumpShut flow) next := by
  obtain ⟨f, stored, ended⟩ := Option.bind_eq_some_iff.mp taken
  split_ifs at ended with shutting again
  · obtain rfl := Option.some.inj ended
    exact .shutAgain flow f stored shutting again
  · obtain rfl := Option.some.inj ended
    exact .shut flow f stored shutting ((Bool.not_eq_true _).mp again)

theorem step_effect (action : FlowAction) (taken : st.step net t action = some next) : Effect net t st action next := by
  unfold step at taken
  split_ifs at taken
  cases action with
  | advance elapsed =>
      obtain rfl := Option.some.inj taken
      exact .advance elapsed
  | stop =>
      obtain rfl := Option.some.inj taken
      exact .stop
  | cancel =>
      obtain rfl := Option.some.inj taken
      exact .cancel
  | check => exact check_effect net t st next taken
  | receive result => exact receive_effect net t st next result taken
  | take opening => exact take_effect net t st next opening taken
  | stamp => exact stamp_effect net t st next taken
  | store => exact store_effect net t st next taken
  | mark applied => exact mark_effect net t st next applied taken
  | write sent => exact write_effect net t st next sent taken
  | pumpCheck flow => exact pump_check_effect net t st next flow taken
  | pumpLoad flow => exact pump_load_effect net t st next flow taken
  | pumpCompare flow => exact pump_compare_effect net t st next flow taken
  | pumpRead flow result => exact pump_read_effect net t st next flow result taken
  | pumpStamp flow => exact pump_stamp_effect net t st next flow taken
  | pumpStore flow => exact pump_store_effect net t st next flow taken
  | pumpReply flow sent => exact pump_reply_effect net t st next flow sent taken
  | pumpRemove flow => exact pump_remove_effect net t st next flow taken
  | pumpShut flow => exact pump_shut_effect net t st next flow taken

end Inversion

end FlowRelay

end Packethose
