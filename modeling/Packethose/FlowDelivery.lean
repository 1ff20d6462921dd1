import Packethose.FlowHoldings

set_option autoImplicit false

namespace Packethose

structure NetLib.Unambiguous (net : NetLib) : Prop where
  bar : ∀ a, a.Plain → '|' ∉ (net.addrPortText a).toList
  injective : ∀ a b, a.Plain → b.Plain → net.addrPortText a = net.addrPortText b → a = b

theorem flow_key_injective (net : NetLib) (unambiguous : net.Unambiguous) (src dst src' dst' : AddrPort) (source : src.Plain)
    (target : dst.Plain) (source' : src'.Plain) (target' : dst'.Plain) (same : flowKey net src dst = flowKey net src' dst') :
    src = src' ∧ dst = dst' := by
  have texts := congrArg String.toList same
  have bar : "|".toList = ['|'] := rfl
  simp only [flowKey, String.toList_append, List.append_assoc, bar, List.cons_append, List.nil_append] at texts
  have split := (List.append_cons_inj_of_notMem (unambiguous.bar src source) (unambiguous.bar dst target)).mp texts
  exact ⟨unambiguous.injective src src' source source' (String.toList_inj.mp split.1),
    unambiguous.injective dst dst' target target' (String.toList_inj.mp split.2.2)⟩

def screened (net : NetLib) (t : TPROXYListener) (a : Arrival) : Option (AddrPort × PerPacket × Bytes) :=
  match t.screenUDP net a.datagram with
  | .passed (src, packet) => some (src, packet, a.payload)
  | _ => none

def InHand.view (item : InHand) : AddrPort × PerPacket × Bytes := (item.src, item.packet, item.payload)

def AcceptPoint.item : AcceptPoint → Option InHand
  | .stamping item _ | .storing item _ _ | .marking item _ | .writing item _ => some item
  | _ => none

def AcceptPoint.rest : AcceptPoint → List Arrival
  | .batch rest | .stamping _ rest | .storing _ rest _ | .marking _ rest | .writing _ rest => rest
  | _ => []

def lastMark (dscps : List UInt8) : UInt8 := dscps.foldl (fun last dscp => if dscp ≠ 0 then dscp else last) 0

namespace FlowRelay

def ends (st : FlowRelay) (flow : Nat) : Option FlowEnds := (st.heap[flow]?).map TPROXYUDPFlow.toFlowEnds

def Between (st : FlowRelay) (flow : Nat) (src dst : AddrPort) : Prop :=
  ∃ e, st.ends flow = some e ∧ e.src = src ∧ e.dst = dst

-- What was sent, what is in hand and what the batch still holds, in the order
-- of arrival.
def carried (net : NetLib) (t : TPROXYListener) (st : FlowRelay) : List (AddrPort × PerPacket × Bytes) :=
  st.forwarded.map (fun sent => sent.item.view) ++
    (st.accept.item.toList.map InHand.view ++ st.accept.rest.filterMap (screened net t))

structure Delivered (net : NetLib) (t : TPROXYListener) (st : FlowRelay) : Prop where
  hand : ∀ item, st.accept.item = some item → st.Between item.flow item.src item.packet.dst
  forwarded : ∀ sent ∈ st.forwarded, st.Between sent.item.flow sent.item.src sent.item.packet.dst ∧
    sent.peer = dialled sent.item.packet.dst
  replies : ∀ r ∈ st.replies, st.Between r.flow r.client r.source
  ordered : (st.carried net t).Sublist (st.arrived.filterMap (screened net t))

section Steps

variable (net : NetLib) (t : TPROXYListener) (st next : FlowRelay) (action : FlowAction)

theorem ends_modified (flow index : Nat) (change : TPROXYUDPFlow → TPROXYUDPFlow)
    (same : ∀ f, (change f).toFlowEnds = f.toFlowEnds) :
    ((st.heap.modify flow change)[index]?).map TPROXYUDPFlow.toFlowEnds = st.ends index := by
  have mapped := modify_map_same st.heap flow change TPROXYUDPFlow.toFlowEnds fun f _ => same f
  rw [← List.getElem?_map, mapped, List.getElem?_map, ends]

theorem effect_ends (effect : Effect net t st action next) (flow : Nat) (e : FlowEnds) (joined : st.ends flow = some e) :
    next.ends flow = some e := by
  cases effect with
  | opened =>
      obtain ⟨f, stored, _⟩ := Option.map_eq_some_iff.mp joined
      obtain ⟨inside, _⟩ := List.getElem?_eq_some_iff.mp stored
      rw [ends, setAccept, openUDPFlow, List.getElem?_append_left inside]
      exact joined
  | bumped | mark | keep | turned | recorded | replied | removed | unlisted | shut | shutAgain =>
      refine (ends_modified st _ flow _ ?_).trans joined
      exact fun _ => rfl
  | advance | stop | cancel | enter | leave | receive | retry | drained | panicked | skipped | found | unopened | stamped | sent
  | unsent =>
      exact joined

theorem effect_between (effect : Effect net t st action next) (flow : Nat) (src dst : AddrPort)
    (between : st.Between flow src dst) : next.Between flow src dst := by
  obtain ⟨e, joined, source, target⟩ := between
  exact ⟨e, effect_ends net t st next action effect flow e joined, source, target⟩

theorem listed_between (unambiguous : net.Unambiguous) (sound : st.Sound net) (src dst : AddrPort) (source : src.Plain)
    (target : dst.Plain) (flow : Nat) (listed : st.flows.lookup (flowKey net src dst) = some flow) :
    st.Between flow src dst := by
  obtain ⟨h, stored, called, _⟩ := (sound.listed _ flow).mp listed
  have named := sound.named h.ends (List.mem_map_of_mem (List.mem_of_getElem? stored))
  obtain ⟨f, place, rfl⟩ := Option.map_eq_some_iff.mp ((List.getElem?_map ..).symm.trans stored)
  obtain ⟨first, second⟩ := flow_key_injective net unambiguous _ _ src dst named.source named.target source target
    (named.key.symm.trans called)
  exact ⟨f.toFlowEnds, by rw [ends, place]; rfl, first, second⟩

theorem upstream_peer (sound : st.Sound net) (flow : Nat) (f : TPROXYUDPFlow) (s : UDPSocket) (stored : st.heap[flow]? = some f)
    (socket : st.sockets[f.upstream]? = some s) : s.peer = dialled f.dst := by
  have bound := (sound.bound f.holding (heap_holding st f (List.mem_of_getElem? stored))).1
  have held : st.holdings.sockets[f.upstream]? = some (s.peer, s.closes) := by simp [holdings, socket, UDPSocket.holding]
  exact (Prod.mk.inj (Option.some.inj (held.symm.trans bound))).1

theorem reply_ends (sound : st.Sound net) (flow : Nat) (f : TPROXYUDPFlow) (s : UDPSocket) (stored : st.heap[flow]? = some f)
    (socket : st.sockets[f.reply]? = some s) : s.peer = f.dst ∧ f.clientAddr = f.src := by
  have member := heap_holding st f (List.mem_of_getElem? stored)
  have bound := (sound.bound f.holding member).2
  have held : st.holdings.sockets[f.reply]? = some (s.peer, s.closes) := by simp [holdings, socket, UDPSocket.holding]
  exact ⟨(Prod.mk.inj (Option.some.inj (held.symm.trans bound))).1,
    (sound.named f.holding.ends (List.mem_map_of_mem member)).client⟩

theorem effect_hand (unambiguous : net.Unambiguous) (sound : st.Sound net) (effect : Effect net t st action next)
    (hand : ∀ item, st.accept.item = some item → st.Between item.flow item.src item.packet.dst) (item : InHand)
    (held : next.accept.item = some item) : next.Between item.flow item.src item.packet.dst := by
  have kept := effect_between net t st next action effect
  have same := fun inHand : st.accept.item = some item => kept _ _ _ (hand item inHand)
  cases effect with
  | found opening a rest src packet flow batch passed listed =>
      obtain rfl := Option.some.inj held
      obtain ⟨source, target⟩ := screen_plain net t a.datagram src packet passed
      exact kept _ _ _ (listed_between net st unambiguous sound src packet.dst source target flow listed)
  | opened opening a rest src packet =>
      obtain rfl := Option.some.inj held
      exact ⟨_, by rw [ends, setAccept, openUDPFlow, List.getElem?_concat_length]; rfl, rfl, rfl⟩
  | stamped _ _ point | bumped _ _ _ point | mark _ _ _ _ point | keep _ _ _ _ point =>
      exact same (by rw [point]; exact held)
  | enter | leave | receive | retry | drained | skipped | unopened | sent | unsent => cases held
  | advance | stop | cancel | panicked | turned | recorded | replied | removed | unlisted | shut | shutAgain =>
      exact same held

theorem effect_forwarded (sound : st.Sound net) (effect : Effect net t st action next) (delivered : st.Delivered net t)
    (sent : Forwarded) (member : sent ∈ next.forwarded) :
    next.Between sent.item.flow sent.item.src sent.item.packet.dst ∧ sent.peer = dialled sent.item.packet.dst := by
  have kept := effect_between net t st next action effect
  have older := fun before : sent ∈ st.forwarded =>
    And.imp_left (kept sent.item.flow sent.item.src sent.item.packet.dst) (delivered.forwarded sent before)
  cases effect with
  | sent item rest f s writing stored socket =>
      rcases List.mem_append.mp member with before | last
      · exact older before
      · obtain rfl := List.mem_singleton.mp last
        obtain ⟨e, joined, source, target⟩ := delivered.hand item (by rw [writing]; rfl)
        have place : st.ends item.flow = some f.toFlowEnds := by rw [ends, stored]; rfl
        obtain rfl := Option.some.inj (place.symm.trans joined)
        exact ⟨⟨_, place, source, target⟩, (upstream_peer net st sound item.flow f s stored socket).trans (by rw [← target])⟩
  | found | opened | stamped | bumped | mark | keep | advance | stop | cancel | enter | leave | receive | retry | drained
  | panicked | skipped | unopened | unsent | turned | recorded | replied | removed | unlisted | shut | shutAgain =>
      exact older member

theorem effect_replies (sound : st.Sound net) (effect : Effect net t st action next)
    (replies : ∀ r ∈ st.replies, st.Between r.flow r.client r.source) (r : Reply) (member : r ∈ next.replies) :
    next.Between r.flow r.client r.source := by
  have kept := effect_between net t st next action effect
  cases effect with
  | replied flow f s payload stored replying socket =>
      rcases List.mem_append.mp member with before | last
      · exact kept _ _ _ (replies r before)
      · obtain rfl := List.mem_singleton.mp last
        obtain ⟨source, client⟩ := reply_ends net st sound flow f s stored socket
        exact kept _ _ _ ⟨f.toFlowEnds, by rw [ends, stored]; rfl, client.symm, source.symm⟩
  | found | opened | stamped | bumped | mark | keep | advance | stop | cancel | enter | leave | receive | retry | drained
  | panicked | skipped | unopened | sent | unsent | turned | recorded | removed | unlisted | shut | shutAgain =>
      exact kept _ _ _ (replies r member)

theorem screened_rest (a : Arrival) (rest : List Arrival) :
    (rest.filterMap (screened net t)).Sublist ((a :: rest).filterMap (screened net t)) :=
  (List.sublist_cons_self a rest).filterMap _

theorem screened_first (a : Arrival) (rest : List Arrival) (src : AddrPort) (packet : PerPacket)
    (passed : t.screenUDP net a.datagram = .passed (src, packet)) :
    (a :: rest).filterMap (screened net t) = (src, packet, a.payload) :: rest.filterMap (screened net t) := by
  rw [List.filterMap_cons, screened, passed]

theorem effect_ordered (effect : Effect net t st action next)
    (ordered : (st.carried net t).Sublist (st.arrived.filterMap (screened net t))) :
    (next.carried net t).Sublist (next.arrived.filterMap (screened net t)) := by
  cases effect with
  | advance | stop | cancel | panicked | turned | recorded | replied | removed | unlisted | shut | shutAgain => exact ordered
  | enter point | retry _ point | drained _ point =>
      simpa [carried, setAccept, point, AcceptPoint.item, AcceptPoint.rest] using ordered
  | leave _ waits =>
      rcases waits with point | point <;>
        simpa [carried, FlowRelay.leave, point, AcceptPoint.item, AcceptPoint.rest] using ordered
  | receive arrivals receiving =>
      have grown := ordered.append (List.Sublist.refl (arrivals.filterMap (screened net t)))
      simpa [carried, receiving, AcceptPoint.item, AcceptPoint.rest, List.filterMap_append] using grown
  | skipped opening a rest batch | unopened opening a rest peers batch =>
      refine List.Sublist.trans ?_ ordered
      simp only [carried, setAccept, spend, batch, AcceptPoint.item, AcceptPoint.rest]
      exact (List.Sublist.refl _).append ((List.Sublist.refl _).append (screened_rest net t a rest))
  | found opening a rest src packet flow batch passed | opened opening a rest src packet batch passed =>
      have first := screened_first net t a rest src packet passed
      simpa [carried, setAccept, setFlow, openUDPFlow, batch, AcceptPoint.item, AcceptPoint.rest, InHand.view, first] using ordered
  | stamped item rest point | bumped item rest _ point | mark _ item rest f point | keep _ item rest f point =>
      simpa [carried, setAccept, setFlow, setSocket, point, AcceptPoint.item, AcceptPoint.rest] using ordered
  | sent item rest f s writing =>
      simpa [carried, writing, AcceptPoint.item, AcceptPoint.rest] using ordered
  | unsent item rest writing =>
      refine List.Sublist.trans ?_ ordered
      simp only [carried, setAccept, writing, AcceptPoint.item, AcceptPoint.rest, Option.toList, List.map_cons, List.map_nil]
      exact (List.Sublist.refl _).append ((List.nil_sublist _).append (List.Sublist.refl _))

theorem delivered_preserved (unambiguous : net.Unambiguous) (guard : FlowRelay → FlowAction → Prop) :
    Runs.Preserved (step net t) guard fun st => st.Sound net ∧ st.Delivered net t := by
  rintro st action next ⟨sound, delivered⟩ allowed taken
  have effect := step_effect net t st next action taken
  refine ⟨sound_preserved net t guard st action next sound allowed taken, ?_⟩
  exact ⟨effect_hand net t st next action unambiguous sound effect delivered.hand,
    effect_forwarded net t st next action sound effect delivered,
    effect_replies net t st next action sound effect delivered.replies,
    effect_ordered net t st next action effect delivered.ordered⟩

theorem start_delivered : start.Delivered net t := by
  refine ⟨?_, ?_, ?_, ?_⟩ <;> simp [start, AcceptPoint.item, carried, AcceptPoint.rest]

end Steps

-- Flows are kept apart: an entry of the table is the open flow between the
-- addresses of its key, what is sent upstream is part of what arrived, in its
-- order, on the socket of its own destination, and what comes back goes to the
-- client of the flow, from the address it asked.
theorem udp_flows_separate (net : NetLib) (t : TPROXYListener) (unambiguous : net.Unambiguous) (st : FlowRelay)
    (reached : Runs.Reach (step net t) (fun _ _ => True) start st) :
    (∀ src dst, src.Plain → dst.Plain → ∀ flow, st.flows.lookup (flowKey net src dst) = some flow →
      ∃ f, st.heap[flow]? = some f ∧ f.closed = false ∧ f.src = src ∧ f.dst = dst) ∧
    (st.forwarded.map fun sent => sent.item.view).Sublist (st.arrived.filterMap (screened net t)) ∧
    (∀ sent ∈ st.forwarded, sent.peer = dialled sent.item.packet.dst ∧
      ∃ f, st.heap[sent.item.flow]? = some f ∧ f.src = sent.item.src ∧ f.dst = sent.item.packet.dst) ∧
    (∀ r ∈ st.replies, ∃ f, st.heap[r.flow]? = some f ∧ r.client = f.src ∧ r.source = f.dst) := by
  obtain ⟨sound, delivered⟩ := Runs.reach_invariant (delivered_preserved net t unambiguous _) reached
    ⟨start_sound net, start_delivered net t⟩
  have joined : ∀ flow src dst, st.Between flow src dst → ∃ f, st.heap[flow]? = some f ∧ f.src = src ∧ f.dst = dst := by
    rintro flow src dst ⟨e, found, source, target⟩
    obtain ⟨f, stored, rfl⟩ := Option.map_eq_some_iff.mp found
    exact ⟨f, stored, source, target⟩
  refine ⟨fun src dst source target flow listed => ?_, ?_, fun sent member => ?_, fun r member => ?_⟩
  · obtain ⟨f, stored, same⟩ := joined _ _ _ (listed_between net st unambiguous sound src dst source target flow listed)
    obtain ⟨h, place, _, phase⟩ := (sound.listed _ flow).mp listed
    obtain rfl := Option.some.inj ((holdings_stored st flow f stored).symm.trans place)
    have unclosed : ¬ f.closed = true := (flow_over net st sound f (List.mem_of_getElem? stored)).not.mpr fun ended => by
      simp [TPROXYUDPFlow.holding, ended, PumpPoint.phase] at phase
    exact ⟨f, stored, by simpa using unclosed, same⟩
  · exact (List.sublist_append_left _ _).trans delivered.ordered
  · obtain ⟨between, peer⟩ := delivered.forwarded sent member
    exact ⟨peer, joined _ _ _ between⟩
  · obtain ⟨f, stored, source, target⟩ := joined _ _ _ (delivered.replies r member)
    exact ⟨f, stored, source.symm, target.symm⟩

end FlowRelay

structure FlowMarks where
  ends : FlowEnds
  last : UInt8
  dscps : List UInt8

def TPROXYUDPFlow.marks (f : TPROXYUDPFlow) : FlowMarks := ⟨f.toFlowEnds, f.lastDSCP, f.dscps⟩

def FlowAction.applies : FlowAction → Bool
  | .mark applied => applied
  | _ => true

theorem last_mark_next (dscps : List UInt8) (dscp : UInt8) :
    lastMark (dscps ++ [dscp]) = if dscp ≠ 0 then dscp else lastMark dscps := by
  rw [lastMark, List.foldl_append]
  rfl

theorem dialled_genuine (dst : AddrPort) (genuine : dst.addr.is4In6 = false) : dialled dst = dst := by
  obtain ⟨addr, port⟩ := dst
  cases addr with
  | zero | v4 => rfl
  | v6 bytes zone =>
      have absent : (Addr.v6 bytes zone).as4 = none := by simpa [Addr.is4In6, Addr.is6] using genuine
      simp only [dialled, Addr.unmap, absent]

namespace FlowRelay

def marks (st : FlowRelay) : List FlowMarks := st.heap.map TPROXYUDPFlow.marks

structure Marked (st : FlowRelay) : Prop where
  last : ∀ m ∈ st.marks, m.last = lastMark m.dscps
  socket : ∀ m ∈ st.marks, m.ends.dst.addr.is4In6 = false → ∀ s, st.sockets[m.ends.upstream]? = some s → s.closes = 0 →
    s.tos = m.last
  written : ∀ item rest, st.accept = .writing item rest →
    ∃ m, st.marks[item.flow]? = some m ∧ m.dscps.getLast? = some item.packet.dscp
  forwarded : ∀ sent ∈ st.forwarded, sent.item.packet.dst.addr.is4In6 = false →
    sent.tos = lastMark sent.dscps ∧ sent.dscps.getLast? = some sent.item.packet.dscp

section Marks

variable (net : NetLib) (t : TPROXYListener) (st next : FlowRelay) (action : FlowAction)

theorem marks_modified (flow : Nat) (change : TPROXYUDPFlow → TPROXYUDPFlow) (same : ∀ f, (change f).marks = f.marks) :
    (st.heap.modify flow change).map TPROXYUDPFlow.marks = st.marks :=
  modify_map_same st.heap flow change TPROXYUDPFlow.marks fun f _ => same f

theorem marked_frame (marked : st.Marked) (marks : next.marks = st.marks) (sockets : next.sockets = st.sockets)
    (forwarded : next.forwarded = st.forwarded)
    (writing : ∀ item rest, next.accept = .writing item rest → st.accept = .writing item rest) : next.Marked := by
  refine ⟨marks ▸ marked.last, ?_, fun item rest point => ?_, forwarded ▸ marked.forwarded⟩
  · rw [marks, sockets]
    exact marked.socket
  · rw [marks]
    exact marked.written item rest (writing item rest point)

theorem marks_upstream (sound : st.Sound net) (m : FlowMarks) (member : m ∈ st.marks) :
    m.ends.upstream < st.sockets.length := by
  obtain ⟨f, inside, rfl⟩ := List.mem_map.mp member
  have bound := (sound.bound f.holding (heap_holding st f inside)).1
  obtain ⟨small, _⟩ := List.getElem?_eq_some_iff.mp bound
  rw [holdings, List.length_map] at small
  exact small

theorem marked_spent (sound : st.Sound net) (marked : st.Marked) (peers : List AddrPort) (point : AcceptPoint)
    (idle : ∀ item rest, point ≠ .writing item rest) : ((st.spend peers).setAccept point).Marked := by
  refine ⟨marked.last, fun m member genuine s found => ?_, fun item rest writing => absurd writing (idle item rest),
    marked.forwarded⟩
  rw [setAccept, spend, List.getElem?_append_left (marks_upstream net st sound m member)] at found
  exact marked.socket m member genuine s found

theorem marked_opened (sound : st.Sound net) (marked : st.Marked) (key : String) (src dst : AddrPort) (age : Nat)
    (point : AcceptPoint) (idle : ∀ item rest, point ≠ .writing item rest) :
    ((st.openUDPFlow key src dst age).setAccept point).Marked := by
  have grown : ((st.openUDPFlow key src dst age).setAccept point).marks = st.marks ++ [(st.newFlow key src dst age).marks] := by
    simp [marks, openUDPFlow, setAccept]
  refine ⟨fun m member => ?_, fun m member genuine s found unclosed => ?_,
    fun item rest writing => absurd writing (idle item rest), marked.forwarded⟩
  · rw [grown, List.mem_append, List.mem_singleton] at member
    rcases member with older | rfl
    · exact marked.last m older
    · rfl
  · rw [grown, List.mem_append, List.mem_singleton] at member
    rcases member with older | rfl
    · rw [setAccept, openUDPFlow, List.getElem?_append_left (marks_upstream net st sound m older)] at found
      exact marked.socket m older genuine s found unclosed
    · have same : some ⟨dialled dst, 0, 0⟩ = some s := by
        simpa [setAccept, openUDPFlow, TPROXYUDPFlow.marks, newFlow] using found
      rw [← Option.some.inj same]
      rfl

theorem marked_marked (sound : st.Sound net) (marked : st.Marked) (item : InHand) (rest : List Arrival) (f : TPROXYUDPFlow)
    (stored : st.heap[item.flow]? = some f) (sockets : List UDPSocket)
    (others : ∀ socket, socket ≠ f.upstream → sockets[socket]? = st.sockets[socket]?)
    (mine : f.dst.addr.is4In6 = false → ∀ s, sockets[f.upstream]? = some s → s.closes = 0 →
      s.tos = (f.marked item.packet.dscp).lastDSCP) :
    Marked { (st.setFlow item.flow (.marked item.packet.dscp)).setAccept (.writing item rest) with sockets := sockets } := by
  have place : st.marks[item.flow]? = some f.marks := by simp [marks, stored]
  have changed : (st.heap.modify item.flow (.marked item.packet.dscp)).map TPROXYUDPFlow.marks =
      st.marks.set item.flow (f.marked item.packet.dscp).marks :=
    modify_map_set st.heap item.flow _ TPROXYUDPFlow.marks f stored
  refine ⟨fun m member => ?_, fun m member genuine s found unclosed => ?_, fun other more writing => ?_, marked.forwarded⟩
  · rw [marks, setAccept, setFlow, changed] at member
    rcases List.mem_or_eq_of_mem_set member with before | rfl
    · exact marked.last m before
    · have last := marked.last f.marks (List.mem_of_getElem? place)
      simp only [TPROXYUDPFlow.marks, TPROXYUDPFlow.marked, last_mark_next] at last ⊢
      rw [← last]
      by_cases zero : item.packet.dscp = 0
      · simp [zero]
      · by_cases same : item.packet.dscp = f.lastDSCP <;> simp [zero, same]
  · rw [marks, setAccept, setFlow, changed] at member
    obtain ⟨index, at'⟩ := List.mem_iff_getElem?.mp member
    rw [Counting.get_set st.marks item.flow index f.marks _ place] at at'
    split_ifs at at' with here
    · obtain rfl := Option.some.inj at'
      exact mine genuine s found unclosed
    · obtain ⟨g, other, rfl⟩ := Option.map_eq_some_iff.mp ((List.getElem?_map ..).symm.trans at')
      have apart := (FlowHoldings.sockets_apart net st.holdings sound item.flow index f.holding g.holding
        (holdings_stored st _ f stored) (holdings_stored st _ g other) (Ne.symm here)).1
      exact marked.socket g.marks (List.mem_of_getElem? at') genuine s ((others _ apart).symm.trans found) unclosed
  · cases writing
    refine ⟨(f.marked item.packet.dscp).marks, ?_, ?_⟩
    · rw [marks, setAccept, setFlow, changed, Counting.get_set st.marks item.flow item.flow f.marks _ place, if_pos rfl]
    · simp [TPROXYUDPFlow.marks, TPROXYUDPFlow.marked]

theorem marked_shut (marked : st.Marked) (flow : Nat) (e : FlowEnds) :
    ((st.release e).finish.setFlow flow .shutdown).Marked := by
  have same : ((st.release e).finish.setFlow flow .shutdown).marks = st.marks := marks_modified st flow _ fun _ => rfl
  refine ⟨same ▸ marked.last, fun m member genuine s found unclosed => ?_, fun item rest writing => ?_, marked.forwarded⟩
  · rw [same] at member
    simp only [setFlow, finish, release, setSocket, List.getElem?_modify] at found
    cases stored : st.sockets[m.ends.upstream]? with
    | none => simp [stored] at found
    | some old =>
        rw [stored] at found
        have kept : s = old := by
          by_cases first : e.upstream = m.ends.upstream <;> by_cases second : e.reply = m.ends.upstream <;>
            simp [first, second] at found <;> subst found <;> simp [UDPSocket.close] at unclosed ⊢
        rw [kept] at unclosed ⊢
        exact marked.socket m member genuine old stored unclosed
  · rw [same]
    exact marked.written item rest writing

theorem marked_applied (sound : st.Sound net) (delivered : st.Delivered net t) (marked : st.Marked) (item : InHand)
    (rest : List Arrival) (f : TPROXYUDPFlow) (marking : st.accept = .marking item rest)
    (stored : st.heap[item.flow]? = some f) (fresh : item.packet.dscp ≠ 0 ∧ item.packet.dscp ≠ f.lastDSCP) :
    (((st.setSocket f.upstream (applyDSCP true item.packet.dst.addr.is6 item.packet.dscp)).setFlow item.flow
      (.marked item.packet.dscp)).setAccept (.writing item rest)).Marked := by
  obtain ⟨e, joined, _, target⟩ := delivered.hand item (by rw [marking]; rfl)
  have place : st.ends item.flow = some f.toFlowEnds := by rw [ends, stored]; rfl
  obtain rfl := Option.some.inj (place.symm.trans joined)
  refine marked_marked net st sound marked item rest f stored
    (st.sockets.modify f.upstream (applyDSCP true item.packet.dst.addr.is6 item.packet.dscp))
    (fun socket different => ?_) fun genuine s found unclosed => ?_
  · exact List.getElem?_modify_ne _ _ (Ne.symm different)
  · rw [List.getElem?_modify_eq] at found
    obtain ⟨old, socket, rfl⟩ := Option.map_eq_some_iff.mp found
    have unchanged : (applyDSCP true item.packet.dst.addr.is6 item.packet.dscp old).closes = old.closes := by
      unfold applyDSCP
      split_ifs <;> rfl
    have family : item.packet.dst.addr.is6 = old.peer.addr.is6 := by
      rw [upstream_peer net st sound item.flow f old stored socket, dialled_genuine f.dst genuine, target]
    rw [applyDSCP, if_pos ⟨rfl, unchanged.symm.trans unclosed, family⟩, TPROXYUDPFlow.marked, if_pos fresh]

theorem effect_marked (sound : st.Sound net) (delivered : st.Delivered net t) (applies : action.applies = true)
    (effect : Effect net t st action next) (marked : st.Marked) : next.Marked := by
  cases effect with
  | unopened opening a rest peers => exact marked_spent net st sound marked peers _ (by simp)
  | opened age a rest src packet => exact marked_opened net st sound marked _ src packet.dst age _ (by simp)
  | mark applied item rest f marking stored fresh =>
      obtain rfl : applied = true := applies
      exact marked_applied net t st sound delivered marked item rest f marking stored fresh
  | keep applied item rest f marking stored same =>
      refine marked_marked net st sound marked item rest f stored st.sockets (fun _ _ => rfl) fun genuine s found unclosed => ?_
      rw [TPROXYUDPFlow.marked, if_neg same]
      exact marked.socket f.marks (List.mem_map_of_mem (List.mem_of_getElem? stored)) genuine s found unclosed
  | sent item rest f s writing stored socket unclosed =>
      refine ⟨marked.last, marked.socket, by simp, fun sent member genuine => ?_⟩
      rcases List.mem_append.mp member with before | last
      · exact marked.forwarded sent before genuine
      · obtain rfl := List.mem_singleton.mp last
        obtain ⟨m, place, ended⟩ := marked.written item rest writing
        have known : st.marks[item.flow]? = some f.marks := by simp [marks, stored]
        obtain rfl := Option.some.inj (known.symm.trans place)
        obtain ⟨e, joined, _, target⟩ := delivered.hand item (by rw [writing]; rfl)
        have mine : st.ends item.flow = some f.toFlowEnds := by rw [ends, stored]; rfl
        obtain rfl := Option.some.inj (mine.symm.trans joined)
        have member := List.mem_of_getElem? place
        exact ⟨(marked.socket f.marks member (target ▸ genuine) s socket unclosed).trans (marked.last f.marks member), ended⟩
  | shut flow f => exact marked_shut st marked flow f.toFlowEnds
  | advance | stop | cancel | panicked => exact marked_frame st _ marked rfl rfl rfl fun _ _ point => point
  | enter | leave | receive | retry | drained | skipped | found | stamped | unsent =>
      exact marked_frame st _ marked rfl rfl rfl (by simp [setAccept, FlowRelay.leave])
  | bumped item rest stamp =>
      exact marked_frame st _ marked (marks_modified st item.flow (.bump stamp st.clock) fun _ => rfl) rfl rfl (by simp [setAccept])
  | turned _ flow | recorded flow | replied flow | removed flow | unlisted flow | shutAgain flow =>
      refine marked_frame st _ marked (marks_modified st flow _ ?_) rfl rfl fun _ _ point => point
      exact fun _ => rfl

end Marks

theorem udp_marks_carried (net : NetLib) (t : TPROXYListener) (unambiguous : net.Unambiguous) (st : FlowRelay)
    (reached : Runs.Reach (step net t) (fun _ action => action.applies = true) start st) (sent : Forwarded)
    (member : sent ∈ st.forwarded) (genuine : sent.item.packet.dst.addr.is4In6 = false) :
    sent.tos = lastMark sent.dscps ∧ sent.dscps.getLast? = some sent.item.packet.dscp := by
  have preserved : Runs.Preserved (step net t) (fun _ action => action.applies = true)
      fun st => (st.Sound net ∧ st.Delivered net t) ∧ st.Marked := by
    rintro st action next ⟨both, marked⟩ applies taken
    exact ⟨delivered_preserved net t unambiguous (fun _ action => action.applies = true) st action next both applies taken,
      effect_marked net t st next action both.1 both.2 applies (step_effect net t st next action taken) marked⟩
  have begins : start.Marked := by
    refine ⟨?_, ?_, ?_, ?_⟩ <;> simp [start, marks]
  exact (Runs.reach_invariant preserved reached ⟨⟨start_sound net, start_delivered net t⟩, begins⟩).2.forwarded sent member genuine

end FlowRelay

def PumpPoint.left : PumpPoint → Bool
  | .leaving | .shutting | .done => true
  | _ => false

def FlowAction.calm : FlowAction → Bool
  | .stop | .cancel | .pumpRead _ .failed => false
  | _ => true

def TPROXYUDPFlow.silence (clock : Nat) (f : TPROXYUDPFlow) : Nat := max f.quiet (clock - f.touched)

def AcceptPoint.readings : AcceptPoint → List Nat
  | .storing _ _ stamp => [stamp]
  | _ => []

def PumpPoint.readings : PumpPoint → List Nat
  | .comparing _ loadedAt => [loadedAt]
  | .storing _ stamp => [stamp]
  | _ => []

-- What a goroutine reads of the clock, or of the last activity, it uses within slack.
def FlowRelay.Prompt (slack : Nat) (st : FlowRelay) : FlowAction → Prop
  | .advance elapsed =>
      (∀ stamp ∈ st.accept.readings, st.clock + elapsed ≤ stamp + slack) ∧
        ∀ f ∈ st.heap, ∀ reading ∈ f.pump.readings, st.clock + elapsed ≤ reading + slack
  | .take (.opened age) => age ≤ slack
  | _ => True

instance (slack : Nat) (st : FlowRelay) : (action : FlowAction) → Decidable (st.Prompt slack action)
  | .advance _ => inferInstanceAs (Decidable (_ ∧ _))
  | .take (.opened _) => inferInstanceAs (Decidable (_ ≤ _))
  | .take .dialFailed | .take .listenFailed | .take .mistyped => isTrue trivial
  | .stop | .cancel | .check | .receive _ | .stamp | .store | .mark _ | .write _ => isTrue trivial
  | .pumpCheck _ | .pumpLoad _ | .pumpCompare _ | .pumpRead _ _ | .pumpStamp _ | .pumpStore _ | .pumpReply _ _ => isTrue trivial
  | .pumpRemove _ | .pumpShut _ => isTrue trivial

def FlowRelay.Steady (slack : Nat) (st : FlowRelay) (action : FlowAction) : Prop := action.calm = true ∧ st.Prompt slack action

instance (slack : Nat) (st : FlowRelay) (action : FlowAction) : Decidable (st.Steady slack action) :=
  inferInstanceAs (Decidable (_ ∧ _))

structure TPROXYUDPFlow.Awake (timeout : Int) (slack clock : Nat) (f : TPROXYUDPFlow) : Prop where
  past : f.touched ≤ clock
  stored : f.touched ≤ f.lastActivity + slack
  prompt : ∀ reading ∈ f.pump.readings, clock ≤ reading + slack
  loaded : ∀ last loadedAt, f.pump = .comparing last loadedAt → loadedAt ≤ last + slack + f.silence clock
  paused : f.pump.left = true → timeout ≤ f.silence clock + 2 * slack

namespace FlowRelay

structure Calm (t : TPROXYListener) (slack : Nat) (st : FlowRelay) : Prop where
  running : st.stopped = false ∧ st.cancelled = false
  prompt : ∀ stamp ∈ st.accept.readings, st.clock ≤ stamp + slack
  awake : ∀ f ∈ st.heap, f.Awake t.cfg.udpIdleTimeout slack st.clock

section Idle

variable (timeout : Int) (slack clock : Nat) (f : TPROXYUDPFlow)

theorem silence_bumped (stamp : Nat) : (f.bump stamp clock).silence clock = f.silence clock := by
  simp [TPROXYUDPFlow.silence, TPROXYUDPFlow.bump]

theorem awake_bumped (stamp : Nat) (prompt : clock ≤ stamp + slack) (awake : f.Awake timeout slack clock) :
    (f.bump stamp clock).Awake timeout slack clock := by
  refine ⟨Nat.le_refl _, prompt, awake.prompt, ?_, ?_⟩
  · rw [silence_bumped]
    exact awake.loaded
  · rw [silence_bumped]
    exact awake.paused

theorem awake_moved (point : PumpPoint) (awake : f.Awake timeout slack clock)
    (prompt : ∀ reading ∈ point.readings, clock ≤ reading + slack)
    (loaded : ∀ last loadedAt, point = .comparing last loadedAt → loadedAt ≤ last + slack + f.silence clock)
    (earned : point.left = true → timeout ≤ f.silence clock + 2 * slack) : (f.moved point).Awake timeout slack clock :=
  ⟨awake.past, awake.stored, prompt, loaded, earned⟩

theorem awake_later (elapsed : Nat) (awake : f.Awake timeout slack clock)
    (prompt : ∀ reading ∈ f.pump.readings, clock + elapsed ≤ reading + slack) : f.Awake timeout slack (clock + elapsed) := by
  have grown : f.silence clock ≤ f.silence (clock + elapsed) := by
    simp only [TPROXYUDPFlow.silence]
    omega
  refine ⟨Nat.le_add_right_of_le awake.past, awake.stored, prompt, fun last loadedAt comparing => ?_, fun left => ?_⟩
  · have before := awake.loaded last loadedAt comparing
    omega
  · have before := awake.paused left
    omega

variable (t : TPROXYListener) (st : FlowRelay)

theorem awake_turned (flow : Nat) (action : FlowAction) (point : PumpPoint) (calm : st.Calm t slack) (quiet : action.calm = true)
    (unclosed : f.closed = false) (awake : f.Awake t.cfg.udpIdleTimeout slack st.clock) (turn : Turn t st flow f action point) :
    (f.moved point).Awake t.cfg.udpIdleTimeout slack st.clock := by
  apply awake_moved _ _ _ f point awake
  · intro reading member
    cases turn with
    | loaded | stamped =>
        rw [List.mem_singleton.mp member]
        exact Nat.le_add_right _ _
    | ended | passed | expired | blocked | looped | failed | answered | unsent => cases member
  · rintro last loadedAt rfl
    cases turn with
    | loaded =>
        have past := awake.past
        have stored := awake.stored
        simp only [TPROXYUDPFlow.silence]
        omega
  · intro left
    cases turn with
    | ended checking finished =>
        rcases finished with cancelled | stopped | closed
        · exact absurd cancelled (by simp [calm.running.2])
        · exact absurd stopped (by simp [calm.running.1])
        · exact absurd closed (by simp [unclosed])
    | expired last loadedAt comparing idle =>
        have loaded := awake.loaded last loadedAt comparing
        have prompt := awake.prompt loadedAt (by rw [comparing]; exact List.mem_singleton.mpr rfl)
        omega
    | failed => cases quiet
    | passed | loaded | blocked | looped | answered | stamped | unsent => cases left

theorem calm_modified (calm : st.Calm t slack) (flow : Nat) (change : TPROXYUDPFlow → TPROXYUDPFlow)
    (kept : ∀ f, st.heap[flow]? = some f → f.Awake t.cfg.udpIdleTimeout slack st.clock →
      (change f).Awake t.cfg.udpIdleTimeout slack st.clock) :
    ∀ f ∈ st.heap.modify flow change, f.Awake t.cfg.udpIdleTimeout slack st.clock := by
  intro f member
  obtain ⟨index, stored⟩ := List.mem_iff_getElem?.mp member
  rw [List.getElem?_modify] at stored
  obtain ⟨old, before, rfl⟩ := Option.map_eq_some_iff.mp stored
  have awake := calm.awake old (List.mem_of_getElem? before)
  split_ifs with here
  · exact kept old (here ▸ before) awake
  · exact awake

variable (net : NetLib) (next : FlowRelay) (action : FlowAction)

theorem effect_calm (sound : st.Sound net) (steady : st.Steady slack action) (effect : Effect net t st action next)
    (calm : st.Calm t slack) : next.Calm t slack := by
  obtain ⟨quiet, prompt⟩ := steady
  cases effect with
  | advance elapsed =>
      exact ⟨calm.running, prompt.1, fun f member => awake_later _ _ _ f elapsed (calm.awake f member) (prompt.2 f member)⟩
  | stop | cancel => cases quiet
  | opened age a rest src packet =>
      refine ⟨calm.running, by simp [setAccept, AcceptPoint.readings], fun f member => ?_⟩
      rcases List.mem_append.mp member with older | fresh
      · exact calm.awake f older
      · have young : age ≤ slack := prompt
        rw [List.mem_singleton.mp fresh]
        refine ⟨Nat.le_refl _, ?_, by simp [newFlow, PumpPoint.readings], by simp [newFlow], by simp [newFlow, PumpPoint.left]⟩
        simp only [newFlow]
        omega
  | stamped item rest =>
      refine ⟨calm.running, fun stamp member => ?_, calm.awake⟩
      rw [List.mem_singleton.mp member]
      exact Nat.le_add_right _ _
  | bumped item rest stamp storing =>
      have recent := calm.prompt stamp (by rw [storing]; exact List.mem_singleton.mpr rfl)
      exact ⟨calm.running, by simp [setAccept, AcceptPoint.readings],
        calm_modified slack t st calm item.flow _ fun f _ awake => awake_bumped _ _ _ f stamp recent awake⟩
  | mark _ item | keep _ item =>
      refine ⟨calm.running, by simp [setAccept, AcceptPoint.readings], calm_modified slack t st calm item.flow _ fun f _ awake => ?_⟩
      exact ⟨awake.past, awake.stored, awake.prompt, awake.loaded, awake.paused⟩
  | turned _ flow f point stored turn =>
      refine ⟨calm.running, calm.prompt, calm_modified slack t st calm flow _ fun g found awake => ?_⟩
      obtain rfl := Option.some.inj (stored.symm.trans found)
      have unclosed : f.closed = false := by
        have listed := (turn_listed t st flow f action point turn).1
        have closes := flow_over net st sound f (List.mem_of_getElem? stored)
        cases closed : f.closed with
        | false => rfl
        | true => simp [closes.mp closed, PumpPoint.phase] at listed
      exact awake_turned slack f t st flow action point calm quiet unclosed awake turn
  | recorded flow f payload stamp stored storing =>
      refine ⟨calm.running, calm.prompt, calm_modified slack t st calm flow _ fun g found awake => ?_⟩
      obtain rfl := Option.some.inj (stored.symm.trans found)
      have recent := awake.prompt stamp (by rw [storing]; exact List.mem_singleton.mpr rfl)
      exact awake_moved _ _ _ _ _ (awake_bumped _ _ _ f stamp recent awake) (by simp [PumpPoint.readings]) (by simp) (by simp [PumpPoint.left])
  | replied flow f =>
      refine ⟨calm.running, calm.prompt, calm_modified slack t st calm flow _ fun g _ awake => ?_⟩
      exact awake_moved _ _ _ g _ awake (by simp [PumpPoint.readings]) (by simp) (by simp [PumpPoint.left])
  | removed flow f stored leaving | unlisted flow f stored leaving =>
      refine ⟨calm.running, calm.prompt, calm_modified slack t st calm flow _ fun g found awake => ?_⟩
      obtain rfl := Option.some.inj (stored.symm.trans found)
      exact awake_moved _ _ _ f _ awake (by simp [PumpPoint.readings]) (by simp) fun _ => awake.paused (by rw [leaving]; rfl)
  | shut flow f stored shutting | shutAgain flow f stored shutting =>
      refine ⟨calm.running, calm.prompt, calm_modified slack t st calm flow _ fun g found awake => ?_⟩
      obtain rfl := Option.some.inj (stored.symm.trans found)
      exact ⟨awake.past, awake.stored, by simp [TPROXYUDPFlow.shutdown, PumpPoint.readings], by simp [TPROXYUDPFlow.shutdown],
        fun _ => awake.paused (by rw [shutting]; rfl)⟩
  | enter | leave | receive | retry | drained | skipped | found | unopened | sent | unsent =>
      exact ⟨calm.running, by simp [setAccept, FlowRelay.leave, AcceptPoint.readings], calm.awake⟩
  | panicked => exact ⟨calm.running, calm.prompt, calm.awake⟩

end Idle

-- A flow stays in the table with its sockets open as long as its silences, with
-- twice the time a reading may take to be used, are shorter than the timeout.
theorem busy_flow_kept (net : NetLib) (t : TPROXYListener) (slack : Nat) (st : FlowRelay)
    (reached : Runs.Reach (step net t) (Steady slack) start st) (flow : Nat) (f : TPROXYUDPFlow)
    (stored : st.heap[flow]? = some f) (busy : f.silence st.clock + 2 * slack < t.cfg.udpIdleTimeout) :
    st.flows.lookup (flowKey net f.src f.dst) = some flow ∧ f.closed = false := by
  have preserved : Runs.Preserved (step net t) (Steady slack) fun st => st.Sound net ∧ st.Calm t slack := by
    rintro st action next ⟨sound, calm⟩ steady taken
    exact ⟨sound_preserved net t (Steady slack) st action next sound steady taken,
      effect_calm slack t st net next action sound steady (step_effect net t st next action taken) calm⟩
  have begins : start.Calm t slack := ⟨⟨rfl, rfl⟩, by simp [start, AcceptPoint.readings], by simp [start]⟩
  obtain ⟨sound, calm⟩ := Runs.reach_invariant preserved reached ⟨start_sound net, begins⟩
  have member := List.mem_of_getElem? stored
  have staying : f.pump.left = false := by
    cases left : f.pump.left with
    | false => rfl
    | true =>
        have paused := (calm.awake f member).paused left
        omega
  have listed : f.holding.phase = .listed := by
    cases pump : f.pump <;> simp [TPROXYUDPFlow.holding, PumpPoint.phase, pump] <;> simp [pump, PumpPoint.left] at staying
  have key := (sound.named f.holding.ends (List.mem_map_of_mem (heap_holding st f member))).key
  have unclosed := (flow_over net st sound f member).not.mpr fun ended => by simp [ended, PumpPoint.left] at staying
  exact ⟨(sound.listed _ flow).mpr ⟨f.holding, holdings_stored st flow f stored, key, listed⟩, by simpa using unclosed⟩

end FlowRelay

theorem endpoint_text_bar (a : AddrPort) (plain : a.Plain) : '|' ∉ (endpointText a.addr a.port).toList := by
  have digits := Numerals.digits_avoid 10 (by decide) (by decide) a.port.toNat '|' (by decide)
  rcases plain with rfl | ⟨ip, port, rfl⟩
  · decide
  · cases ip with
    | four bytes =>
        have fields := Numerals.joined_avoid 10 (by decide) (by decide) '.' (bytes.toList.map UInt8.toNat) '|' (by decide) (by decide)
        simp only [IP.addr, Addr.addrFrom4, endpointText, String.toList_ofList, List.mem_append, List.mem_cons, not_or]
        exact ⟨fields, by decide, digits⟩
    | sixteen bytes =>
        have groups := Numerals.joined_avoid 16 (by decide) (by decide) ':' (Octets.pairs bytes.toList) '|' (by decide) (by decide)
        simp only [IP.addr, Addr.addrFrom16, endpointText, zoneText, String.toList_ofList, if_true, List.append_nil, List.mem_append,
          List.mem_cons, not_or]
        exact ⟨⟨by decide, groups⟩, by decide, by decide, digits⟩

theorem endpoint_text_injective (a b : AddrPort) (first : a.Plain) (second : b.Plain)
    (same : endpointText a.addr a.port = endpointText b.addr b.port) : a = b := by
  have parsed : ∀ ip port, parseEndpoint (endpointText (IP.addr ip) port) = .ok ⟨IP.addr ip, port⟩ := by
    intro ip port
    apply parse_endpoint_text
    cases ip <;> rfl
  have nothing : parseEndpoint (endpointText .zero 0) = .error "not an ip:port" := by decide +kernel
  rcases first with rfl | ⟨ip, port, rfl⟩ <;> rcases second with rfl | ⟨ip', port', rfl⟩
  · rfl
  · rw [same, parsed] at nothing
    cases nothing
  · rw [← same, parsed] at nothing
    cases nothing
  · have alike := parsed ip port
    rw [same, parsed] at alike
    exact (Except.ok.inj alike).symm

theorem plain_net_unambiguous : plainNet.Unambiguous := ⟨endpoint_text_bar, endpoint_text_injective⟩

def resolverListener : TPROXYListener := newTPROXYListener tunnelListener.cfg

def markedQuery (mark : UInt8) : Arrival :=
  ⟨tunnelSource, [17, 0, 0, 0, 0, 0, 0, 0, 0, 0, 0, 0, 1, 0, 0, 0, mark, 0, 0, 0, 0, 0, 0, 0] ++ plainControl 1, [7]⟩

def resolverSteps : List FlowAction :=
  [.check, .receive (.batch [markedQuery 184, markedQuery 0]), .take (.opened 0), .stamp, .store, .mark true, .write true,
    .pumpCheck 0, .pumpLoad 0, .advance 2, .pumpCompare 0, .take (.opened 0), .advance 5, .stamp, .advance 1, .store, .mark true,
    .write true, .pumpRead 0 (.got [9]), .pumpStamp 0, .pumpStore 0, .pumpReply 0 true, .advance 5]

theorem udp_flows_separate_resolver :
    ∃ st, Runs.Reach (FlowRelay.step plainNet resolverListener) (fun _ _ => True) .start st ∧ st.forwarded.length = 2 ∧
      (∀ sent ∈ st.forwarded, sent.peer = dialled sent.item.packet.dst) ∧ st.replies.length = 1 ∧
      ∀ r ∈ st.replies, ∃ f, st.heap[r.flow]? = some f ∧ r.client = f.src ∧ r.source = f.dst := by
  have observed : (Runs.execute (FlowRelay.step plainNet resolverListener) (fun _ _ => True) .start resolverSteps).map
      (fun st => (st.forwarded.length, st.replies.length)) = some (2, 1) := by
    decide +kernel
  obtain ⟨st, completed, view⟩ := Option.map_eq_some_iff.mp observed
  obtain ⟨sent, answered⟩ := Prod.mk.inj view
  have reached := Runs.execute_reach _ _ _ completed
  obtain ⟨_, _, forwarded, replies⟩ :=
    FlowRelay.udp_flows_separate plainNet resolverListener plain_net_unambiguous st reached
  exact ⟨st, reached, sent, fun sent member => (forwarded sent member).1, answered, replies⟩

theorem udp_marks_carried_resolver :
    ∃ (st : FlowRelay) (sent : Forwarded), sent ∈ st.forwarded ∧ sent.item.packet.dscp = 0 ∧ sent.tos = 184 := by
  have observed : (Runs.execute (FlowRelay.step plainNet resolverListener) (fun _ action => action.applies = true) .start
      resolverSteps).map (fun st => st.forwarded.map fun sent => (sent.item.packet, sent.dscps)) =
      some [(⟨⟨tunnelAddr 1, 53⟩, 184, true⟩, [184]), (⟨⟨tunnelAddr 1, 53⟩, 0, true⟩, [184, 0])] := by
    decide +kernel
  obtain ⟨st, completed, view⟩ := Option.map_eq_some_iff.mp observed
  have member : (⟨⟨tunnelAddr 1, 53⟩, 0, true⟩, [184, 0]) ∈ st.forwarded.map fun sent => (sent.item.packet, sent.dscps) := by
    simp [view]
  obtain ⟨sent, inside, same⟩ := List.mem_map.mp member
  obtain ⟨packet, dscps⟩ := Prod.mk.inj same
  have carried := (FlowRelay.udp_marks_carried plainNet resolverListener plain_net_unambiguous st
    (Runs.execute_reach _ _ _ completed) sent inside (by rw [packet]; rfl)).1
  exact ⟨st, sent, inside, by rw [packet], carried.trans (by rw [dscps]; rfl)⟩

theorem busy_flow_kept_resolver :
    ∃ (st : FlowRelay) (f : TPROXYUDPFlow), Runs.Reach (FlowRelay.step plainNet resolverListener) (FlowRelay.Steady 2) .start st ∧
      st.heap[0]? = some f ∧ st.clock = 13 ∧ f.silence st.clock = 8 ∧
      st.flows.lookup (flowKey plainNet f.src f.dst) = some 0 ∧ f.closed = false := by
  have observed : (Runs.execute (FlowRelay.step plainNet resolverListener) (FlowRelay.Steady 2) .start resolverSteps).map
      (fun st => (st.clock, (st.heap[0]?).map fun f => f.silence st.clock)) = some (13, some 8) := by
    decide +kernel
  obtain ⟨st, completed, view⟩ := Option.map_eq_some_iff.mp observed
  obtain ⟨clock, flow⟩ := Prod.mk.inj view
  obtain ⟨f, stored, silence⟩ := Option.map_eq_some_iff.mp flow
  have timeout : (12 : Int) < resolverListener.cfg.udpIdleTimeout := by decide +kernel
  have reached := Runs.execute_reach _ _ _ completed
  have kept := FlowRelay.busy_flow_kept plainNet resolverListener 2 st reached 0 f stored (by rw [silence]; exact timeout)
  exact ⟨st, f, reached, stored, clock, silence, kept⟩

end Packethose
