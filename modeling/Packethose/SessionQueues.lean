import Packethose.Dispatch
import Packethose.LaneRoundTrip

set_option autoImplicit false

namespace Packethose

namespace MCState

def queueOf (st : MCState) (ref : SessionRef) : List Bytes := ((st.heap[ref]?).map Session.outbound).getD []

def sentTo (st : MCState) (ref : SessionRef) : List Bytes :=
  st.dispatched.filterMap fun entry => if entry.1 = ref then some entry.2 else none

def laneTook (st : MCState) : Action → List (Nat × SessionRef × Bytes)
  | .laneRead conn =>
      match st.pointOf conn with
      | some (.attached ref _) => (st.queueOf ref).head?.toList.map fun packet => (conn, ref, packet)
      | _ => []
  | _ => []

def lanesTook (trace : List (MCState × Action)) : List (Nat × SessionRef × Bytes) :=
  trace.flatMap fun entry => laneTook entry.1 entry.2

def takenFrom (ref : SessionRef) (taken : List (Nat × SessionRef × Bytes)) : List Bytes :=
  taken.filterMap fun entry => if entry.2.1 = ref then some entry.2.2 else none

def lanePackets (trace : List (MCState × Action)) (conn : Nat) : List Bytes :=
  (lanesTook trace).filterMap fun entry => if entry.1 = conn then some entry.2.2 else none

section Steps

variable (env : Env) (st next : MCState) (action : Action) (ref : SessionRef)

theorem moves_unattached (entry : Conn) (before after : ConnPoint) (moves : Moves env st entry before after) (ref : SessionRef)
    (queue : Nat) : before ≠ .attached ref queue := by
  cases moves <;> simp

theorem moved_took (conn : Nat) (entry : Conn) (point : ConnPoint) (actor : action.conn = some conn)
    (found : st.conns[conn]? = some entry) (moves : Moves env st entry entry.point point) : laneTook st action = [] := by
  cases action with
  | laneRead other =>
      obtain rfl : other = conn := Option.some.inj actor
      have here : st.pointOf other = some entry.point := by rw [pointOf, found]; rfl
      rw [laneTook, here]
      split
      · rename_i ref queue same
        exact absurd (Option.some.inj same) (moves_unattached env st entry _ _ moves ref queue)
      · rfl
  | _ => rfl

theorem releasing_took (point : ConnPoint) (clientID : ClientID) (releasing : Releasing st action point clientID) :
    laneTook st action = [] := by
  cases releasing <;> rfl

theorem queue_modified (target : SessionRef) (change : Session → Session) (same : ∀ s, (change s).outbound = s.outbound) :
    ((((st.heap.modify target change)[ref]?).map Session.outbound).getD []) = st.queueOf ref := by
  rw [List.getElem?_modify, queueOf]
  cases st.heap[ref]? with
  | none => rfl
  | some s => by_cases here : target = ref <;> simp [here, same]

theorem queue_stored (s : Session) (stored : st.heap[ref]? = some s) : st.queueOf ref = s.outbound := by
  rw [queueOf, stored]
  rfl

theorem balanced_idle (dispatched : next.dispatched = st.dispatched) (queue : next.queueOf ref = st.queueOf ref)
    (idle : laneTook st action = []) :
    ∃ fresh, next.sentTo ref = st.sentTo ref ++ fresh ∧
      st.queueOf ref ++ fresh = takenFrom ref (laneTook st action) ++ next.queueOf ref :=
  ⟨[], by rw [sentTo, dispatched, List.append_nil, sentTo], by rw [idle, queue, List.append_nil]; rfl⟩

theorem balanced_read (conn : Nat) (s : Session) (queue : Nat) (target : SessionRef)
    (point : st.pointOf conn = some (.attached target queue)) (stored : st.heap[target]? = some s) (nonempty : ¬ s.outbound.isEmpty) :
    ∃ fresh, (st.setSession target Session.dequeued).sentTo ref = st.sentTo ref ++ fresh ∧
      st.queueOf ref ++ fresh = takenFrom ref (laneTook st (.laneRead conn)) ++ (st.setSession target Session.dequeued).queueOf ref := by
  refine ⟨[], by simp [sentTo, setSession], ?_⟩
  obtain ⟨first, rest, outbound⟩ : ∃ first rest, s.outbound = first :: rest := by
    cases held : s.outbound with
    | nil => simp [held] at nonempty
    | cons first rest => exact ⟨first, rest, rfl⟩
  have took : laneTook st (.laneRead conn) = [(conn, target, first)] := by
    simp [laneTook, point, queue_stored st target s stored, outbound]
  rw [took, List.append_nil, queueOf, queueOf, setSession, List.getElem?_modify]
  by_cases here : target = ref
  · subst here
    simp [takenFrom, stored, outbound, Session.dequeued]
  · cases st.heap[ref]? <;> simp [takenFrom, here]

theorem balanced_queued (reader : Nat) (packet : Bytes) (target : SessionRef) (s : Session) (stored : st.heap[target]? = some s) :
    ∃ fresh, (((st.setReader reader none).setSession target (Session.enqueued packet)).noteDispatch target packet).sentTo ref =
        st.sentTo ref ++ fresh ∧
      st.queueOf ref ++ fresh = takenFrom ref (laneTook st (.tunSend reader true)) ++
        (((st.setReader reader none).setSession target (Session.enqueued packet)).noteDispatch target packet).queueOf ref := by
  simp only [laneTook, sentTo, noteDispatch, setSession, setReader, List.filterMap_append]
  refine ⟨_, rfl, ?_⟩
  rw [queueOf, queueOf, List.getElem?_modify]
  by_cases here : target = ref
  · subst here
    simp [takenFrom, stored, Session.enqueued]
  · cases st.heap[ref]? <;> simp [takenFrom, here]

theorem effect_balanced (effect : Effect env st action next) :
    ∃ fresh, next.sentTo ref = st.sentTo ref ++ fresh ∧
      st.queueOf ref ++ fresh = takenFrom ref (laneTook st action) ++ next.queueOf ref := by
  cases effect with
  | moved _ conn entry point actor found moves =>
      exact balanced_idle st _ action ref rfl rfl (moved_took env st action conn entry point actor found moves)
  | released _ conn entry clientID actor found releasing =>
      exact balanced_idle st _ action ref rfl rfl (releasing_took st action entry.point clientID releasing)
  | allocated _ _ family =>
      cases family <;> exact balanced_idle st _ _ ref rfl rfl rfl
  | opened conn now entry ident db =>
      refine balanced_idle st _ _ ref (open_session_frame st ident db now).2.2.2.2.1 ?_ rfl
      change (((st.openSession ident db now).heap[ref]?).map Session.outbound).getD [] = st.queueOf ref
      rw [(open_session_frame st ident db now).1, queueOf]
      rcases Nat.lt_trichotomy ref st.heap.length with older | rfl | beyond
      · rw [List.getElem?_append_left older]
      · simp [newSession]
      · rw [List.getElem?_eq_none (by simp; omega), List.getElem?_eq_none (by omega)]
  | laned _ conn entry target s change _ found stored changed =>
      generalize reached : entry.point = point at changed
      cases changed with
      | attach now => exact balanced_idle st _ _ ref rfl (queue_modified st ref target _ fun _ => rfl) rfl
      | detach now queue => exact balanced_idle st _ _ ref rfl (queue_modified st ref target _ fun _ => rfl) rfl
      | laneRead queue nonempty =>
          have here : st.pointOf conn = some (.attached target queue) := by rw [pointOf, found, Option.map_some, reached]
          exact balanced_read st ref conn s queue target here stored nonempty
  | torn target s db =>
      refine balanced_idle st _ _ ref rfl ?_ rfl
      exact queue_modified st ref target Session.tornDown fun _ => rfl
  | queued reader packet target s held stored room => exact balanced_queued st ref reader packet target s stored
  | accepted | collected | cleared | tornAgain | reloaded | unreloaded | ignored | matched | dropped =>
      exact balanced_idle st _ _ ref rfl rfl rfl

def Bounded (st : MCState) : Prop := ∀ s ∈ st.heap, s.outbound.length ≤ outboundCap

theorem bounded_modified (bounded : st.Bounded) (target : SessionRef) (change : Session → Session)
    (kept : ∀ s, st.heap[target]? = some s → (change s).outbound.length ≤ outboundCap) :
    ∀ s ∈ st.heap.modify target change, s.outbound.length ≤ outboundCap := by
  intro s member
  obtain ⟨index, stored⟩ := List.mem_iff_getElem?.mp member
  rw [List.getElem?_modify] at stored
  obtain ⟨old, before, rfl⟩ := Option.map_eq_some_iff.mp stored
  split_ifs with here
  · exact kept old (here ▸ before)
  · exact bounded old (List.mem_of_getElem? before)

theorem bounded_preserved (guard : MCState → Action → Prop) : Runs.Preserved (step env) guard Bounded := by
  intro st action next bounded _ taken
  have old : ∀ (target : SessionRef) (s : Session), st.heap[target]? = some s → s.outbound.length ≤ outboundCap :=
    fun target s stored => bounded s (List.mem_of_getElem? stored)
  cases step_effect env st next action taken with
  | opened conn now entry ident db =>
      intro s member
      change s ∈ (st.openSession ident db now).heap at member
      rw [(open_session_frame st ident db now).1, List.mem_append, List.mem_singleton] at member
      rcases member with before | rfl
      · exact bounded s before
      · exact Nat.zero_le _
  | laned _ conn entry target s change _ found stored changed =>
      obtain ⟨heap, _⟩ := lane_change_heap st next action conn target s entry.point change changed
      intro s' member
      rw [heap] at member
      refine bounded_modified st bounded target change (fun s found => ?_) s' member
      have room := old target s found
      generalize entry.point = point at changed
      cases changed with
      | attach | detach => exact room
      | laneRead =>
          rw [Session.dequeued, List.length_tail]
          omega
  | torn target s db => exact bounded_modified st bounded target _ fun s found => old target s found
  | queued reader packet target s held stored room =>
      refine bounded_modified st bounded target _ fun s' found => ?_
      obtain rfl := Option.some.inj (stored.symm.trans found)
      rw [Session.enqueued, List.length_append, List.length_singleton]
      omega
  | allocated _ _ family => cases family <;> exact bounded
  | accepted | moved | released | collected | cleared | tornAgain | reloaded | unreloaded | ignored | matched | dropped =>
      exact bounded

end Steps

theorem taken_from_trace (ref : SessionRef) (trace : List (MCState × Action)) :
    (trace.flatMap fun entry => takenFrom ref (laneTook entry.1 entry.2)) = takenFrom ref (lanesTook trace) := by
  induction trace with
  | nil => rfl
  | cons entry rest ih =>
      rw [List.flatMap_cons, ih]
      simp [takenFrom, lanesTook, List.filterMap_append]

theorem queue_balance (env : Env) (pool4 pool6 : Option IPPool) (userDB : Option UserDB) (queues : Nat)
    (trace : List (MCState × Action)) (st : MCState) (run : Runs.Run (step env) (start pool4 pool6 userDB queues) trace st)
    (ref : SessionRef) : st.sentTo ref = takenFrom ref (lanesTook trace) ++ st.queueOf ref := by
  obtain ⟨fresh, sent, balanced⟩ := Runs.run_conserves (fun st => st.queueOf ref) (fun st => st.sentTo ref)
    (fun st action => takenFrom ref (laneTook st action))
    (fun st action next taken => effect_balanced env st next action ref (step_effect env st next action taken)) run
  have empty : (start pool4 pool6 userDB queues).queueOf ref = [] := by simp [queueOf, start]
  have unsent : (start pool4 pool6 userDB queues).sentTo ref = [] := by simp [sentTo, start]
  rw [empty, List.nil_append, taken_from_trace] at balanced
  rw [unsent, List.nil_append] at sent
  exact sent.trans balanced

-- Through every interleaving of readers, lanes and reapers, the packets put
-- into the queue of a session are those its lanes took from it, in order,
-- followed by the ones it still holds.
theorem session_queue_fifo (env : Env) (pool4 pool6 : Option IPPool) (userDB : Option UserDB) (queues : Nat)
    (trace : List (MCState × Action)) (st : MCState) (run : Runs.Run (step env) (start pool4 pool6 userDB queues) trace st)
    (ref : SessionRef) :
    st.sentTo ref = takenFrom ref (lanesTook trace) ++ st.queueOf ref ∧ (st.queueOf ref).length ≤ outboundCap := by
  have bounded : st.Bounded := (Runs.run_invariant (bounded_preserved env fun _ _ => True) run (fun _ _ => trivial)
    (by simp [Bounded, start])).1
  refine ⟨queue_balance env pool4 pool6 userDB queues trace st run ref, ?_⟩
  cases stored : st.heap[ref]? with
  | none => simp [queueOf, stored]
  | some s =>
      rw [queue_stored st ref s stored]
      exact bounded s (List.mem_of_getElem? stored)

end MCState

def benSteps : List Action :=
  apartSteps ++ [.attach 1 0, .tunRead 0 packetToBen, .tunSend 0 true, .tunRead 0 (packetToBen ++ [1]), .tunSend 0 true, .laneRead 1]

theorem ben_queued :
    ∃ trace st, Runs.Run (MCState.step pairEnv) pairStart trace st ∧
      (st.dispatched, st.queueOf 1) = ([(1, packetToBen), (1, packetToBen ++ [1])], [packetToBen ++ [1]]) := by
  have observed : (Runs.execute (MCState.step pairEnv) (fun _ _ => True) pairStart benSteps).map
      (fun st => (st.dispatched, st.queueOf 1)) = some ([(1, packetToBen), (1, packetToBen ++ [1])], [packetToBen ++ [1]]) := by
    decide +kernel
  obtain ⟨trace, st, run, _, _, view⟩ := Runs.execute_seen _ _ _ _ observed
  exact ⟨trace, st, run, view⟩

theorem session_queue_fifo_ben :
    ∃ trace st, Runs.Run (MCState.step pairEnv) pairStart trace st ∧
      MCState.takenFrom 1 (MCState.lanesTook trace) = [packetToBen] ∧ st.queueOf 1 = [packetToBen ++ [1]] := by
  obtain ⟨trace, st, run, view⟩ := ben_queued
  obtain ⟨sent, waiting⟩ := Prod.mk.inj view
  have balance := (MCState.session_queue_fifo pairEnv _ _ _ _ trace st run 1).1
  have both : st.sentTo 1 = [packetToBen] ++ [packetToBen ++ [1]] := by simp [MCState.sentTo, sent]
  rw [waiting, both] at balance
  exact ⟨trace, st, run, (List.append_cancel_right balance).symm, waiting⟩

namespace MCState

def Serves (st : MCState) (conn : Nat) (ref : SessionRef) : Prop :=
  st.pointOf conn = some .closed ∨ ∃ queue, st.pointOf conn = some (.attached ref queue)

section Lanes

variable (env : Env) (st next : MCState) (action : Action) (conn : Nat) (ref : SessionRef)

theorem serves_frame (same : next.pointOf conn = st.pointOf conn) (serves : st.Serves conn ref) : next.Serves conn ref := by
  rw [Serves, same]
  exact serves

theorem serves_pointed (before : MCState) (same : before.conns = st.conns) (mover : Nat) (entry : Conn) (point : ConnPoint)
    (found : st.conns[mover]? = some entry) (serves : st.Serves conn ref)
    (elsewhere : entry.point ≠ .closed ∧ ∀ ref queue, entry.point ≠ .attached ref queue) :
    (before.setPoint mover point).Serves conn ref := by
  have different : mover ≠ conn := by
    rintro rfl
    have here : st.pointOf mover = some entry.point := by rw [pointOf, found]; rfl
    rcases serves with closed | ⟨queue, attached⟩
    · exact elsewhere.1 (Option.some.inj (here.symm.trans closed))
    · exact elsewhere.2 ref queue (Option.some.inj (here.symm.trans attached))
  apply serves_frame st _ conn ref _ serves
  rw [pointOf, pointOf, setPoint, List.getElem?_modify_ne _ _ different, same]

theorem effect_serves (effect : Effect env st action next) (serves : st.Serves conn ref) : next.Serves conn ref := by
  cases effect with
  | accepted input =>
      apply serves_frame st _ conn ref _ serves
      have inside : conn < st.conns.length := by
        rcases serves with here | ⟨_, here⟩ <;>
        · obtain ⟨entry, found, _⟩ := point_of_some st conn _ here
          exact (List.getElem?_eq_some_iff.mp found).1
      rw [pointOf, pointOf, accept, List.getElem?_append_left inside]
  | moved _ mover entry point actor found moves =>
      refine serves_pointed st conn ref st rfl mover entry point found serves ?_
      generalize entry.point = here at moves
      cases moves <;> simp
  | allocated mover entry family hello db asg p changed result found assigning =>
      have frame : ((st.noteAllocation mover hello).setPool (some changed) family).conns = st.conns := by cases family <;> rfl
      refine serves_pointed st conn ref _ frame mover entry _ found serves ?_
      generalize entry.point = here at assigning
      cases assigning <;> simp
  | released _ mover entry clientID actor found releasing =>
      refine serves_pointed st conn ref (st.releaseAll clientID) rfl mover entry _ found serves ?_
      generalize entry.point = here at releasing
      cases releasing <;> simp
  | opened mover now entry ident db found admitted =>
      refine serves_pointed st conn ref _ (open_session_frame st ident db now).2.2.1 mover entry _ found serves ?_
      rw [admitted]
      simp
  | laned _ mover entry target s change _ found stored changed =>
      generalize reached : entry.point = here at changed
      cases changed with
      | attach now => exact serves_pointed st conn ref (st.setSession target _) rfl mover entry _ found serves (by simp [reached])
      | laneRead => exact serves
      | detach now queue =>
          by_cases same : mover = conn
          · subst same
            left
            rw [pointOf, setPoint, List.getElem?_modify_eq, setSession, found]
            rfl
          · apply serves_frame st _ conn ref _ serves
            rw [pointOf, pointOf, setPoint, List.getElem?_modify_ne _ _ same]
            rfl
  | collected | cleared | tornAgain | torn | reloaded | unreloaded | ignored | matched | queued | dropped => exact serves

theorem lane_took_serves (target : SessionRef) (packet : Bytes) (took : (conn, target, packet) ∈ laneTook st action)
    : ∃ queue, st.pointOf conn = some (.attached target queue) := by
  cases action with
  | laneRead reader =>
      rw [laneTook] at took
      split at took
      · rename_i found queue here
        obtain ⟨_, _, same⟩ := List.mem_map.mp took
        obtain ⟨rfl, rest⟩ := Prod.mk.inj same
        obtain ⟨rfl, _⟩ := Prod.mk.inj rest
        exact ⟨queue, here⟩
      · cases took
  | _ => cases took

theorem serves_took (serves : st.Serves conn ref) (trace : List (MCState × Action)) (final : MCState)
    (run : Runs.Run (step env) st trace final) (target : SessionRef) (packet : Bytes)
    (took : (conn, target, packet) ∈ lanesTook trace) : target = ref := by
  induction run with
  | nil => cases took
  | cons first second final action rest taken tail ih =>
      rcases List.mem_append.mp took with here | later
      · obtain ⟨queue, attached⟩ := lane_took_serves first action conn target packet here
        rcases serves with closed | ⟨_, mine⟩
        · cases closed.symm.trans attached
        · cases mine.symm.trans attached
          rfl
      · exact ih (effect_serves env first second action conn ref (step_effect env first second action taken) serves) later

theorem lane_session_fixed (trace : List (MCState × Action)) (final : MCState) (run : Runs.Run (step env) st trace final)
    (first second : SessionRef) (one two : Bytes) (left : (conn, first, one) ∈ lanesTook trace)
    (right : (conn, second, two) ∈ lanesTook trace) : first = second := by
  induction run with
  | nil => cases left
  | cons before after final action rest taken tail ih =>
      have settled : ∀ target packet, (conn, target, packet) ∈ laneTook before action → before.Serves conn target :=
        fun target packet took => .inr (lane_took_serves before action conn target packet took)
      have whole : Runs.Run (step env) before ((before, action) :: rest) final := .cons before after final action rest taken tail
      rcases List.mem_append.mp left with here | later
      · exact (serves_took env before conn first (settled first one here) _ final whole second two right).symm
      · rcases List.mem_append.mp right with here | also
        · exact serves_took env before conn second (settled second two here) _ final whole first one left
        · exact ih later also

end Lanes

section Downlink

variable (env : Env) (pool4 pool6 : Option IPPool) (userDB : Option UserDB) (queues : Nat)
  (trace : List (MCState × Action)) (st : MCState)

theorem took_dispatched (run : Runs.Run (step env) (start pool4 pool6 userDB queues) trace st) (conn : Nat) (ref : SessionRef)
    (packet : Bytes) (took : (conn, ref, packet) ∈ lanesTook trace) : (ref, packet) ∈ st.dispatched := by
  have member : packet ∈ takenFrom ref (lanesTook trace) := List.mem_filterMap.mpr ⟨(conn, ref, packet), took, if_pos rfl⟩
  have inside : packet ∈ st.sentTo ref := by
    rw [queue_balance env pool4 pool6 userDB queues trace st run ref]
    exact List.mem_append_left _ member
  obtain ⟨⟨target, other⟩, listed, same⟩ := List.mem_filterMap.mp inside
  split_ifs at same with mine
  obtain rfl := Option.some.inj same
  exact mine ▸ listed

theorem lane_packet_took (conn : Nat) (packet : Bytes) (member : packet ∈ lanePackets trace conn) :
    ∃ ref, (conn, ref, packet) ∈ lanesTook trace := by
  obtain ⟨⟨reader, ref, other⟩, took, same⟩ := List.mem_filterMap.mp member
  split_ifs at same with mine
  obtain rfl := Option.some.inj same
  exact ⟨ref, (show reader = conn from mine) ▸ took⟩

theorem send_dispatched_reads (aead : Option AEAD) (vnetHdr : Bool) (packets : List Bytes)
    (fits : ∀ packet ∈ packets, packet.length ≤ offered aead) :
    (sendDispatched aead vnetHdr packets).1 =
      (Sender.fresh aead).sendReads (fun _ => .written) (laneMinRead vnetHdr) (packets.map fun packet => .plain (.got packet)) := by
  have read : (packets.map fun packet => sessionPIORead (offered aead) (some packet)) = packets.map .got :=
    List.map_congr_left fun packet member => (session_read_got (offered aead) packet).mpr (fits packet member)
  rw [sendDispatched, read]
  change (Sender.fresh aead).tunToSock (fun _ => .written) (laneMinRead vnetHdr) (packets.map .got) = _
  rw [Sender.tun_to_sock_reads, List.map_map]
  rfl

theorem packets_read_got (packets : List Bytes) : packetsRead (packets.map fun packet => .plain (.got packet)) = packets := by
  induction packets with
  | nil => rfl
  | cons packet rest ih => simpa [packetsRead, LaneRead.packets] using ih

end Downlink

end MCState

end Packethose
