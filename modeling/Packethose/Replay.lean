import Packethose.Authorization
import Packethose.Routing

set_option autoImplicit false

namespace Packethose

def ConnPoint.session : ConnPoint → Option SessionRef
  | .joining ref => some ref
  | .attached ref _ => some ref
  | _ => none

def firstMessage (env : Env) (input : Bytes) : Option Bytes :=
  (readObfMsg env.keystream env.obfsKey input).toOption.map Prod.fst

namespace MCState

def inputs (st : MCState) : List Bytes := st.conns.map Conn.input

def Bound (env : Env) (st : MCState) : Prop :=
  ∀ entry ∈ st.conns, ∀ ref, entry.point.session = some ref →
    ∃ hello o, entry.outcome env = .ok hello ∧ st.owner ref = some o ∧ o.id = hello.clientID

section Steps

variable (env : Env) (st next : MCState) (action : Action)

theorem set_point_inputs (conn : Nat) (point : ConnPoint) : (st.setPoint conn point).inputs = st.inputs := by
  apply List.ext_getElem?
  intro other
  rw [inputs, inputs, List.getElem?_map, List.getElem?_map, set_point_conns, Option.map_map]
  congr 1
  funext entry
  by_cases here : conn = other <;> simp [here]

theorem effect_inputs (effect : Effect env st action next) (quiet : ∀ input, action ≠ .accept input) :
    next.inputs = st.inputs := by
  cases effect with
  | accepted input => exact absurd rfl (quiet input)
  | moved _ conn entry point => exact set_point_inputs st conn point
  | allocated conn entry family => cases family <;> exact set_point_inputs st conn _
  | released _ conn => exact set_point_inputs st conn .closed
  | opened conn now entry ident db =>
      rw [set_point_inputs, inputs, (open_session_frame st ident db now).2.2.1]
      rfl
  | laned _ conn entry ref s change _ found stored changed =>
      generalize entry.point = point at changed
      cases changed with
      | attach | detach => exact set_point_inputs st conn _
      | laneRead => rfl
  | collected | cleared | tornAgain | torn | reloaded | unreloaded | ignored | matched | queued | dropped => rfl

theorem bound_pointed (conn : Nat) (point : ConnPoint) (before : MCState) (same : before.conns = st.conns)
    (owner : ∀ ref o, st.owner ref = some o → before.owner ref = some o)
    (fresh : ∀ entry ref, st.conns[conn]? = some entry → point.session = some ref →
      ∃ hello o, entry.outcome env = .ok hello ∧ before.owner ref = some o ∧ o.id = hello.clientID)
    (bound : Bound env st) : Bound env (before.setPoint conn point) := by
  intro entry member ref joined
  rcases set_point_mem before conn point entry member with earlier | ⟨old, found, rfl⟩
  · obtain ⟨hello, o, read, owned, named⟩ := bound entry (same ▸ earlier) ref joined
    exact ⟨hello, o, read, owner ref o owned, named⟩
  · exact fresh old ref (same ▸ found) joined

theorem bound_quiet (conns : next.conns = st.conns) (owner : next.owner = st.owner) (bound : Bound env st) : Bound env next := by
  unfold Bound
  rw [conns, owner]
  exact bound

theorem moves_bound (entry : Conn) (old new : ConnPoint) (moves : Moves env st entry old new)
    (agrees : old.Agrees (entry.outcome env)) (owners : st.LiveOwners) (ref : SessionRef) (joined : new.session = some ref) :
    ∃ hello o, entry.outcome env = .ok hello ∧ st.owner ref = some o ∧ o.id = hello.clientID := by
  cases moves with
  | joined ident target live =>
      obtain rfl := Option.some.inj joined
      obtain ⟨hello, read, named⟩ := agrees
      obtain ⟨o, owned, filed⟩ := owners ident.clientID target live
      exact ⟨hello, o, read, owned, filed.trans named.symm⟩
  | _ => cases joined

theorem effect_bound (effect : Effect env st action next) (agree : ConnsAgree env st) (owners : st.LiveOwners)
    (bound : Bound env st) : Bound env next := by
  have kept := effect_owner env st next action effect
  cases effect with
  | accepted input =>
      intro entry member ref joined
      rcases List.mem_append.mp member with earlier | last
      · exact bound entry earlier ref joined
      · rw [List.mem_singleton.mp last] at joined
        cases joined
  | moved _ conn entry point _ found moves =>
      refine bound_pointed env st conn point st rfl (fun _ _ owned => owned) (fun old ref stored joined => ?_) bound
      obtain rfl : entry = old := Option.some.inj (found.symm.trans stored)
      exact moves_bound env st entry entry.point point moves (agree entry (List.mem_of_getElem? found)) owners ref joined
  | allocated conn entry family hello db asg p changed result found assigning pooled called =>
      cases family <;>
        exact bound_pointed env st conn _ _ rfl (fun _ _ owned => owned) (fun old ref stored joined => by cases joined) bound
  | released _ conn entry clientID =>
      exact bound_pointed env st conn .closed (st.releaseAll clientID) rfl (fun _ _ owned => owned)
        (fun old ref stored joined => by cases joined) bound
  | opened conn now entry ident db found admitted absent slot =>
      refine bound_pointed env st conn _ _ (open_session_frame st ident db now).2.2.1 kept (fun old ref stored joined => ?_) bound
      obtain rfl : entry = old := Option.some.inj (found.symm.trans stored)
      obtain rfl := Option.some.inj joined
      have agrees := agree entry (List.mem_of_getElem? found)
      rw [admitted] at agrees
      obtain ⟨hello, read, named⟩ := agrees
      exact ⟨hello, _, read, (open_session_owner st ident db now st.heap.length).trans (if_pos rfl), named.symm⟩
  | laned _ conn entry ref s change _ found stored changed =>
      have owner := lane_change_owner st conn ref s action entry.point change next changed
      generalize here : entry.point = point at changed
      cases changed with
      | attach =>
          refine bound_pointed env st conn _ (st.setSession ref _) rfl (fun _ _ owned => owner ▸ owned)
            (fun old target stored joined => ?_) bound
          obtain rfl : entry = old := Option.some.inj (found.symm.trans stored)
          obtain ⟨hello, o, read, owned, named⟩ := bound entry (List.mem_of_getElem? found) target (by rw [here]; exact joined)
          exact ⟨hello, o, read, owner ▸ owned, named⟩
      | laneRead => exact bound_quiet env st _ rfl owner bound
      | detach =>
          exact bound_pointed env st conn .closed (st.setSession ref _) rfl (fun _ _ owned => owner ▸ owned)
            (fun old target stored joined => by cases joined) bound
  | torn ref => exact bound_quiet env st _ rfl (set_session_owner (st.forget ref) ref _ fun _ => rfl) bound
  | queued reader packet ref =>
      exact bound_quiet env st _ rfl (set_session_owner (st.setReader reader none) ref _ fun _ => rfl) bound
  | collected | cleared | tornAgain | reloaded | unreloaded | ignored | matched | dropped => exact bound_quiet env st _ rfl rfl bound

end Steps

end MCState

inductive InitiatorPoint where
  | waiting
  | keyed (conn : Nat)
  | failed
deriving DecidableEq

-- A call of initiateHandshake behind its first message. It makes an ephemeral
-- key of its own and reads message 2 once.
structure WireInitiator where
  pub : Bytes
  message : Bytes
  point : InitiatorPoint
deriving DecidableEq

structure LaneKey where
  message : Bytes
  conn : Nat
deriving DecidableEq

structure SealedFrame where
  key : LaneKey
  packet : Bytes
deriving DecidableEq

-- The server with the clients' handshakes and a wire the adversary owns. An
-- opener is an initiator or, where there is none, the adversary; answered are
-- the connections message 2 was written on.
structure Network where
  server : MCState
  initiators : List WireInitiator
  openers : List (Option Nat)
  answered : List Nat
  frames : List SealedFrame

inductive NetAction where
  | write (pub message : Bytes)
  | deliver (index : Nat) (input : Bytes)
  | inject (input : Bytes)
  | receive (index conn : Nat)
  | abandon (index : Nat)
  | server (action : Action)
deriving DecidableEq

def Action.accepts : Action → Bool
  | .accept _ => true
  | _ => false

def Action.answers : Action → List Nat
  | .reply conn _ => [conn]
  | _ => []

def MCState.nextPacket (st : MCState) (conn : Nat) : Option Bytes :=
  match st.pointOf conn with
  | some (.attached ref _) => (st.heap[ref]?).bind fun s => s.outbound.head?
  | _ => none

namespace Network

def start (pool4 pool6 : Option IPPool) (userDB : Option UserDB) (queues : Nat) : Network :=
  ⟨.start pool4 pool6 userDB queues, [], [], [], []⟩

def messages (net : Network) : List Bytes := net.initiators.map WireInitiator.message

def message (env : Env) (net : Network) (conn : Nat) : Option Bytes := (net.server.inputs[conn]?).bind (firstMessage env)

def laneKey (env : Env) (net : Network) (conn : Nat) : Option LaneKey :=
  (net.message env conn).map fun message => ⟨message, conn⟩

def opened (net : Network) (input : Bytes) (opener : Option Nat) : Network :=
  { net with server := net.server.accept input, openers := net.openers ++ [opener] }

def setPoint (net : Network) (index : Nat) (point : InitiatorPoint) : Network :=
  { net with initiators := net.initiators.modify index fun initiator => { initiator with point := point } }

def sealed (env : Env) (net : Network) : Action → List SealedFrame
  | .laneRead conn =>
      match net.laneKey env conn, net.server.nextPacket conn with
      | some key, some packet => [⟨key, packet⟩]
      | _, _ => []
  | _ => []

-- A first message is on the wire from its writing on, whenever, wherever and
-- however often it is delivered. ReadMessage takes a message 2 that answers
-- the initiator's own message 1 and no other.
def step (env : Env) (net : Network) : NetAction → Option Network
  | .write pub message => some { net with initiators := net.initiators ++ [⟨pub, message, .waiting⟩] }
  | .deliver index input =>
      (net.initiators[index]?).bind fun initiator =>
        if firstMessage env input = some initiator.message ∧ some index ∉ net.openers then some (net.opened input (some index))
        else none
  | .inject input => some (net.opened input none)
  | .receive index conn =>
      match net.initiators[index]? with
      | some ⟨_, message, .waiting⟩ =>
          if conn ∈ net.answered then
            some (net.setPoint index (if net.message env conn = some message then .keyed conn else .failed))
          else none
      | _ => none
  | .abandon index =>
      match net.initiators[index]? with
      | some ⟨_, _, .waiting⟩ => some (net.setPoint index .failed)
      | _ => none
  | .server action =>
      if action.accepts then none
      else
        (net.server.step env action).map fun next =>
          { net with server := next, answered := net.answered ++ action.answers, frames := net.frames ++ net.sealed env action }

end Network

inductive Party where
  | initiator (index : Nat)
  | adversary
deriving DecidableEq

namespace Network

def Holds (net : Network) (message : Bytes) : Party → Prop
  | .initiator index => ∃ initiator, net.initiators[index]? = some initiator ∧ initiator.message = message
  | .adversary => message ∉ net.messages

def Heard (net : Network) (conn : Nat) : Party → Prop
  | .initiator index => ∃ initiator, net.initiators[index]? = some initiator ∧ initiator.point = .keyed conn
  | .adversary => conn ∈ net.answered

def Derives (net : Network) (party : Party) (key : LaneKey) : Prop := net.Holds key.message party ∧ net.Heard key.conn party

def Opens (net : Network) (party : Party) (frame : SealedFrame) : Prop := net.Derives party frame.key

-- What an ideal Noise leaves the parties: ephemeral keys are fresh, a message
-- authenticates the key it was written under, and whatever else the responder
-- accepts was captured.
def Ideal (env : Env) (net : Network) : NetAction → Prop
  | .write pub message =>
      message ∉ net.messages ∧ ((env.noise.readMessage message).toOption.all fun read => read.2 == pub) = true
  | .inject input =>
      match firstMessage env input with
      | some message => (env.noise.readMessage message).isOk = true → message ∈ net.messages
      | none => True
  | _ => True

instance (env : Env) (net : Network) (action : NetAction) : Decidable (net.Ideal env action) := by
  unfold Ideal
  split
  · infer_instance
  · split <;> infer_instance
  · infer_instance

structure Traced (env : Env) (net : Network) : Prop where
  distinct : net.messages.Nodup
  own : ∀ initiator ∈ net.initiators, ∀ payload key, env.noise.readMessage initiator.message = .ok (payload, key) →
    key = initiator.pub
  written : ∀ conn message, net.message env conn = some message → (env.noise.readMessage message).isOk = true →
    message ∈ net.messages
  framed : ∀ frame ∈ net.frames, frame.key.message ∈ net.messages

structure Known (env : Env) (net : Network) : Prop where
  traced : Traced env net
  agree : MCState.ConnsAgree env net.server
  owners : net.server.LiveOwners
  bound : MCState.Bound env net.server

theorem issued_unique (net : Network) (distinct : net.messages.Nodup) (one two : Nat) (first second : WireInitiator)
    (left : net.initiators[one]? = some first) (right : net.initiators[two]? = some second)
    (same : first.message = second.message) : one = two := by
  have mapped : ∀ (index : Nat) (initiator : WireInitiator), net.initiators[index]? = some initiator →
      net.messages[index]? = some initiator.message := by
    intro index initiator found
    rw [messages, List.getElem?_map, found]
    rfl
  have inside : one < net.messages.length := (List.getElem?_eq_some_iff.mp (mapped one first left)).1
  exact (List.getElem?_inj inside distinct).mp ((mapped one first left).trans (same ▸ (mapped two second right).symm))

theorem issued_initiator (net : Network) (message : Bytes) (issued : message ∈ net.messages) :
    ∃ (index : Nat) (initiator : WireInitiator), net.initiators[index]? = some initiator ∧ initiator.message = message := by
  obtain ⟨initiator, member, rfl⟩ := List.mem_map.mp issued
  obtain ⟨index, found⟩ := List.mem_iff_getElem?.mp member
  exact ⟨index, initiator, found, rfl⟩

theorem derives_initiator (net : Network) (distinct : net.messages.Nodup) (key : LaneKey) (index : Nat) (initiator : WireInitiator)
    (found : net.initiators[index]? = some initiator) (wrote : initiator.message = key.message) (party : Party)
    (derives : net.Derives party key) : party = .initiator index ∧ initiator.point = .keyed key.conn := by
  obtain ⟨holds, heard⟩ := derives
  cases party with
  | adversary => exact absurd (wrote ▸ List.mem_map_of_mem (List.mem_of_getElem? found)) holds
  | initiator other =>
      obtain ⟨holder, stored, same⟩ := holds
      obtain rfl := issued_unique net distinct other index holder initiator stored found (same.trans wrote.symm)
      obtain ⟨reader, read, keyed⟩ := heard
      obtain rfl : initiator = reader := Option.some.inj (found.symm.trans read)
      exact ⟨rfl, keyed⟩

theorem set_point_messages (net : Network) (index : Nat) (point : InitiatorPoint) :
    (net.setPoint index point).messages = net.messages := by
  apply List.ext_getElem?
  intro other
  rw [messages, messages, List.getElem?_map, List.getElem?_map, setPoint, List.getElem?_modify]
  cases net.initiators[other]? with
  | none => rfl
  | some initiator => by_cases here : index = other <;> simp [here]

theorem opened_message (env : Env) (net : Network) (input : Bytes) (opener : Option Nat) (conn : Nat) (message : Bytes)
    (found : (net.opened input opener).message env conn = some message) :
    firstMessage env input = some message ∨ net.message env conn = some message := by
  have inputs : (net.opened input opener).server.inputs = net.server.inputs ++ [input] := by
    simp [MCState.inputs, MCState.accept, opened]
  rw [Network.message, inputs, List.getElem?_append] at found
  split_ifs at found with before
  · exact .inr found
  · obtain ⟨last, here, read⟩ := Option.bind_eq_some_iff.mp found
    rw [List.mem_singleton.mp (List.mem_of_getElem? here)] at read
    exact .inl read

theorem traced_written (env : Env) (net : Network) (pub message : Bytes) (ideal : Ideal env net (.write pub message))
    (traced : Traced env net) : Traced env { net with initiators := net.initiators ++ [⟨pub, message, .waiting⟩] } := by
  obtain ⟨fresh, authentic⟩ := ideal
  have grown : messages { net with initiators := net.initiators ++ [⟨pub, message, .waiting⟩] } = net.messages ++ [message] := by
    simp [messages]
  refine ⟨?_, ?_, ?_, ?_⟩
  · rw [grown]
    refine List.nodup_append.mpr ⟨traced.distinct, by simp, fun old member last same => ?_⟩
    obtain rfl : last = message := by simpa using same
    exact ne_of_mem_of_not_mem member fresh
  · intro initiator member payload key accepted
    rcases List.mem_append.mp member with earlier | last
    · exact traced.own initiator earlier payload key accepted
    · obtain rfl := List.mem_singleton.mp last
      simpa [accepted, Except.toOption] using authentic
  · intro conn other found accepted
    rw [grown]
    exact List.mem_append_left _ (traced.written conn other found accepted)
  · intro frame member
    rw [grown]
    exact List.mem_append_left _ (traced.framed frame member)

theorem traced_opened (env : Env) (net : Network) (input : Bytes) (opener : Option Nat)
    (captured : ∀ message, firstMessage env input = some message → (env.noise.readMessage message).isOk = true →
      message ∈ net.messages)
    (traced : Traced env net) : Traced env (net.opened input opener) := by
  refine ⟨traced.distinct, traced.own, fun conn message found accepted => ?_, traced.framed⟩
  rcases opened_message env net input opener conn message found with here | earlier
  · exact captured message here accepted
  · exact traced.written conn message earlier accepted

theorem traced_pointed (env : Env) (net : Network) (index : Nat) (point : InitiatorPoint) (traced : Traced env net) :
    Traced env (net.setPoint index point) := by
  have same := set_point_messages net index point
  refine ⟨same ▸ traced.distinct, fun initiator member payload key accepted => ?_, fun conn message found accepted => ?_,
    fun frame member => same ▸ traced.framed frame member⟩
  · obtain ⟨other, stored⟩ := List.mem_iff_getElem?.mp member
    rw [setPoint, List.getElem?_modify] at stored
    obtain ⟨old, found, rfl⟩ := Option.map_eq_some_iff.mp stored
    have earlier := traced.own old (List.mem_of_getElem? found) payload key
    by_cases here : index = other
    · rw [if_pos here] at accepted ⊢
      exact earlier accepted
    · rw [if_neg here] at accepted ⊢
      exact earlier accepted
  · exact same ▸ traced.written conn message found accepted

theorem attached_admission (env : Env) (net : Network) (known : Known env net) (conn ref queue : Nat)
    (attached : net.server.pointOf conn = some (.attached ref queue)) :
    ∃ message payload pub s, net.message env conn = some message ∧ env.noise.readMessage message = .ok (payload, pub) ∧
      net.server.heap[ref]? = some s ∧ s.id = deriveClientID env.sha256 pub := by
  obtain ⟨entry, found, point⟩ := MCState.point_of_some net.server conn _ attached
  obtain ⟨hello, o, read, owned, named⟩ := known.bound entry (List.mem_of_getElem? found) ref (by rw [point]; rfl)
  obtain ⟨admission⟩ := read_client_hello_admission env _ entry.input hello read
  obtain ⟨s, stored, owner, _⟩ := MCState.owner_session net.server ref o owned
  refine ⟨admission.message, admission.payload, admission.pub, s, ?_, admission.read, stored, ?_⟩
  · rw [message, MCState.inputs, List.getElem?_map, found, Option.map_some, Option.bind_some, firstMessage, admission.enveloped]
    rfl
  · rw [owner, named, admission.identity]

theorem attached_initiator (env : Env) (net : Network) (known : Known env net) (conn ref queue : Nat)
    (attached : net.server.pointOf conn = some (.attached ref queue)) :
    ∃ (key : LaneKey) (index : Nat) (initiator : WireInitiator) (s : Session), net.laneKey env conn = some key ∧
      key.conn = conn ∧ net.initiators[index]? = some initiator ∧ initiator.message = key.message ∧
      net.server.heap[ref]? = some s ∧ s.id = deriveClientID env.sha256 initiator.pub := by
  obtain ⟨message, payload, pub, s, here, read, stored, identity⟩ := attached_admission env net known conn ref queue attached
  have issued := known.traced.written conn message here (by rw [read]; rfl)
  obtain ⟨index, initiator, found, rfl⟩ := issued_initiator net message issued
  have same := known.traced.own initiator (List.mem_of_getElem? found) payload pub read
  exact ⟨⟨initiator.message, conn⟩, index, initiator, s, by rw [laneKey, here]; rfl, rfl, found, rfl, stored, same ▸ identity⟩

theorem next_packet_some (st : MCState) (conn : Nat) (packet : Bytes) (next : st.nextPacket conn = some packet) :
    ∃ ref queue s rest, st.pointOf conn = some (.attached ref queue) ∧ st.heap[ref]? = some s ∧ s.outbound = packet :: rest := by
  unfold MCState.nextPacket at next
  split at next
  · rename_i ref queue attached
    obtain ⟨s, stored, first⟩ := Option.bind_eq_some_iff.mp next
    obtain ⟨rest, held⟩ := List.head?_eq_some_iff.mp first
    exact ⟨ref, queue, s, rest, attached, stored, held⟩
  · cases next

theorem sealed_issued (env : Env) (net : Network) (known : Known env net) (action : Action) :
    ∀ frame ∈ net.sealed env action, frame.key.message ∈ net.messages := by
  intro frame member
  unfold sealed at member
  split at member
  · rename_i conn
    split at member
    · rename_i key packet keyed waiting
      obtain ⟨ref, queue, _, _, attached, _, _⟩ := next_packet_some net.server conn packet waiting
      obtain ⟨held, index, initiator, _, here, _, found, wrote, _⟩ := attached_initiator env net known conn ref queue attached
      obtain rfl : key = held := Option.some.inj (keyed.symm.trans here)
      rw [List.mem_singleton.mp member, ← wrote]
      exact List.mem_map_of_mem (List.mem_of_getElem? found)
    · cases member
  · cases member

theorem traced_served (env : Env) (net : Network) (action : Action) (next : MCState) (inputs : next.inputs = net.server.inputs)
    (known : Known env net) :
    Traced env { net with server := next, answered := net.answered ++ action.answers, frames := net.frames ++ net.sealed env action } := by
  refine ⟨known.traced.distinct, known.traced.own, fun conn message found accepted => ?_, fun frame member => ?_⟩
  · rw [Network.message, inputs] at found
    exact known.traced.written conn message found accepted
  · rcases List.mem_append.mp member with earlier | fresh
    · exact known.traced.framed frame earlier
    · exact sealed_issued env net known action frame fresh

theorem known_opened (env : Env) (net : Network) (input : Bytes) (opener : Option Nat)
    (captured : ∀ message, firstMessage env input = some message → (env.noise.readMessage message).isOk = true →
      message ∈ net.messages)
    (known : Known env net) : Known env (net.opened input opener) := by
  have effect : MCState.Effect env net.server (.accept input) (net.server.accept input) := .accepted input
  exact ⟨traced_opened env net input opener captured known.traced, MCState.effect_conns_agree env net.server _ _ effect known.agree,
    MCState.effect_live_owners env net.server _ _ effect known.owners,
    MCState.effect_bound env net.server _ _ effect known.agree known.owners known.bound⟩

theorem known_step (env : Env) : Runs.Preserved (step env) (Ideal env) (Known env) := by
  intro net action next known ideal taken
  have pointed : ∀ index point, Known env (net.setPoint index point) := fun index point =>
    ⟨traced_pointed env net index point known.traced, known.agree, known.owners, known.bound⟩
  cases action with
  | write pub message =>
      cases taken
      exact ⟨traced_written env net pub message ideal known.traced, known.agree, known.owners, known.bound⟩
  | deliver index input =>
      obtain ⟨initiator, found, made⟩ := Option.bind_eq_some_iff.mp taken
      split_ifs at made with own
      cases made
      refine known_opened env net input _ (fun message here _ => ?_) known
      obtain rfl := Option.some.inj (own.1.symm.trans here)
      exact List.mem_map_of_mem (List.mem_of_getElem? found)
  | inject input =>
      cases taken
      refine known_opened env net input _ (fun message here accepted => ?_) known
      simp only [Ideal, here] at ideal
      exact ideal accepted
  | receive index conn =>
      simp only [step] at taken
      split at taken
      · split_ifs at taken <;> cases taken <;> exact pointed index _
      · cases taken
  | abandon index =>
      simp only [step] at taken
      split at taken <;> cases taken
      exact pointed index _
  | server action =>
      simp only [step] at taken
      split_ifs at taken with accepts
      obtain ⟨after, stepped, rfl⟩ := Option.map_eq_some_iff.mp taken
      have effect := MCState.step_effect env net.server after action stepped
      have quiet : ∀ input, action ≠ .accept input := by
        rintro input rfl
        exact accepts rfl
      exact ⟨traced_served env net action after (MCState.effect_inputs env net.server after action effect quiet) known,
        MCState.effect_conns_agree env net.server after action effect known.agree,
        MCState.effect_live_owners env net.server after action effect known.owners,
        MCState.effect_bound env net.server after action effect known.agree known.owners known.bound⟩

theorem start_known (env : Env) (pool4 pool6 : Option IPPool) (userDB : Option UserDB) (queues : Nat) :
    Known env (start pool4 pool6 userDB queues) := by
  refine ⟨⟨.nil, by simp [start], ?_, by simp [start]⟩, ?_, ?_, ?_⟩
  · exact fun conn message found => absurd found (by simp [start, Network.message, MCState.inputs, MCState.start])
  · exact (MCState.start_proven env pool4 pool6 userDB queues).1
  · exact fun clientID ref live => absurd live (by simp [start, MCState.start])
  · exact fun entry member => absurd member (by simp [start, MCState.start])

def Settles (net later : Network) : Prop :=
  ∀ (index : Nat) (initiator : WireInitiator), net.initiators[index]? = some initiator →
    ∃ after : WireInitiator, later.initiators[index]? = some after ∧ after.message = initiator.message ∧
      (initiator.point ≠ .waiting → after.point = initiator.point)

theorem settles_refl (net : Network) : Settles net net := fun _ initiator found => ⟨initiator, found, rfl, fun _ => rfl⟩

theorem settles_trans (first second third : Network) (one : Settles first second) (two : Settles second third) :
    Settles first third := by
  intro index initiator found
  obtain ⟨middle, stored, same, kept⟩ := one index initiator found
  obtain ⟨last, reached, still, lasting⟩ := two index middle stored
  refine ⟨last, reached, still.trans same, fun settled => ?_⟩
  have point := kept settled
  exact (lasting (point ▸ settled)).trans point

theorem settles_pointed (net : Network) (index : Nat) (point : InitiatorPoint) (pub message : Bytes)
    (waiting : net.initiators[index]? = some ⟨pub, message, .waiting⟩) : Settles net (net.setPoint index point) := by
  intro other initiator found
  rw [setPoint, List.getElem?_modify, found]
  refine ⟨_, rfl, ?_, fun settled => ?_⟩
  · by_cases here : index = other <;> simp [here]
  · by_cases here : index = other
    · subst here
      rw [← Option.some.inj (waiting.symm.trans found)] at settled
      exact absurd rfl settled
    · simp [here]

theorem settles_step (env : Env) (net : Network) (action : NetAction) (next : Network) (taken : step env net action = some next) :
    Settles net next := by
  cases action with
  | write pub message =>
      cases taken
      intro index initiator found
      refine ⟨initiator, ?_, rfl, fun _ => rfl⟩
      rw [List.getElem?_append_left (List.getElem?_eq_some_iff.mp found).1]
      exact found
  | deliver index input =>
      obtain ⟨_, _, made⟩ := Option.bind_eq_some_iff.mp taken
      split_ifs at made
      cases made
      exact settles_refl net
  | inject input =>
      cases taken
      exact settles_refl net
  | receive index conn =>
      simp only [step] at taken
      split at taken
      · rename_i pub message waiting
        split_ifs at taken <;> cases taken <;> exact settles_pointed net index _ pub message waiting
      · cases taken
  | abandon index =>
      simp only [step] at taken
      split at taken
      · rename_i pub message waiting
        cases taken
        exact settles_pointed net index _ pub message waiting
      · cases taken
  | server action =>
      simp only [step] at taken
      split_ifs at taken
      obtain ⟨_, _, rfl⟩ := Option.map_eq_some_iff.mp taken
      exact settles_refl net

theorem forsaken_key (net later : Network) (distinct : later.messages.Nodup) (settles : Settles net later) (key : LaneKey)
    (index : Nat) (initiator : WireInitiator) (found : net.initiators[index]? = some initiator)
    (wrote : initiator.message = key.message) (settled : initiator.point ≠ .waiting) (elsewhere : initiator.point ≠ .keyed key.conn)
    (party : Party) : ¬ later.Derives party key := by
  intro derives
  obtain ⟨after, reached, same, kept⟩ := settles index initiator found
  obtain ⟨_, keyed⟩ := derives_initiator later distinct key index after reached (same.trans wrote) party derives
  exact elsewhere ((kept settled).symm.trans keyed)

theorem lane_read_sealed (env : Env) (net next : Network) (known : Known env net) (conn : Nat)
    (taken : step env net (.server (.laneRead conn)) = some next) :
    ∃ ref queue s packet rest key, net.server.pointOf conn = some (.attached ref queue) ∧ net.server.heap[ref]? = some s ∧
      s.outbound = packet :: rest ∧ net.laneKey env conn = some key ∧ next.frames = net.frames ++ [⟨key, packet⟩] := by
  simp only [step] at taken
  split_ifs at taken
  obtain ⟨after, stepped, rfl⟩ := Option.map_eq_some_iff.mp taken
  change net.server.laneRead conn = some after at stepped
  unfold MCState.laneRead at stepped
  split at stepped
  · rename_i ref queue attached
    obtain ⟨s, stored, left⟩ := Option.bind_eq_some_iff.mp stepped
    split_ifs at left with empty
    obtain ⟨packet, rest, held⟩ := List.exists_cons_of_ne_nil (mt List.isEmpty_iff.mpr empty)
    obtain ⟨key, _, _, _, keyed, _⟩ := attached_initiator env net known conn ref queue attached
    have waiting : net.server.nextPacket conn = some packet := by
      simp [MCState.nextPacket, attached, stored, held]
    refine ⟨ref, queue, s, packet, rest, key, attached, stored, held, keyed, ?_⟩
    simp [sealed, keyed, waiting]
  · cases stepped

end Network

def relay (actions : List Action) : List NetAction := actions.map .server

def ConnPoint.attachedTo : ConnPoint → Option (SessionRef × Nat)
  | .attached ref queue => some (ref, queue)
  | _ => none

theorem ConnPoint.attached_to (point : ConnPoint) (ref : SessionRef) (queue : Nat)
    (attached : point.attachedTo = some (ref, queue)) : point = .attached ref queue := by
  cases point with
  | attached target other =>
      obtain ⟨rfl, rfl⟩ := Prod.mk.inj (Option.some.inj attached)
      rfl
  | _ => cases attached

def annMessage : Bytes := (helloBytes 0xAA).drop 20

def laneSteps (conn : Nat) : List NetAction := relay (handshakeSteps conn true ++ [Action.acquire conn 0, .attach conn 0])

def overtakenSteps : List NetAction :=
  [.write annUser.publicKey annMessage, .inject (helloBytes 0xAA)] ++ laneSteps 0 ++ [.deliver 0 (helloBytes 0xAA)] ++ laneSteps 1 ++
    [.receive 0 1]

def packetToAnn : Bytes := 0x45 :: List.replicate 15 0 ++ [10, 66, 0, 2]

def replaySteps : List NetAction :=
  [.write annUser.publicKey annMessage, .deliver 0 (helloBytes 0xAA)] ++ laneSteps 0 ++ [.receive 0 0, .inject (helloBytes 0xAA)] ++
    laneSteps 1 ++ relay [.tunRead 0 packetToAnn, .tunSend 0 true]

structure LaneView where
  lane : Option (SessionRef × Nat)
  client : Option ClientID
  waiting : Option (List Bytes)
  left : Option (List Bytes)
  frames : Option (List SealedFrame)
  initiators : List WireInitiator
  openers : List (Option Nat)
deriving DecidableEq

def laneView (net : Network) : LaneView where
  lane := (net.server.pointOf 1).bind ConnPoint.attachedTo
  client := (net.server.heap[0]?).map Session.id
  waiting := (net.server.heap[0]?).map Session.outbound
  left := (net.step pairEnv (.server (.laneRead 1))).bind fun next => (next.server.heap[0]?).map Session.outbound
  frames := (net.step pairEnv (.server (.laneRead 1))).map Network.frames
  initiators := net.initiators
  openers := net.openers

end Packethose
