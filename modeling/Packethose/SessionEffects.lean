import Packethose.Sessions

set_option autoImplicit false

namespace Packethose

namespace MCState

inductive Moves (env : Env) (st : MCState) (entry : Conn) : ConnPoint → ConnPoint → Prop where
  | greeted (hello : ClientHello) (read : readClientHello env (env.authorizer entry.users) entry.input = .ok hello) :
      Moves env st entry .greeting (.authorized hello)
  | refused (failure : HandshakeFailure)
      (read : readClientHello env (env.authorizer entry.users) entry.input = .error failure)
      (known : failure.clientID ≠ zeroClientID) : Moves env st entry .greeting (.failed failure.clientID)
  | anonymous (failure : HandshakeFailure)
      (read : readClientHello env (env.authorizer entry.users) entry.input = .error failure)
      (unknown : failure.clientID = zeroClientID) : Moves env st entry .greeting .closed
  | assigning (hello : ClientHello) : Moves env st entry (.authorized hello) (.assigning4 hello st.userDB)
  | without4 (hello : ClientHello) (db : Option UserDB) (absent : st.pool4 = none) :
      Moves env st entry (.assigning4 hello db) (.assigning6 hello db .empty)
  | without6 (hello : ClientHello) (db : Option UserDB) (asg : AssignmentResponse) (absent : st.pool6 = none) :
      Moves env st entry (.assigning6 hello db asg) (.replying hello asg)
  | admitted (hello : ClientHello) (asg : AssignmentResponse) (assigned : (hello.identity asg).hasAssignment = true) :
      Moves env st entry (.replying hello asg) (.admitted (hello.identity asg))
  | unassigned (hello : ClientHello) (asg : AssignmentResponse) (nothing : (hello.identity asg).hasAssignment = false) :
      Moves env st entry (.replying hello asg) .closed
  | unanswered (hello : ClientHello) (asg : AssignmentResponse) (known : hello.clientID ≠ zeroClientID) :
      Moves env st entry (.replying hello asg) (.failed hello.clientID)
  | unanswerable (hello : ClientHello) (asg : AssignmentResponse) (unknown : hello.clientID = zeroClientID) :
      Moves env st entry (.replying hello asg) .closed
  | owned (clientID : ClientID) (live : (st.sessions.lookup clientID).isSome) : Moves env st entry (.failed clientID) .closed
  | joined (ident : LaneIdentity) (ref : SessionRef) (live : st.sessions.lookup ident.clientID = some ref) :
      Moves env st entry (.admitted ident) (.joining ref)
  | overQuota (ident : LaneIdentity) (problem : SlotError) (absent : st.sessions.lookup ident.clientID = none)
      (full : takeSlot st.userDB ident.userName = .error problem) :
      Moves env st entry (.admitted ident) (.overQuota ident.clientID)

inductive Assigning : ConnPoint → Family → ClientHello → Option UserDB → AssignmentResponse → Prop where
  | first (hello : ClientHello) (db : Option UserDB) : Assigning (.assigning4 hello db) .v4 hello db .empty
  | second (hello : ClientHello) (db : Option UserDB) (asg : AssignmentResponse) :
      Assigning (.assigning6 hello db asg) .v6 hello db asg

def assignedPoint (hello : ClientHello) (db : Option UserDB) (asg : AssignmentResponse) : Family → ConnPoint
  | .v4 => .assigning6 hello db asg
  | .v6 => .replying hello asg

def answered (env : Env) (family : Family) (asg : AssignmentResponse) : Except PoolError Addr → AssignmentResponse
  | .ok addr => asg.put env.cfg addr family
  | .error _ => asg

-- The points at which handleConn gives an address back. An orphan is only
-- released while nobody owns the client id.
inductive Releasing (st : MCState) : Action → ConnPoint → ClientID → Prop where
  | orphan (conn : Nat) (clientID : ClientID) (free : st.sessions.lookup clientID = none) :
      Releasing st (.releaseOrphan conn) (.failed clientID) clientID
  | quota (conn : Nat) (clientID : ClientID) : Releasing st (.quotaRelease conn) (.overQuota clientID) clientID

inductive LaneChange (st : MCState) (conn : Nat) (ref : SessionRef) (s : Session) :
    Action → ConnPoint → (Session → Session) → MCState → Prop where
  | attach (now : Nat) :
      LaneChange st conn ref s (.attach conn now) (.joining ref) (Session.laneJoined now)
        ((st.setSession ref (Session.laneJoined now)).setPoint conn (.attached ref (s.nextLane % st.readers.length)))
  | laneRead (queue : Nat) (nonempty : ¬ s.outbound.isEmpty) :
      LaneChange st conn ref s (.laneRead conn) (.attached ref queue) Session.dequeued (st.setSession ref Session.dequeued)
  | detach (now queue : Nat) :
      LaneChange st conn ref s (.detach conn now) (.attached ref queue) (Session.laneLeft now)
        ((st.setSession ref (Session.laneLeft now)).setPoint conn .closed)

inductive Effect (env : Env) (st : MCState) : Action → MCState → Prop where
  | accepted (input : Bytes) : Effect env st (.accept input) (st.accept input)
  | moved (action : Action) (conn : Nat) (entry : Conn) (point : ConnPoint) (actor : action.conn = some conn)
      (found : st.conns[conn]? = some entry) (moves : Moves env st entry entry.point point) :
      Effect env st action (st.setPoint conn point)
  | allocated (conn : Nat) (entry : Conn) (family : Family) (hello : ClientHello) (db : Option UserDB)
      (asg : AssignmentResponse) (p next : IPPool) (result : Except PoolError Addr)
      (found : st.conns[conn]? = some entry) (assigning : Assigning entry.point family hello db asg)
      (pooled : st.pool family = some p)
      (called : p.allocateFor env.sha256 hello.userName hello.clientID (hello.request.wanted family) db = some (next, result)) :
      Effect env st (.allocate conn)
        (((st.noteAllocation conn hello).setPool (some next) family).setPoint conn
          (assignedPoint hello db (answered env family asg result) family))
  | released (action : Action) (conn : Nat) (entry : Conn) (clientID : ClientID) (actor : action.conn = some conn)
      (found : st.conns[conn]? = some entry) (releasing : Releasing st action entry.point clientID) :
      Effect env st action ((st.releaseAll clientID).setPoint conn .closed)
  | opened (conn now : Nat) (entry : Conn) (ident : LaneIdentity) (db : Option UserDB)
      (found : st.conns[conn]? = some entry) (admitted : entry.point = .admitted ident)
      (absent : st.sessions.lookup ident.clientID = none) (slot : takeSlot st.userDB ident.userName = .ok db) :
      Effect env st (.acquire conn now) ((st.openSession ident db now).setPoint conn (.joining st.heap.length))
  | laned (action : Action) (conn : Nat) (entry : Conn) (ref : SessionRef) (s : Session) (change : Session → Session)
      (next : MCState) (found : st.conns[conn]? = some entry) (stored : st.heap[ref]? = some s)
      (changed : LaneChange st conn ref s action entry.point change next) : Effect env st action next
  | collected (now : Nat) : Effect env st (.collect now) (st.collect now)
  | cleared : Effect env st .tearDownAll st.tearDownAll
  | tornAgain (ref : SessionRef) (s : Session) (waiting : ref ∈ st.pending) (stored : st.heap[ref]? = some s)
      (done : s.isClosed = true) :
      Effect env st (.tearDown ref) (st.forget ref)
  | torn (ref : SessionRef) (s : Session) (db : Option UserDB) (waiting : ref ∈ st.pending)
      (stored : st.heap[ref]? = some s) (first : s.isClosed = false)
      (slot : db = if s.userName ≠ "" then st.userDB.map (fun users => users.releaseSlot s.userName) else st.userDB) :
      Effect env st (.tearDown ref) ((((st.forget ref).setSession ref Session.tornDown).releaseAll s.id).setUserDB db)
  | reloaded (users : List User) (db : UserDB) (made : UserDB.newUserDB users = .ok db) :
      Effect env st (.reload users) (st.setUserDB (some db))
  | unreloaded (users : List User) (problem : UserError) (refused : UserDB.newUserDB users = .error problem) :
      Effect env st (.reload users) st
  | ignored (reader : Nat) (packet : Bytes)
      (unrouted : ∀ dst, innerDst packet env.cfg.vnetHdr = some dst → st.ipIndex.lookup dst = none) :
      Effect env st (.tunRead reader packet) st
  | matched (reader : Nat) (packet : Bytes) (dst : Addr) (ref : SessionRef) (idle : st.readers[reader]? = some none)
      (parsed : innerDst packet env.cfg.vnetHdr = some dst) (indexed : st.ipIndex.lookup dst = some ref) :
      Effect env st (.tunRead reader packet) (st.setReader reader (some (packet, ref)))
  | queued (reader : Nat) (packet : Bytes) (ref : SessionRef) (s : Session)
      (held : st.readers[reader]? = some (some (packet, ref))) (stored : st.heap[ref]? = some s)
      (room : s.outbound.length < outboundCap) :
      Effect env st (.tunSend reader true)
        (((st.setReader reader none).setSession ref (Session.enqueued packet)).noteDispatch ref packet)
  | dropped (reader : Nat) (packet : Bytes) (ref : SessionRef) (s : Session)
      (held : st.readers[reader]? = some (some (packet, ref))) (stored : st.heap[ref]? = some s)
      (blocked : s.closed ∨ ¬ s.outbound.length < outboundCap) :
      Effect env st (.tunSend reader false) (st.setReader reader none)

theorem point_of_some (st : MCState) (conn : Nat) (point : ConnPoint) (reached : st.pointOf conn = some point) :
    ∃ entry, st.conns[conn]? = some entry ∧ entry.point = point :=
  Option.map_eq_some_iff.mp reached

section Inversions

variable (env : Env) (st next : MCState) (conn : Nat)

theorem handshake_effect (taken : st.handshake env conn = some next) : Effect env st (.handshake conn) next := by
  unfold handshake at taken
  split at taken
  · rename_i input users found
    cases read : readClientHello env (env.authorizer users) input with
    | ok hello =>
        simp only [read, Option.some.injEq] at taken
        exact taken ▸ .moved _ conn _ _ rfl found (.greeted hello read)
    | error failure =>
        simp only [read] at taken
        split_ifs at taken with known
        · exact Option.some.inj taken ▸ .moved _ conn _ _ rfl found (.refused failure read known)
        · exact Option.some.inj taken ▸ .moved _ conn _ _ rfl found (.anonymous failure read (not_not.mp known))
  · cases taken

theorem assign_effect (taken : st.assign conn = some next) : Effect env st (.assign conn) next := by
  unfold assign at taken
  split at taken
  · rename_i hello reached
    obtain ⟨entry, found, point⟩ := point_of_some st conn _ reached
    exact Option.some.inj taken ▸ .moved _ conn entry _ rfl found (point ▸ .assigning hello)
  · cases taken

theorem assign_family_effect (family : Family) (hello : ClientHello) (db : Option UserDB) (asg : AssignmentResponse)
    (middle : MCState) (after : AssignmentResponse) (taken : st.assignFamily env conn family hello db asg = some (middle, after)) :
    (st.pool family = none ∧ middle = st ∧ after = asg) ∨
      ∃ p changed result, st.pool family = some p ∧
        p.allocateFor env.sha256 hello.userName hello.clientID (hello.request.wanted family) db = some (changed, result) ∧
        middle = (st.noteAllocation conn hello).setPool (some changed) family ∧ after = answered env family asg result := by
  unfold assignFamily at taken
  cases pooled : st.pool family with
  | none =>
      rw [pooled] at taken
      cases taken
      exact .inl ⟨rfl, rfl, rfl⟩
  | some p =>
      rw [pooled] at taken
      obtain ⟨⟨changed, result⟩, called, same⟩ := Option.map_eq_some_iff.mp taken
      cases result with
      | ok addr =>
          cases same
          exact .inr ⟨p, changed, .ok addr, rfl, called, rfl, rfl⟩
      | error problem =>
          cases same
          exact .inr ⟨p, changed, .error problem, rfl, called, rfl, rfl⟩

theorem allocate_effect (taken : st.allocate env conn = some next) : Effect env st (.allocate conn) next := by
  unfold allocate at taken
  split at taken
  · rename_i hello db reached
    obtain ⟨entry, found, point⟩ := point_of_some st conn _ reached
    obtain ⟨⟨middle, after⟩, assigned, same⟩ := Option.map_eq_some_iff.mp taken
    subst same
    rcases assign_family_effect env st conn .v4 hello db .empty middle after assigned with
      ⟨absent, rfl, rfl⟩ | ⟨p, changed, result, pooled, called, rfl, rfl⟩
    · exact .moved _ conn entry _ rfl found (point ▸ .without4 hello db absent)
    · exact .allocated conn entry .v4 hello db .empty p changed result found (point ▸ .first hello db) pooled called
  · rename_i hello db asg reached
    obtain ⟨entry, found, point⟩ := point_of_some st conn _ reached
    obtain ⟨⟨middle, after⟩, assigned, same⟩ := Option.map_eq_some_iff.mp taken
    subst same
    rcases assign_family_effect env st conn .v6 hello db asg middle after assigned with
      ⟨absent, rfl, rfl⟩ | ⟨p, changed, result, pooled, called, rfl, rfl⟩
    · exact .moved _ conn entry _ rfl found (point ▸ .without6 hello db _ absent)
    · exact .allocated conn entry .v6 hello db asg p changed result found (point ▸ .second hello db asg) pooled called
  · cases taken

theorem reply_effect (sent : Bool) (taken : st.reply conn sent = some next) : Effect env st (.reply conn sent) next := by
  unfold reply at taken
  split at taken
  · rename_i hello asg reached
    obtain ⟨entry, found, point⟩ := point_of_some st conn _ reached
    split_ifs at taken with written assigned known
    · exact Option.some.inj taken ▸ .moved _ conn entry _ rfl found (point ▸ .admitted hello asg assigned)
    · exact Option.some.inj taken ▸ .moved _ conn entry _ rfl found (point ▸ .unassigned hello asg (Bool.not_eq_true _ ▸ assigned))
    · exact Option.some.inj taken ▸ .moved _ conn entry _ rfl found (point ▸ .unanswered hello asg known)
    · exact Option.some.inj taken ▸ .moved _ conn entry _ rfl found (point ▸ .unanswerable hello asg (not_not.mp known))
  · cases taken

theorem release_orphan_effect (taken : st.releaseOrphan conn = some next) : Effect env st (.releaseOrphan conn) next := by
  unfold releaseOrphan at taken
  split at taken
  · rename_i clientID reached
    obtain ⟨entry, found, point⟩ := point_of_some st conn _ reached
    split_ifs at taken with live
    · exact Option.some.inj taken ▸ .moved _ conn entry _ rfl found (point ▸ .owned clientID live)
    · exact Option.some.inj taken ▸ .released _ conn entry clientID rfl found
        (point ▸ .orphan conn clientID (Option.not_isSome_iff_eq_none.mp live))
  · cases taken

theorem acquire_effect (now : Nat) (taken : st.acquire conn now = some next) : Effect env st (.acquire conn now) next := by
  unfold acquire at taken
  split at taken
  · rename_i ident reached
    obtain ⟨entry, found, point⟩ := point_of_some st conn _ reached
    split at taken
    · rename_i ref live
      exact Option.some.inj taken ▸ .moved _ conn entry _ rfl found (point ▸ .joined ident ref live)
    · rename_i absent
      split at taken
      · rename_i problem full
        exact Option.some.inj taken ▸ .moved _ conn entry _ rfl found (point ▸ .overQuota ident problem absent full)
      · rename_i db slot
        exact Option.some.inj taken ▸ .opened conn now entry ident db found point absent slot
  · cases taken

theorem quota_release_effect (taken : st.quotaRelease conn = some next) : Effect env st (.quotaRelease conn) next := by
  unfold quotaRelease at taken
  split at taken
  · rename_i clientID reached
    obtain ⟨entry, found, point⟩ := point_of_some st conn _ reached
    exact Option.some.inj taken ▸ .released _ conn entry clientID rfl found (point ▸ .quota conn clientID)
  · cases taken

theorem attach_effect (now : Nat) (taken : st.attach conn now = some next) : Effect env st (.attach conn now) next := by
  unfold attach at taken
  split at taken
  · rename_i ref reached
    obtain ⟨entry, found, point⟩ := point_of_some st conn _ reached
    obtain ⟨s, stored, same⟩ := Option.map_eq_some_iff.mp taken
    subst same
    exact .laned _ conn entry ref s (Session.laneJoined now) _ found stored (by rw [point]; exact .attach now)
  · cases taken

theorem lane_read_effect (taken : st.laneRead conn = some next) : Effect env st (.laneRead conn) next := by
  unfold laneRead at taken
  split at taken
  · rename_i ref queue reached
    obtain ⟨entry, found, point⟩ := point_of_some st conn _ reached
    obtain ⟨s, stored, same⟩ := Option.bind_eq_some_iff.mp taken
    split_ifs at same with empty
    cases same
    exact .laned _ conn entry ref s Session.dequeued _ found stored (by rw [point]; exact .laneRead queue empty)
  · cases taken

theorem detach_effect (now : Nat) (taken : st.detach conn now = some next) : Effect env st (.detach conn now) next := by
  unfold detach at taken
  split at taken
  · rename_i ref queue reached
    obtain ⟨entry, found, point⟩ := point_of_some st conn _ reached
    obtain ⟨s, stored, same⟩ := Option.map_eq_some_iff.mp taken
    subst same
    exact .laned _ conn entry ref s (Session.laneLeft now) _ found stored (by rw [point]; exact .detach now queue)
  · cases taken

theorem tun_read_effect (reader : Nat) (packet : Bytes) (taken : st.tunRead env reader packet = some next) :
    Effect env st (.tunRead reader packet) next := by
  unfold tunRead at taken
  split at taken
  · rename_i idle
    split at taken
    · rename_i unparsed
      exact Option.some.inj taken ▸ .ignored reader packet fun dst parsed => by rw [unparsed] at parsed; cases parsed
    · rename_i dst parsed
      split at taken
      · rename_i absent
        refine Option.some.inj taken ▸ .ignored reader packet fun other same => ?_
        rw [parsed] at same
        exact Option.some.inj same ▸ absent
      · rename_i ref indexed
        exact Option.some.inj taken ▸ .matched reader packet dst ref idle parsed indexed
  · cases taken

theorem tun_send_effect (reader : Nat) (sent : Bool) (taken : st.tunSend reader sent = some next) :
    Effect env st (.tunSend reader sent) next := by
  unfold tunSend at taken
  split at taken
  · rename_i packet ref held
    obtain ⟨s, stored, same⟩ := Option.bind_eq_some_iff.mp taken
    cases sent with
    | true =>
        simp only [if_true] at same
        split_ifs at same with room
        exact Option.some.inj same ▸ .queued reader packet ref s held stored room
    | false =>
        simp only [Bool.false_eq_true, if_false] at same
        split_ifs at same with blocked
        exact Option.some.inj same ▸ .dropped reader packet ref s held stored blocked
  · cases taken

theorem reload_effect (users : List User) : Effect env st (.reload users) (st.reload users) := by
  unfold reload
  cases made : UserDB.newUserDB users with
  | ok db => exact .reloaded users db made
  | error problem => exact .unreloaded users problem made

theorem tear_down_effect (ref : SessionRef) (taken : st.tearDown ref = some next) : Effect env st (.tearDown ref) next := by
  unfold tearDown at taken
  split_ifs at taken with waiting
  obtain ⟨s, stored, same⟩ := Option.map_eq_some_iff.mp taken
  dsimp only at same
  split_ifs at same with done named
  · exact same ▸ .tornAgain ref s waiting stored done
  · exact same ▸ .torn ref s _ waiting stored (Bool.not_eq_true _ ▸ done) (if_pos named).symm
  · exact same ▸ .torn ref s st.userDB waiting stored (Bool.not_eq_true _ ▸ done) (if_neg named).symm

theorem step_effect (action : Action) (taken : step env st action = some next) : Effect env st action next := by
  cases action with
  | accept input => exact Option.some.inj taken ▸ .accepted input
  | handshake conn => exact handshake_effect env st next conn taken
  | assign conn => exact assign_effect env st next conn taken
  | allocate conn => exact allocate_effect env st next conn taken
  | reply conn sent => exact reply_effect env st next conn sent taken
  | releaseOrphan conn => exact release_orphan_effect env st next conn taken
  | acquire conn now => exact acquire_effect env st next conn now taken
  | quotaRelease conn => exact quota_release_effect env st next conn taken
  | attach conn now => exact attach_effect env st next conn now taken
  | laneRead conn => exact lane_read_effect env st next conn taken
  | detach conn now => exact detach_effect env st next conn now taken
  | collect now => exact Option.some.inj taken ▸ .collected now
  | tearDownAll => exact Option.some.inj taken ▸ .cleared
  | tearDown ref => exact tear_down_effect env st next ref taken
  | reload users => exact Option.some.inj taken ▸ reload_effect env st users
  | tunRead reader packet => exact tun_read_effect env st next reader packet taken
  | tunSend reader sent => exact tun_send_effect env st next reader sent taken

end Inversions

end MCState

structure Owner where
  id : ClientID
  assigned4 : Addr
  assigned6 : Addr
deriving DecidableEq

def Owner.assigned (o : Owner) : Family → Addr
  | .v4 => o.assigned4
  | .v6 => o.assigned6

def Session.owner (s : Session) : Owner := ⟨s.id, s.assigned4, s.assigned6⟩

namespace MCState

def owner (st : MCState) (ref : SessionRef) : Option Owner := (st.heap[ref]?).map Session.owner

theorem owner_session (st : MCState) (ref : SessionRef) (o : Owner) (owned : st.owner ref = some o) :
    ∃ s, st.heap[ref]? = some s ∧ s.id = o.id ∧ s.assigned4 = o.assigned4 ∧ s.assigned6 = o.assigned6 := by
  obtain ⟨s, stored, rfl⟩ := Option.map_eq_some_iff.mp owned
  exact ⟨s, stored, rfl, rfl, rfl⟩

theorem owner_older (st : MCState) (ref : SessionRef) (o : Owner) (owned : st.owner ref = some o) : ref ≠ st.heap.length := by
  rintro rfl
  simp [owner] at owned

theorem set_session_owner (st : MCState) (ref : SessionRef) (change : Session → Session)
    (same : ∀ s, (change s).owner = s.owner) : (st.setSession ref change).owner = st.owner := by
  funext other
  simp only [owner, setSession, List.getElem?_modify]
  cases st.heap[other]? with
  | none => rfl
  | some s => by_cases here : ref = other <;> simp [here, same]

theorem lane_change_owner (st : MCState) (conn : Nat) (ref : SessionRef) (s : Session) (action : Action) (point : ConnPoint)
    (change : Session → Session) (next : MCState) (changed : LaneChange st conn ref s action point change next) :
    next.owner = st.owner := by
  cases changed <;> exact set_session_owner st ref _ fun _ => rfl

theorem lane_change_frame (st : MCState) (conn : Nat) (ref : SessionRef) (s : Session) (action : Action) (point : ConnPoint)
    (change : Session → Session) (next : MCState) (changed : LaneChange st conn ref s action point change next) :
    next.pool4 = st.pool4 ∧ next.pool6 = st.pool6 ∧ next.sessions = st.sessions ∧ next.ipIndex = st.ipIndex ∧
      next.readers = st.readers ∧ next.dispatched = st.dispatched ∧ next.allocations = st.allocations := by
  cases changed <;> exact ⟨rfl, rfl, rfl, rfl, rfl, rfl, rfl⟩

theorem claim_invalid (p : IPPool) (clientID : ClientID) (addr : Addr) (invalid : ¬ addr.isValid = true) :
    p.claim clientID addr = p := by
  rw [IPPool.claim, if_pos (Bool.not_eq_true _ ▸ invalid)]

theorem set_point_conns (st : MCState) (conn other : Nat) (point : ConnPoint) :
    (st.setPoint conn point).conns[other]? =
      (st.conns[other]?).map fun entry => if conn = other then { entry with point := point } else entry := by
  simp only [setPoint, List.getElem?_modify]
  rfl

theorem set_point_mem (st : MCState) (conn : Nat) (point : ConnPoint) (entry : Conn)
    (member : entry ∈ (st.setPoint conn point).conns) :
    entry ∈ st.conns ∨ ∃ old, st.conns[conn]? = some old ∧ entry = { old with point := point } := by
  obtain ⟨other, found⟩ := List.mem_iff_getElem?.mp member
  rw [set_point_conns] at found
  obtain ⟨old, stored, same⟩ := Option.map_eq_some_iff.mp found
  split_ifs at same with here
  · exact .inr ⟨old, here ▸ stored, same.symm⟩
  · exact .inl (same ▸ List.mem_of_getElem? stored)

def LiveOwners (st : MCState) : Prop :=
  ∀ clientID ref, st.sessions.lookup clientID = some ref → ∃ o, st.owner ref = some o ∧ o.id = clientID

section Opening

variable (st : MCState) (ident : LaneIdentity) (ref : SessionRef) (db : Option UserDB) (now : Nat)

theorem register_pool (family other : Family) :
    (st.register ident ref family).pool other =
      if other = family then (st.pool other).map fun p => p.claim ident.clientID (ident.assigned family) else st.pool other := by
  unfold register
  by_cases valid : (ident.assigned family).isValid = true
  · rw [if_pos valid]
    cases family <;> cases other <;> rfl
  · rw [if_neg valid]
    split_ifs with same
    · simp only [claim_invalid _ ident.clientID _ valid, Option.map_id']
    · rfl

theorem register_index (family : Family) (a : Addr) :
    (st.register ident ref family).ipIndex.lookup a =
      if (ident.assigned family).isValid = true ∧ a = ident.assigned family then some ref else st.ipIndex.lookup a := by
  unfold register
  by_cases valid : (ident.assigned family).isValid = true
  · rw [if_pos valid]
    have indexed := Table.lookup_put st.ipIndex (ident.assigned family) a ref
    simp only [valid, true_and, ← indexed]
    cases family <;> rfl
  · rw [if_neg valid, if_neg fun both => valid both.1]

theorem register_frame (family : Family) :
    (st.register ident ref family).heap = st.heap ∧ (st.register ident ref family).sessions = st.sessions ∧
      (st.register ident ref family).conns = st.conns ∧ (st.register ident ref family).readers = st.readers ∧
      (st.register ident ref family).dispatched = st.dispatched ∧
      (st.register ident ref family).allocations = st.allocations := by
  unfold register
  split_ifs
  · cases family <;> exact ⟨rfl, rfl, rfl, rfl, rfl, rfl⟩
  · exact ⟨rfl, rfl, rfl, rfl, rfl, rfl⟩

theorem open_session_pool (family : Family) :
    (st.openSession ident db now).pool family =
      (st.pool family).map fun p => p.claim ident.clientID (ident.assigned family) := by
  simp only [openSession, register_pool]
  cases family <;> rfl

theorem open_session_index (a : Addr) (found : SessionRef)
    (indexed : (st.openSession ident db now).ipIndex.lookup a = some found) :
    (found = st.heap.length ∧ a.isValid = true ∧ (a = ident.assigned4 ∨ a = ident.assigned6)) ∨
      st.ipIndex.lookup a = some found := by
  simp only [openSession, register_index] at indexed
  split_ifs at indexed with last first
  · exact .inl ⟨(Option.some.inj indexed).symm, last.2 ▸ last.1, .inr last.2⟩
  · exact .inl ⟨(Option.some.inj indexed).symm, first.2 ▸ first.1, .inl first.2⟩
  · exact .inr indexed

theorem open_session_frame :
    (st.openSession ident db now).heap = st.heap ++ [newSession ident now] ∧
      (st.openSession ident db now).sessions = st.sessions.insert ident.clientID st.heap.length ∧
      (st.openSession ident db now).conns = st.conns ∧ (st.openSession ident db now).readers = st.readers ∧
      (st.openSession ident db now).dispatched = st.dispatched ∧
      (st.openSession ident db now).allocations = st.allocations := by
  obtain ⟨heap6, sessions6, conns6, readers6, dispatched6, allocations6⟩ := register_frame
    ((st.storeSession ident db now).register ident st.heap.length .v4) ident st.heap.length .v6
  obtain ⟨heap4, sessions4, conns4, readers4, dispatched4, allocations4⟩ := register_frame
    (st.storeSession ident db now) ident st.heap.length .v4
  exact ⟨heap6.trans heap4, sessions6.trans sessions4, conns6.trans conns4, readers6.trans readers4,
    dispatched6.trans dispatched4, allocations6.trans allocations4⟩

theorem open_session_owner (other : SessionRef) :
    (st.openSession ident db now).owner other =
      if other = st.heap.length then some ⟨ident.clientID, ident.assigned4, ident.assigned6⟩ else st.owner other := by
  rw [owner, (open_session_frame st ident db now).1]
  split_ifs with same
  · simp [same, newSession, Session.owner]
  · rcases Nat.lt_or_gt_of_ne same with before | behind
    · rw [List.getElem?_append_left before, owner]
    · rw [owner, List.getElem?_eq_none (by simp; omega), List.getElem?_eq_none (by omega)]

end Opening

theorem effect_sessions (env : Env) (st next : MCState) (action : Action) (effect : Effect env st action next) :
    ((∀ clientID ref, next.sessions.lookup clientID = some ref → st.sessions.lookup clientID = some ref) ∧
        next.owner = st.owner) ∨
      ∃ conn now entry ident db, action = .acquire conn now ∧ st.conns[conn]? = some entry ∧
        entry.point = .admitted ident ∧ st.sessions.lookup ident.clientID = none ∧
        next = (st.openSession ident db now).setPoint conn (.joining st.heap.length) := by
  cases effect with
  | opened conn now entry ident db found admitted absent slot =>
      exact .inr ⟨conn, now, entry, ident, db, rfl, found, admitted, absent, rfl⟩
  | accepted | moved | released | tornAgain | reloaded | unreloaded | ignored | matched | dropped =>
      exact .inl ⟨fun _ _ live => live, rfl⟩
  | allocated _ _ family =>
      cases family <;> exact .inl ⟨fun _ _ live => live, rfl⟩
  | laned _ conn entry ref s change _ found stored changed =>
      have kept := (lane_change_frame st conn ref s action entry.point change next changed).2.2.1
      exact .inl ⟨fun _ _ live => kept ▸ live, lane_change_owner st conn ref s action entry.point change next changed⟩
  | collected now =>
      refine .inl ⟨fun clientID ref live => ?_, rfl⟩
      rw [collect, Table.lookup_drop_all] at live
      split_ifs at live
      exact live
  | cleared => exact .inl ⟨fun clientID ref live => absurd live (by simp [tearDownAll]), rfl⟩
  | torn ref => exact .inl ⟨fun _ _ live => live, set_session_owner (st.forget ref) ref _ fun _ => rfl⟩
  | queued reader packet ref =>
      exact .inl ⟨fun _ _ live => live, set_session_owner (st.setReader reader none) ref _ fun _ => rfl⟩

theorem effect_live_owners (env : Env) (st next : MCState) (action : Action) (effect : Effect env st action next)
    (held : st.LiveOwners) : next.LiveOwners := by
  intro clientID ref live
  rcases effect_sessions env st next action effect with
    ⟨shrunk, same⟩ | ⟨conn, now, entry, ident, db, _, _, _, absent, rfl⟩
  · rw [same]
    exact held clientID ref (shrunk clientID ref live)
  · change (st.openSession ident db now).sessions.lookup clientID = some ref at live
    change ∃ o, (st.openSession ident db now).owner ref = some o ∧ o.id = clientID
    rw [(open_session_frame st ident db now).2.1, Table.lookup_put] at live
    rw [open_session_owner]
    split_ifs at live with same
    · exact ⟨_, if_pos (Option.some.inj live).symm, same.symm⟩
    · obtain ⟨o, owned, named⟩ := held clientID ref live
      exact ⟨o, (if_neg (owner_older st ref o owned)).trans owned, named⟩

end MCState

end Packethose
