import Packethose.AnnouncedLanes

set_option autoImplicit false

namespace Packethose

def ConnPoint.ended : ConnPoint → Bool
  | .closed => true
  | _ => false

def ConnPoint.served : ConnPoint → Bool
  | .attached _ _ => true
  | _ => false

def AssignmentResponse.offers (asg : AssignmentResponse) : Family → Bool
  | .v4 => asg.v4Prefix != 0 && asg.v4Addr.isValid
  | .v6 => asg.v6Prefix != 0 && asg.v6Addr.isValid

def ServerConfig.subnetOf (cfg : ServerConfig) : Family → Prefix
  | .v4 => cfg.subnet
  | .v6 => cfg.subnet6

-- The records a connection may leave a trace in. The counts of the users'
-- sessions are part of the database.
structure MCState.SameRecords (before after : MCState) : Prop where
  pool4 : after.pool4 = before.pool4
  pool6 : after.pool6 = before.pool6
  sessions : after.sessions = before.sessions
  ipIndex : after.ipIndex = before.ipIndex
  userDB : after.userDB = before.userDB

structure SerialState where
  server : MCState
  before : MCState

namespace SerialState

def start (initial : MCState) : SerialState := ⟨initial, initial⟩

def noted (q : SerialState) : Action → MCState
  | .accept _ => q.server
  | _ => q.before

def step (env : Env) (q : SerialState) (action : Action) : Option SerialState :=
  (q.server.step env action).map fun next => ⟨next, q.noted action⟩

def quiet (q : SerialState) : Bool := q.server.conns.all (fun entry => entry.point.ended) && q.server.pending.isEmpty

-- One call of handleConn after the other, and a reap with all its tearDowns
-- between two of them. TUN readers go on all the time.
def inTurn (q : SerialState) : Action → Bool
  | .accept _ | .collect _ => q.quiet
  | .tearDownAll | .reload _ => false
  | _ => true

def Serial (q : SerialState) (action : Action) : Prop := q.inTurn action = true

-- Message 2 fails only for a client id that is not all zeros, and either the
-- client had no session when it connected or neither pool had a new address
-- for it.
def Undone (env : Env) (q : SerialState) : Action → Prop
  | .reply conn false =>
      match q.server.pointOf conn with
      | some (.replying hello _) => hello.clientID ≠ zeroClientID ∧
          (q.before.sessions.lookup hello.clientID = none ∨
            (q.before.grants env .v4 hello q.before.userDB = false ∧ q.before.grants env .v6 hello q.before.userDB = false))
      | _ => True
  | _ => True

instance (q : SerialState) (action : Action) : Decidable (q.Serial action) :=
  inferInstanceAs (Decidable (q.inTurn action = true))

instance (env : Env) (q : SerialState) (action : Action) : Decidable (q.Undone env action) := by
  unfold Undone
  split
  · split <;> infer_instance
  · infer_instance

end SerialState

namespace IPPool

theorem record_release (p : IPPool) (clientID : ClientID) (addr : Addr) (unheld : p.byClient.lookup clientID = none)
    (unused : p.used.lookup addr = none) : (p.record clientID addr).release clientID = p := by
  have held : (p.record clientID addr).byClient.lookup clientID = some addr := by rw [record, Table.lookup_put, if_pos rfl]
  simp only [release, held]
  simp only [record, Table.drop_put _ _ _ unheld, Table.drop_put _ _ _ unused]

theorem release_absent (p : IPPool) (clientID : ClientID) (absent : p.byClient.lookup clientID = none) :
    p.release clientID = p := by
  rw [release, absent]

def Marked (p : IPPool) : Prop := ∀ addr, p.used.lookup addr ≠ some false

theorem marked_unused (p : IPPool) (marked : p.Marked) (addr : Addr) (unset : p.used.flag addr = false) :
    p.used.lookup addr = none := by
  cases found : p.used.lookup addr with
  | none => rfl
  | some mark =>
      cases mark with
      | false => exact absurd found (marked addr)
      | true => simp [Table.flag, found] at unset

theorem record_marked (p : IPPool) (clientID : ClientID) (addr : Addr) (marked : p.Marked) : (p.record clientID addr).Marked := by
  intro query
  rw [record, Table.lookup_put]
  split_ifs
  · simp
  · exact marked query

theorem claim_marked (p : IPPool) (clientID : ClientID) (addr : Addr) (marked : p.Marked) : (p.claim clientID addr).Marked := by
  unfold claim
  split_ifs
  · exact marked
  · exact marked
  · exact marked
  · exact record_marked p clientID addr marked

theorem release_marked (p : IPPool) (clientID : ClientID) (marked : p.Marked) : (p.release clientID).Marked := by
  unfold release
  split
  · intro query
    rw [Table.lookup_drop]
    split_ifs
    · simp
    · exact marked query
  · exact marked

end IPPool

namespace MCState

theorem SameRecords.pool {before st : MCState} (same : SameRecords before st) (family : Family) :
    st.pool family = before.pool family := by
  cases family with
  | v4 => exact same.pool4
  | v6 => exact same.pool6

def openOwner (st : MCState) (ref : SessionRef) : Option ClientID :=
  (st.heap[ref]?).bind fun s => if s.isClosed then none else some s.id

def Backed (st : MCState) : Prop :=
  ∀ family p clientID, st.pool family = some p → p.byClient.lookup clientID ≠ none →
    st.sessions.lookup clientID ≠ none ∨ ∃ ref ∈ st.pending, st.openOwner ref = some clientID

def Cleared (st : MCState) : Prop :=
  ∀ family p clientID, st.pool family = some p → st.sessions.lookup clientID = none → p.byClient.lookup clientID = none

section Undoing

variable (env : Env) (before st : MCState)

structure Kept : Prop where
  sessions : st.sessions = before.sessions
  ipIndex : st.ipIndex = before.ipIndex
  userDB : st.userDB = before.userDB

def Extra (clientID : ClientID) (family : Family) : Prop :=
  ∃ p addr, before.pool family = some p ∧ p.byClient.lookup clientID = none ∧ p.used.lookup addr = none ∧
    st.pool family = some (p.record clientID addr)

def Grown (clientID : ClientID) (family : Family) : Prop :=
  st.pool family = before.pool family ∨ Extra before st clientID family

def Offered (hello : ClientHello) (asg : AssignmentResponse) (family : Family) : Prop :=
  st.pool family = before.pool family ∨
    (Extra before st hello.clientID family ∧ before.grants env family hello before.userDB = true ∧ asg.offers family = true)

def Midway : ConnPoint → Prop
  | .greeting | .authorized _ | .closed => SameRecords before st
  | .assigning4 _ db => db = before.userDB ∧ SameRecords before st
  | .assigning6 hello db asg => db = before.userDB ∧ Kept before st ∧ Offered env before st hello asg .v4 ∧ st.pool .v6 = before.pool .v6
  | .replying hello asg => Kept before st ∧ ∀ family, Offered env before st hello asg family
  | .failed clientID => SameRecords before st ∨
      (before.sessions.lookup clientID = none ∧ Kept before st ∧ ∀ family, Grown before st clientID family)
  | .admitted ident => Kept before st ∧ ∀ family, Grown before st ident.clientID family
  | .overQuota clientID => before.sessions.lookup clientID = none ∧ Kept before st ∧ ∀ family, Grown before st clientID family
  | .joining _ | .attached _ _ => st.Cleared

variable {before st}

theorem SameRecords.kept (same : SameRecords before st) : Kept before st := ⟨same.sessions, same.ipIndex, same.userDB⟩

theorem Kept.records (kept : Kept before st) (pools : ∀ family, st.pool family = before.pool family) : SameRecords before st :=
  ⟨pools .v4, pools .v6, kept.sessions, kept.ipIndex, kept.userDB⟩

theorem SameRecords.trans {after : MCState} (first : SameRecords before st) (second : SameRecords st after) :
    SameRecords before after :=
  ⟨second.pool4.trans first.pool4, second.pool6.trans first.pool6, second.sessions.trans first.sessions,
    second.ipIndex.trans first.ipIndex, second.userDB.trans first.userDB⟩

theorem same_cleared (same : SameRecords before st) (clean : before.Cleared) : st.Cleared := by
  intro family p clientID pooled free
  rw [same.pool] at pooled
  rw [same.sessions] at free
  exact clean family p clientID pooled free

theorem midway_congr (after : MCState) (point : ConnPoint) (same : SameRecords st after) (midway : Midway env before st point) :
    Midway env before after point := by
  have kept : Kept before st → Kept before after := fun old =>
    ⟨same.sessions.trans old.sessions, same.ipIndex.trans old.ipIndex, same.userDB.trans old.userDB⟩
  have grown : ∀ clientID family, Grown before st clientID family → Grown before after clientID family := by
    intro clientID family
    rw [Grown, Grown, Extra, Extra, same.pool family]
    exact id
  have offered : ∀ hello asg family, Offered env before st hello asg family → Offered env before after hello asg family := by
    intro hello asg family
    rw [Offered, Offered, Extra, Extra, same.pool family]
    exact id
  cases point with
  | greeting | authorized | closed => exact midway.trans same
  | assigning4 hello db => exact ⟨midway.1, midway.2.trans same⟩
  | assigning6 hello db asg =>
      obtain ⟨fixed, old, first, second⟩ := midway
      exact ⟨fixed, kept old, offered hello asg .v4 first, same.pool6.trans second⟩
  | replying hello asg => exact ⟨kept midway.1, fun family => offered hello asg family (midway.2 family)⟩
  | failed clientID =>
      exact midway.imp (fun old => old.trans same) fun ⟨free, old, extra⟩ =>
        ⟨free, kept old, fun family => grown clientID family (extra family)⟩
  | admitted ident => exact ⟨kept midway.1, fun family => grown ident.clientID family (midway.2 family)⟩
  | overQuota clientID =>
      obtain ⟨free, old, extra⟩ := midway
      exact ⟨free, kept old, fun family => grown clientID family (extra family)⟩
  | joining | attached => exact same_cleared same midway

theorem Offered.grown {env : Env} {hello : ClientHello} {asg : AssignmentResponse} {family : Family}
    (offered : Offered env before st hello asg family) : Grown before st hello.clientID family :=
  offered.imp id fun extra => extra.1

theorem grown_row (clientID other : ClientID) (family : Family) (p : IPPool) (clean : before.Cleared)
    (grown : Grown before st clientID family) (pooled : st.pool family = some p) (different : other ≠ clientID)
    (free : before.sessions.lookup other = none) : p.byClient.lookup other = none := by
  rcases grown with same | ⟨old, addr, stored, _, _, granted⟩
  · exact clean family p other (same ▸ pooled) free
  · obtain rfl : p = old.record clientID addr := Option.some.inj (pooled.symm.trans granted)
    rw [IPPool.record, Table.lookup_put, if_neg different]
    exact clean family old other stored free

theorem grown_released (clientID : ClientID) (family : Family) (clean : before.Cleared)
    (free : before.sessions.lookup clientID = none) (grown : Grown before st clientID family) :
    (st.releaseAll clientID).pool family = before.pool family := by
  rw [release_pool]
  rcases grown with same | ⟨p, addr, stored, unheld, unused, granted⟩
  · rw [same]
    cases pooled : before.pool family with
    | none => rfl
    | some p => rw [Option.map_some, IPPool.release_absent p clientID (clean family p clientID pooled free)]
  · rw [granted, stored, Option.map_some, IPPool.record_release p clientID addr unheld unused]

theorem released_midway (clientID : ClientID) (clean : before.Cleared) (free : before.sessions.lookup clientID = none)
    (kept : Kept before st) (grown : ∀ family, Grown before st clientID family) :
    SameRecords before (st.releaseAll clientID) :=
  Kept.records ⟨kept.sessions, kept.ipIndex, kept.userDB⟩ fun family => grown_released clientID family clean free (grown family)

theorem moves_midway (entry : Conn) (old new : ConnPoint) (moves : Moves env st entry old new)
    (answered : ∀ hello asg, old ≠ .replying hello asg) (clean : before.Cleared) (midway : Midway env before st old) :
    Midway env before st new := by
  cases moves with
  | greeted | anonymous => exact midway
  | refused => exact .inl midway
  | assigning => exact ⟨midway.userDB, midway⟩
  | without4 hello db absent =>
      obtain ⟨fixed, same⟩ := midway
      exact ⟨fixed, same.kept, .inl same.pool4, same.pool6⟩
  | without6 hello db asg absent =>
      obtain ⟨_, kept, first, second⟩ := midway
      refine ⟨kept, fun family => ?_⟩
      cases family with
      | v4 => exact first
      | v6 => exact .inl second
  | admitted hello asg | unassigned hello asg | unanswered hello asg | unanswerable hello asg => exact absurd rfl (answered hello asg)
  | owned clientID live =>
      refine midway.resolve_right fun ⟨free, kept, _⟩ => ?_
      rw [kept.sessions, free] at live
      cases live
  | joined ident ref live =>
      obtain ⟨kept, grown⟩ := midway
      intro family p clientID pooled free
      have different : clientID ≠ ident.clientID := by
        rintro rfl
        rw [live] at free
        cases free
      exact grown_row ident.clientID clientID family p clean (grown family) pooled different (kept.sessions ▸ free)
  | overQuota ident problem absent => exact ⟨midway.1.sessions ▸ absent, midway⟩

theorem offered_nothing (hello : ClientHello) (asg : AssignmentResponse)
    (offered : ∀ family, Offered env before st hello asg family) (nothing : (hello.identity asg).hasAssignment = false)
    (family : Family) : st.pool family = before.pool family := by
  refine (offered family).resolve_right fun ⟨_, _, offers⟩ => ?_
  have either : (asg.offers .v4 || asg.offers .v6) = false := nothing
  rw [Bool.or_eq_false_iff] at either
  cases family with
  | v4 => rw [either.1] at offers; cases offers
  | v6 => rw [either.2] at offers; cases offers

theorem reply_midway (conn : Nat) (sent : Bool) (next : MCState) (hello : ClientHello) (asg : AssignmentResponse)
    (taken : st.reply conn sent = some next) (reached : st.pointOf conn = some (.replying hello asg))
    (undone : sent = false → hello.clientID ≠ zeroClientID ∧ (before.sessions.lookup hello.clientID = none ∨
      (before.grants env .v4 hello before.userDB = false ∧ before.grants env .v6 hello before.userDB = false)))
    (midway : Midway env before st (.replying hello asg)) :
    ∃ point, next = st.setPoint conn point ∧ Midway env before st point := by
  obtain ⟨kept, offered⟩ := midway
  simp only [reply, reached] at taken
  split_ifs at taken with written assigned known
  · exact ⟨_, (Option.some.inj taken).symm, kept, fun family => (offered family).grown⟩
  · exact ⟨_, (Option.some.inj taken).symm,
      kept.records (offered_nothing env hello asg offered (Bool.not_eq_true _ ▸ assigned))⟩
  · refine ⟨_, (Option.some.inj taken).symm, ?_⟩
    rcases (undone (Bool.not_eq_true _ ▸ written)).2 with free | ⟨no4, no6⟩
    · exact .inr ⟨free, kept, fun family => (offered family).grown⟩
    · refine .inl (kept.records fun family => (offered family).resolve_right fun ⟨_, grants, _⟩ => ?_)
      cases family with
      | v4 => rw [no4] at grants; cases grants
      | v6 => rw [no6] at grants; cases grants
  · exact absurd (not_not.mp known) (undone (Bool.not_eq_true _ ▸ written)).1

theorem put_offers (asg : AssignmentResponse) (addr : Addr) (family other : Family) :
    (asg.put env.cfg addr family).offers other =
      if other = family then UInt8.ofNat (env.cfg.subnetOf family).bits != 0 && addr.isValid else asg.offers other := by
  cases family <;> cases other <;> rfl

theorem allocated_offered (family : Family) (hello : ClientHello) (asg : AssignmentResponse) (p changed : IPPool)
    (result : Except PoolError Addr) (pooled : before.pool family = some p)
    (called : p.allocateFor env.sha256 hello.userName hello.clientID (hello.request.wanted family) before.userDB =
      some (changed, result))
    (marked : p.Marked) (sized : UInt8.ofNat (env.cfg.subnetOf family).bits ≠ 0) (after : st.pool family = some changed) :
    Offered env before st hello (answered env family asg result) family := by
  rcases IPPool.allocate_for_cases env.sha256 p changed hello.userName hello.clientID _ _ result called with
    ⟨cur, held, rfl, rfl⟩ | ⟨unheld, addr, chosen, rfl, rfl⟩ | ⟨unheld, rfl, problem, rfl⟩
  · exact .inl (after.trans pooled.symm)
  · obtain ⟨⟨unused, inside⟩, _⟩ := IPPool.choose_origin env.sha256 p hello.userName hello.clientID _ _ addr chosen
    refine .inr ⟨⟨p, addr, pooled, unheld, IPPool.marked_unused p marked addr unused, after⟩, ?_, ?_⟩
    · simp [grants, pooled, unheld, called]
    · rw [answered, put_offers, if_pos rfl, (Prefix.contains_family p.subnet addr inside).1]
      simpa using sized
  · exact .inl (after.trans pooled.symm)

theorem allocated_midway (conn : Nat) (point : ConnPoint) (family : Family) (hello : ClientHello) (db : Option UserDB)
    (asg : AssignmentResponse) (p changed : IPPool) (result : Except PoolError Addr)
    (assigning : Assigning point family hello db asg) (pooled : st.pool family = some p)
    (called : p.allocateFor env.sha256 hello.userName hello.clientID (hello.request.wanted family) db = some (changed, result))
    (marked : p.Marked) (sized : UInt8.ofNat (env.cfg.subnetOf family).bits ≠ 0) (midway : Midway env before st point) :
    Midway env before ((st.noteAllocation conn hello).setPool (some changed) family)
      (assignedPoint hello db (answered env family asg result) family) := by
  cases assigning with
  | first =>
      obtain ⟨rfl, same⟩ := midway
      rw [same.pool] at pooled
      exact ⟨rfl, ⟨same.sessions, same.ipIndex, same.userDB⟩,
        allocated_offered env .v4 hello .empty p changed result pooled called marked sized rfl, same.pool6⟩
  | second =>
      obtain ⟨rfl, kept, first, second⟩ := midway
      rw [second] at pooled
      refine ⟨⟨kept.sessions, kept.ipIndex, kept.userDB⟩, fun family => ?_⟩
      cases family with
      | v4 =>
          refine first.imp id fun ⟨extra, grants, offers⟩ => ⟨extra, grants, ?_⟩
          cases result with
          | ok addr => rw [answered, put_offers]; exact offers
          | error problem => exact offers
      | v6 => exact allocated_offered env .v6 hello asg p changed result pooled called marked sized rfl

theorem opened_cleared (ident : LaneIdentity) (db : Option UserDB) (now : Nat) (clean : before.Cleared)
    (midway : Midway env before st (.admitted ident)) : (st.openSession ident db now).Cleared := by
  obtain ⟨kept, grown⟩ := midway
  intro family q clientID pooled free
  rw [open_session_pool] at pooled
  obtain ⟨p, stored, rfl⟩ := Option.map_eq_some_iff.mp pooled
  rw [(open_session_frame st ident db now).2.1, Table.lookup_put] at free
  split_ifs at free with different
  have absent := grown_row ident.clientID clientID family p clean (grown family) stored different (kept.sessions ▸ free)
  unfold IPPool.claim
  split_ifs
  · exact absent
  · exact absent
  · exact absent
  · rw [IPPool.record, Table.lookup_put, if_neg different]
    exact absent

end Undoing

section Turns

variable (env : Env) (before st next : MCState) (action : Action) (conn : Nat)

inductive Turn (entry : Conn) : MCState → Prop where
  | moved (point : ConnPoint) (moves : Moves env st entry entry.point point) : Turn entry (st.setPoint conn point)
  | allocated (family : Family) (hello : ClientHello) (db : Option UserDB) (asg : AssignmentResponse) (p changed : IPPool)
      (result : Except PoolError Addr) (assigning : Assigning entry.point family hello db asg) (pooled : st.pool family = some p)
      (called : p.allocateFor env.sha256 hello.userName hello.clientID (hello.request.wanted family) db = some (changed, result)) :
      Turn entry (((st.noteAllocation conn hello).setPool (some changed) family).setPoint conn
        (assignedPoint hello db (answered env family asg result) family))
  | released (clientID : ClientID) (releasing : Releasing st action entry.point clientID) :
      Turn entry ((st.releaseAll clientID).setPoint conn .closed)
  | opened (now : Nat) (ident : LaneIdentity) (db : Option UserDB) (admitted : entry.point = .admitted ident) :
      Turn entry ((st.openSession ident db now).setPoint conn (.joining st.heap.length))
  | attached (now : Nat) (ref : SessionRef) (s : Session) (joining : entry.point = .joining ref) :
      Turn entry ((st.setSession ref (Session.laneJoined now)).setPoint conn (.attached ref (s.nextLane % st.readers.length)))
  | read (ref : SessionRef) (queue : Nat) (running : entry.point = .attached ref queue) :
      Turn entry (st.setSession ref Session.dequeued)
  | detached (now : Nat) (ref : SessionRef) (queue : Nat) (running : entry.point = .attached ref queue) :
      Turn entry ((st.setSession ref (Session.laneLeft now)).setPoint conn .closed)

theorem effect_turn (effect : Effect env st action next) (actor : action.conn = some conn) :
    ∃ entry, st.conns[conn]? = some entry ∧ Turn env st action conn entry next := by
  cases effect with
  | accepted | collected | cleared | tornAgain | torn | reloaded | unreloaded | ignored | matched | queued | dropped => cases actor
  | moved _ _ entry point acts found moves =>
      obtain rfl := Option.some.inj (acts.symm.trans actor)
      exact ⟨entry, found, .moved point moves⟩
  | allocated _ entry family hello db asg p changed result found assigning pooled called =>
      cases actor
      exact ⟨entry, found, .allocated family hello db asg p changed result assigning pooled called⟩
  | released _ _ entry clientID acts found releasing =>
      obtain rfl := Option.some.inj (acts.symm.trans actor)
      exact ⟨entry, found, .released clientID releasing⟩
  | opened _ now entry ident db found admitted =>
      cases actor
      exact ⟨entry, found, .opened now ident db admitted⟩
  | laned _ _ entry ref s change _ found stored changed =>
      generalize here : entry.point = point at changed
      cases changed with
      | attach now => cases actor; exact ⟨entry, found, .attached now ref s here⟩
      | laneRead queue => cases actor; exact ⟨entry, found, .read ref queue here⟩
      | detach now queue => cases actor; exact ⟨entry, found, .detached now ref queue here⟩

theorem turn_open (entry : Conn) (turn : Turn env st action conn entry next) : entry.point.ended = false := by
  cases turn with
  | moved point moves =>
      generalize entry.point = old at moves
      cases moves <;> rfl
  | allocated family hello db asg p changed result assigning =>
      generalize entry.point = old at assigning
      cases assigning <;> rfl
  | released clientID releasing =>
      generalize entry.point = old at releasing
      cases releasing <;> rfl
  | opened now ident db point | attached now ref s point | read ref queue point | detached now ref queue point =>
      rw [point]
      rfl

theorem idle_conns (entry : Conn) (effect : Effect env st action next) (idle : action.conn = none)
    (found : st.conns[conn]? = some entry) : next.conns[conn]? = some entry := by
  cases effect with
  | accepted input =>
      rw [accept, List.getElem?_append_left (List.getElem?_eq_some_iff.mp found).1]
      exact found
  | collected | cleared | tornAgain | torn | reloaded | unreloaded | ignored | matched | queued | dropped => exact found
  | moved _ _ _ _ acts | released _ _ _ _ acts => rw [idle] at acts; cases acts
  | allocated | opened => cases idle
  | laned _ _ entry ref s change _ there stored changed =>
      generalize entry.point = point at changed
      cases changed <;> cases idle

theorem open_session_pending (ident : LaneIdentity) (db : Option UserDB) (now : Nat) :
    (st.openSession ident db now).pending = st.pending := by
  have one : ∀ (middle : MCState) (ref : SessionRef) (family : Family), (middle.register ident ref family).pending = middle.pending := by
    intro middle ref family
    unfold register
    split_ifs
    · cases family <;> rfl
    · rfl
  rw [openSession, one, one]
  rfl

theorem replying_action (hello : ClientHello) (asg : AssignmentResponse) (actor : action.conn = some conn)
    (reached : st.pointOf conn = some (.replying hello asg)) (taken : st.step env action = some next) :
    ∃ sent, action = .reply conn sent := by
  obtain ⟨entry, found, point⟩ := point_of_some st conn _ reached
  cases action with
  | reply other sent => exact ⟨sent, by cases actor; rfl⟩
  | handshake other =>
      cases actor
      obtain ⟨input, users, _⟩ := entry
      subst point
      simp [step, handshake, found] at taken
  | assign | allocate | releaseOrphan | acquire | quotaRelease | attach | laneRead | detach =>
      cases actor
      simp [step, assign, allocate, releaseOrphan, acquire, quotaRelease, attach, laneRead, detach, reached] at taken
  | _ => cases actor

theorem turn_midway (entry : Conn) (actor : action.conn = some conn) (found : st.conns[conn]? = some entry)
    (unserved : entry.point.served = false) (taken : st.step env action = some next) (clean : before.Cleared)
    (undone : SerialState.Undone env ⟨st, before⟩ action) (marked : ∀ family p, st.pool family = some p → p.Marked)
    (sized : ∀ family p, st.pool family = some p → UInt8.ofNat (env.cfg.subnetOf family).bits ≠ 0)
    (midway : Midway env before st entry.point) :
    ∃ middle point, next = middle.setPoint conn point ∧ middle.conns = st.conns ∧ middle.pending = st.pending ∧
      Midway env before middle point := by
  by_cases answering : ∃ hello asg, entry.point = .replying hello asg
  · obtain ⟨hello, asg, point⟩ := answering
    have reached : st.pointOf conn = some (.replying hello asg) := by rw [pointOf, found, Option.map_some, point]
    obtain ⟨sent, rfl⟩ := replying_action env st next action conn hello asg actor reached taken
    have condition : sent = false → hello.clientID ≠ zeroClientID ∧ (before.sessions.lookup hello.clientID = none ∨
        (before.grants env .v4 hello before.userDB = false ∧ before.grants env .v6 hello before.userDB = false)) := by
      rintro rfl
      simpa only [SerialState.Undone, reached] using undone
    obtain ⟨target, same, after⟩ := reply_midway env conn sent next hello asg taken reached condition (point ▸ midway)
    exact ⟨st, target, same, rfl, rfl, after⟩
  · have answered : ∀ hello asg, entry.point ≠ .replying hello asg := fun hello asg point => answering ⟨hello, asg, point⟩
    obtain ⟨old, there, turn⟩ := effect_turn env st next action conn (step_effect env st next action taken) actor
    obtain rfl := Option.some.inj (there.symm.trans found)
    cases turn with
    | moved point moves => exact ⟨st, point, rfl, rfl, rfl, moves_midway env old old.point point moves answered clean midway⟩
    | allocated family hello db asg p changed result assigning pooled called =>
        refine ⟨_, _, rfl, by cases family <;> rfl, by cases family <;> rfl, ?_⟩
        exact allocated_midway env conn old.point family hello db asg p changed result assigning pooled called
          (marked family p pooled) (sized family p pooled) midway
    | released clientID releasing =>
        refine ⟨_, _, rfl, rfl, rfl, ?_⟩
        generalize old.point = point at releasing midway
        cases releasing with
        | orphan _ _ free =>
            rcases midway with same | ⟨absent, kept, grown⟩
            · exact released_midway clientID clean (same.sessions ▸ free) same.kept fun family => .inl (same.pool family)
            · exact released_midway clientID clean absent kept grown
        | quota => exact released_midway clientID clean midway.1 midway.2.1 midway.2.2
    | opened now ident db admitted =>
        rw [admitted] at midway
        exact ⟨_, _, rfl, (open_session_frame st ident db now).2.2.1, open_session_pending st ident db now,
          opened_cleared env ident db now clean midway⟩
    | attached now ref s joining =>
        rw [joining] at midway
        exact ⟨st.setSession ref (Session.laneJoined now), _, rfl, rfl, rfl, midway⟩
    | read ref queue running | detached now ref queue running =>
        rw [running] at unserved
        cases unserved

end Turns

section Owners

variable (env : Env) (st next : MCState) (action : Action)

theorem set_session_open_owner (ref : SessionRef) (change : Session → Session)
    (same : ∀ s, (change s).id = s.id ∧ (change s).isClosed = s.isClosed) : (st.setSession ref change).openOwner = st.openOwner := by
  funext other
  simp only [openOwner, setSession, List.getElem?_modify]
  cases st.heap[other]? with
  | none => rfl
  | some s => by_cases here : ref = other <;> simp [here, same]

theorem torn_open_owner (ref other : SessionRef) (different : other ≠ ref) :
    (st.setSession ref Session.tornDown).openOwner other = st.openOwner other := by
  simp [openOwner, setSession, Ne.symm different]

theorem open_session_open_owner (ident : LaneIdentity) (db : Option UserDB) (now : Nat) (ref : SessionRef) (clientID : ClientID)
    (owned : st.openOwner ref = some clientID) : (st.openSession ident db now).openOwner ref = some clientID := by
  obtain ⟨s, stored, unclosed⟩ := Option.bind_eq_some_iff.mp owned
  have within := (List.getElem?_eq_some_iff.mp stored).1
  rw [openOwner, (open_session_frame st ident db now).1, List.getElem?_append_left within, stored]
  exact unclosed

structure Seated : Prop where
  live : ∀ clientID ref, st.sessions.lookup clientID = some ref → st.openOwner ref = some clientID
  apart : ∀ ref ∈ st.pending, ∀ clientID, st.sessions.lookup clientID ≠ some ref

theorem seated_frame (seated : st.Seated) (sessions : next.sessions = st.sessions) (pending : next.pending = st.pending)
    (owners : next.openOwner = st.openOwner) : next.Seated := by
  refine ⟨?_, ?_⟩
  · rw [sessions, owners]
    exact seated.live
  · rw [sessions, pending]
    exact seated.apart

theorem seated_torn (ref : SessionRef) (seated : st.Seated) (waiting : ref ∈ st.pending) :
    ((st.forget ref).setSession ref Session.tornDown).Seated := by
  refine ⟨fun clientID other live => ?_, fun other member => seated.apart other (List.mem_of_mem_erase member)⟩
  rw [torn_open_owner]
  · exact seated.live clientID other live
  · rintro rfl
    exact seated.apart other waiting clientID live

theorem seated_collected (now : Nat) (seated : st.Seated) (quiet : st.pending = []) : (st.collect now).Seated := by
  refine ⟨fun clientID ref live => ?_, fun ref waiting clientID live => ?_⟩
  · rw [collect, Table.lookup_drop_all] at live
    split_ifs at live
    exact seated.live clientID ref live
  · rw [collect, Table.lookup_drop_all] at live
    split_ifs at live with kept
    simp only [collect, quiet, List.nil_append, List.mem_map] at waiting
    obtain ⟨⟨owner, target⟩, victim, rfl⟩ := waiting
    have listed := (Table.mem_rows st.sessions owner target).mp (List.mem_filter.mp victim).1
    have same : some owner = some clientID := (seated.live owner target listed).symm.trans (seated.live clientID target live)
    cases same
    exact kept (List.mem_map.mpr ⟨_, victim, rfl⟩)

theorem seated_opened (ident : LaneIdentity) (db : Option UserDB) (now : Nat) (seated : st.Seated) (quiet : st.pending = []) :
    (st.openSession ident db now).Seated := by
  refine ⟨fun clientID ref live => ?_, ?_⟩
  · rw [(open_session_frame st ident db now).2.1, Table.lookup_put] at live
    split_ifs at live with same
    · cases live
      rw [openOwner, (open_session_frame st ident db now).1, same]
      simp [newSession]
    · exact open_session_open_owner st ident db now ref clientID (seated.live clientID ref live)
  · rw [open_session_pending, quiet]
    exact fun _ member => absurd member (by simp)

theorem effect_seated (effect : Effect env st action next) (seated : st.Seated) (reaps : ∀ now, action = .collect now → st.pending = [])
    (opens : ∀ conn, action.conn = some conn → st.pending = []) (running : action ≠ .tearDownAll) : next.Seated := by
  cases effect with
  | accepted | moved | released | reloaded | unreloaded | ignored | matched | dropped => exact ⟨seated.live, seated.apart⟩
  | allocated _ _ family =>
      cases family <;> exact ⟨seated.live, seated.apart⟩
  | opened conn now entry ident db =>
      have after := seated_opened st ident db now seated (opens conn rfl)
      exact ⟨after.live, after.apart⟩
  | laned _ conn entry ref s change _ found stored changed =>
      generalize entry.point = point at changed
      cases changed <;> exact seated_frame st _ seated rfl rfl (set_session_open_owner st ref _ fun _ => ⟨rfl, rfl⟩)
  | collected now => exact seated_collected st now seated (reaps now rfl)
  | cleared => exact absurd rfl running
  | tornAgain ref => exact ⟨seated.live, fun other member => seated.apart other (List.mem_of_mem_erase member)⟩
  | torn ref s db waiting =>
      have after := seated_torn st ref seated waiting
      exact ⟨after.live, after.apart⟩
  | queued reader packet ref => exact seated_frame st _ seated rfl rfl (set_session_open_owner _ ref _ fun _ => ⟨rfl, rfl⟩)

end Owners

section Backing

variable (env : Env) (st next : MCState) (action : Action)

theorem effect_marked (effect : Effect env st action next) (marked : ∀ family p, st.pool family = some p → p.Marked) :
    ∀ family p, next.pool family = some p → p.Marked ∧ (st.pool family).isSome := by
  intro family p pooled
  cases effect_pool env st next action effect family with
  | same kept =>
      rw [kept] at pooled
      exact ⟨marked family p pooled, by simp [pooled]⟩
  | allocated _ _ hello db _ old changed result _ _ _ stored called pool =>
      obtain rfl : p = changed := Option.some.inj (pooled.symm.trans pool)
      refine ⟨?_, by simp [stored]⟩
      rcases IPPool.allocate_for_cases env.sha256 old p hello.userName hello.clientID _ db result called with
        ⟨_, _, rfl, _⟩ | ⟨_, addr, _, rfl, _⟩ | ⟨_, rfl, _⟩
      · exact marked family p stored
      · exact old.record_marked hello.clientID addr (marked family old stored)
      · exact marked family p stored
  | claimed _ _ ident _ _ _ pool =>
      obtain ⟨old, stored, rfl⟩ := Option.map_eq_some_iff.mp (pool.symm.trans pooled)
      exact ⟨old.claim_marked ident.clientID _ (marked family old stored), by simp [stored]⟩
  | freed clientID _ pool =>
      obtain ⟨old, stored, rfl⟩ := Option.map_eq_some_iff.mp (pool.symm.trans pooled)
      exact ⟨old.release_marked clientID (marked family old stored), by simp [stored]⟩

theorem cleared_backed (clean : st.Cleared) : st.Backed :=
  fun family p clientID pooled held => .inl fun free => held (clean family p clientID pooled free)

theorem backed_cleared (backed : st.Backed) (quiet : st.pending = []) : st.Cleared := by
  intro family p clientID pooled free
  by_contra held
  rcases backed family p clientID pooled held with live | ⟨ref, waiting, _⟩
  · exact live free
  · rw [quiet] at waiting
    cases waiting

theorem backed_collected (now : Nat) (seated : st.Seated) (backed : st.Backed) : (st.collect now).Backed := by
  intro family p clientID pooled held
  rcases backed family p clientID pooled held with live | ⟨ref, waiting, owned⟩
  · obtain ⟨ref, listed⟩ := Option.ne_none_iff_exists'.mp live
    by_cases victim : st.stale now ref = true
    · have member : (clientID, ref) ∈ (Table.rows st.sessions).filter fun row => st.stale now row.2 :=
        List.mem_filter.mpr ⟨(Table.mem_rows st.sessions clientID ref).mpr listed, victim⟩
      exact .inr ⟨ref, List.mem_append_right _ (List.mem_map.mpr ⟨_, member, rfl⟩), seated.live clientID ref listed⟩
    · refine .inl ?_
      rw [collect, Table.lookup_drop_all, if_neg]
      · exact live
      · intro dropped
        obtain ⟨⟨owner, target⟩, member, rfl⟩ := List.mem_map.mp dropped
        obtain ⟨row, stale⟩ := List.mem_filter.mp member
        have same : some target = some ref := ((Table.mem_rows st.sessions owner target).mp row).symm.trans listed
        cases same
        exact victim stale
  · exact .inr ⟨ref, List.mem_append_left _ waiting, owned⟩

theorem owned_apart (ref : SessionRef) (s : Session) (clientID : ClientID) (other : SessionRef)
    (stored : st.heap[ref]? = some s) (different : s.isClosed = true ∨ clientID ≠ s.id)
    (owned : st.openOwner other = some clientID) : other ≠ ref := by
  rintro rfl
  rw [openOwner, stored, Option.bind_some] at owned
  split_ifs at owned with closed
  rcases different with done | unlike
  · exact closed done
  · exact unlike (Option.some.inj owned).symm

theorem backed_forgotten (ref : SessionRef) (s : Session) (stored : st.heap[ref]? = some s) (done : s.isClosed = true)
    (backed : st.Backed) : (st.forget ref).Backed := by
  intro family p clientID pooled held
  refine (backed family p clientID pooled held).imp id fun ⟨other, waiting, owned⟩ => ⟨other, ?_, owned⟩
  exact (List.mem_erase_of_ne (owned_apart st ref s clientID other stored (.inl done) owned)).mpr waiting

theorem backed_torn (ref : SessionRef) (s : Session) (db : Option UserDB) (stored : st.heap[ref]? = some s) (backed : st.Backed) :
    ((((st.forget ref).setSession ref Session.tornDown).releaseAll s.id).setUserDB db).Backed := by
  intro family p clientID pooled held
  change (((st.forget ref).setSession ref Session.tornDown).releaseAll s.id).pool family = some p at pooled
  rw [release_pool] at pooled
  obtain ⟨old, before, rfl⟩ := Option.map_eq_some_iff.mp pooled
  rw [IPPool.release_lookup] at held
  split_ifs at held with different
  · exact absurd rfl held
  · refine (backed family old clientID before held).imp id fun ⟨other, waiting, owned⟩ => ?_
    have apart := owned_apart st ref s clientID other stored (.inr different) owned
    exact ⟨other, (List.mem_erase_of_ne apart).mpr waiting, (torn_open_owner (st.forget ref) ref other apart).trans owned⟩

end Backing

end MCState

namespace SerialState

inductive Phase (env : Env) (q : SerialState) : Prop where
  | idle (ended : ∀ entry ∈ q.server.conns, entry.point.ended = true) (backed : q.server.Backed)
  | busy (conn : Nat) (entry : Conn) (found : q.server.conns[conn]? = some entry) (unfinished : entry.point.ended = false)
      (alone : ∀ other old, q.server.conns[other]? = some old → other ≠ conn → old.point.ended = true)
      (quiet : q.server.pending = []) (clean : q.before.Cleared) (midway : MCState.Midway env q.before q.server entry.point)

structure Tidy (env : Env) (q : SerialState) : Prop where
  marked : ∀ family p, q.server.pool family = some p → p.Marked
  sized : ∀ family p, q.server.pool family = some p → UInt8.ofNat (env.cfg.subnetOf family).bits ≠ 0
  seated : q.server.Seated
  phase : q.Phase env

section Steps

variable (env : Env) (q : SerialState) (next : MCState) (action : Action)

theorem Phase.current {env : Env} {q : SerialState} (phase : q.Phase env) (conn : Nat) (entry : Conn)
    (found : q.server.conns[conn]? = some entry) (unfinished : entry.point.ended = false) :
    (∀ other old, q.server.conns[other]? = some old → other ≠ conn → old.point.ended = true) ∧ q.server.pending = [] ∧
      q.before.Cleared ∧ MCState.Midway env q.before q.server entry.point := by
  cases phase with
  | idle ended => exact absurd (ended entry (List.mem_of_getElem? found)) (by simp [unfinished])
  | busy other old there _ alone quiet clean midway =>
      obtain rfl : conn = other := by
        by_contra different
        exact absurd (alone conn entry found different) (by simp [unfinished])
      obtain rfl := Option.some.inj (there.symm.trans found)
      exact ⟨alone, quiet, clean, midway⟩

theorem pointed_ended (st : MCState) (conn : Nat) (point : ConnPoint)
    (alone : ∀ other old, st.conns[other]? = some old → other ≠ conn → old.point.ended = true) (other : Nat) (old : Conn)
    (found : (st.setPoint conn point).conns[other]? = some old) : old.point.ended = true ∨ (other = conn ∧ old.point = point) := by
  rw [MCState.set_point_conns] at found
  obtain ⟨earlier, stored, rfl⟩ := Option.map_eq_some_iff.mp found
  split_ifs with here
  · exact .inr ⟨here.symm, rfl⟩
  · exact .inl (alone other earlier stored (Ne.symm here))

theorem phase_closed (st before : MCState) (conn : Nat)
    (alone : ∀ other old, st.conns[other]? = some old → other ≠ conn → old.point.ended = true) (clean : st.Cleared) :
    Phase env ⟨st.setPoint conn .closed, before⟩ := by
  refine .idle (fun entry member => ?_) (MCState.cleared_backed st clean)
  obtain ⟨other, found⟩ := List.mem_iff_getElem?.mp member
  rcases pointed_ended st conn .closed alone other entry found with ended | ⟨_, same⟩
  · exact ended
  · rw [same]
    rfl

theorem phase_pointed (st before : MCState) (conn : Nat) (entry : Conn) (point : ConnPoint)
    (found : st.conns[conn]? = some entry)
    (alone : ∀ other old, st.conns[other]? = some old → other ≠ conn → old.point.ended = true) (quiet : st.pending = [])
    (clean : before.Cleared) (midway : MCState.Midway env before st point) : Phase env ⟨st.setPoint conn point, before⟩ := by
  by_cases ended : point.ended = true
  · obtain rfl : point = .closed := by
      cases point <;> first | rfl | cases ended
    exact phase_closed env st before conn alone (MCState.same_cleared midway clean)
  · have same : MCState.SameRecords st (st.setPoint conn point) := ⟨rfl, rfl, rfl, rfl, rfl⟩
    refine .busy conn { entry with point := point } ?_ (Bool.not_eq_true _ ▸ ended) (fun other old there different => ?_) quiet clean
      (MCState.midway_congr env _ point same midway)
    · rw [MCState.set_point_conns, found]
      simp
    · exact (pointed_ended st conn point alone other old there).resolve_right fun same => different same.1

theorem quiet_parts (quiet : q.quiet = true) : (∀ entry ∈ q.server.conns, entry.point.ended = true) ∧ q.server.pending = [] := by
  simpa [SerialState.quiet] using quiet

theorem acting_noted (conn : Nat) (actor : action.conn = some conn) : q.noted action = q.before := by
  cases action with
  | accept => cases actor
  | _ => rfl

theorem phase_served (conn : Nat) (entry : Conn) (phase : q.Phase env) (found : q.server.conns[conn]? = some entry)
    (served : entry.point.served = true) (turn : MCState.Turn env q.server action conn entry next) :
    Phase env ⟨next, q.before⟩ := by
  obtain ⟨alone, quiet, clean, midway⟩ := phase.current conn entry found (MCState.turn_open env q.server next action conn entry turn)
  cases turn with
  | read ref queue running => exact .busy conn entry found (by rw [running]; rfl) alone quiet clean (by rwa [running] at midway ⊢)
  | detached now ref queue running =>
      rw [running] at midway
      exact phase_closed env (q.server.setSession ref (Session.laneLeft now)) q.before conn alone midway
  | moved point moves =>
      generalize entry.point = old at moves served
      cases moves <;> cases served
  | allocated family hello db asg p changed result assigning =>
      generalize entry.point = old at assigning served
      cases assigning <;> cases served
  | released clientID releasing =>
      generalize entry.point = old at releasing served
      cases releasing <;> cases served
  | opened now ident db point | attached now ref s point =>
      rw [point] at served
      cases served

theorem phase_frame (after : MCState) (phase : q.Phase env) (same : MCState.SameRecords q.server after)
    (conns : after.conns = q.server.conns) (pending : after.pending = q.server.pending)
    (owners : after.openOwner = q.server.openOwner) : Phase env ⟨after, q.before⟩ := by
  cases phase with
  | idle ended backed =>
      refine .idle (conns ▸ ended) fun family p clientID pooled held => ?_
      rw [same.pool] at pooled
      rw [same.sessions, pending, owners]
      exact backed family p clientID pooled held
  | busy conn entry found unfinished alone quiet clean midway =>
      exact .busy conn entry (conns ▸ found) unfinished (conns ▸ alone) (pending.trans quiet) clean
        (MCState.midway_congr env after entry.point same midway)

theorem phase_accepted (input : Bytes) (phase : q.Phase env) (ended : ∀ entry ∈ q.server.conns, entry.point.ended = true)
    (quiet : q.server.pending = []) : Phase env ⟨q.server.accept input, q.server⟩ := by
  cases phase with
  | busy conn entry found unfinished =>
      exact absurd (ended entry (List.mem_of_getElem? found)) (by simp [unfinished])
  | idle _ backed =>
      refine .busy q.server.conns.length ⟨input, q.server.userDB, .greeting⟩ (by simp [MCState.accept]) rfl
        (fun other old found different => ?_) quiet (MCState.backed_cleared q.server backed quiet) ⟨rfl, rfl, rfl, rfl, rfl⟩
      have within := (List.getElem?_eq_some_iff.mp found).1
      simp only [MCState.accept, List.length_append, List.length_singleton] at within
      have earlier : other < q.server.conns.length := by omega
      change (q.server.conns ++ [⟨input, q.server.userDB, .greeting⟩])[other]? = some old at found
      rw [List.getElem?_append_left earlier] at found
      exact ended old (List.mem_of_getElem? found)

theorem phase_step (tidy : q.Tidy env) (serial : q.Serial action) (undone : q.Undone env action)
    (taken : q.server.step env action = some next) : Phase env ⟨next, q.noted action⟩ := by
  have effect := MCState.step_effect env q.server next action taken
  cases actor : action.conn with
  | some conn =>
      obtain ⟨entry, found, turn⟩ := MCState.effect_turn env q.server next action conn effect actor
      rw [q.acting_noted action conn actor]
      by_cases served : entry.point.served = true
      · exact phase_served env q next action conn entry tidy.phase found served turn
      · have unfinished := MCState.turn_open env q.server next action conn entry turn
        obtain ⟨alone, quiet, clean, midway⟩ := tidy.phase.current conn entry found unfinished
        obtain ⟨middle, point, rfl, conns, pending, after⟩ := MCState.turn_midway env q.before q.server next action conn entry actor
          found (Bool.not_eq_true _ ▸ served) taken clean undone tidy.marked tidy.sized midway
        exact phase_pointed env middle q.before conn entry point (conns ▸ found) (conns ▸ alone) (pending ▸ quiet) clean after
  | none =>
      cases effect with
      | accepted input =>
          obtain ⟨ended, quiet⟩ := q.quiet_parts serial
          exact phase_accepted env q input tidy.phase ended quiet
      | collected now =>
          cases tidy.phase with
          | idle ended backed => exact .idle ended (MCState.backed_collected q.server now tidy.seated backed)
          | busy conn entry found unfinished =>
              exact absurd ((q.quiet_parts serial).1 entry (List.mem_of_getElem? found)) (by simp [unfinished])
      | tornAgain ref s waiting stored done =>
          cases tidy.phase with
          | idle ended backed => exact .idle ended (MCState.backed_forgotten q.server ref s stored done backed)
          | busy _ _ _ _ _ quiet => rw [quiet] at waiting; cases waiting
      | torn ref s db waiting stored =>
          cases tidy.phase with
          | idle ended backed => exact .idle ended (MCState.backed_torn q.server ref s db stored backed)
          | busy _ _ _ _ _ quiet => rw [quiet] at waiting; cases waiting
      | cleared | reloaded | unreloaded => exact absurd serial Bool.false_ne_true
      | ignored | matched | dropped => exact phase_frame env q _ tidy.phase ⟨rfl, rfl, rfl, rfl, rfl⟩ rfl rfl rfl
      | queued reader packet ref =>
          exact phase_frame env q _ tidy.phase ⟨rfl, rfl, rfl, rfl, rfl⟩ rfl rfl
            (MCState.set_session_open_owner (q.server.setReader reader none) ref _ fun _ => ⟨rfl, rfl⟩)
      | moved _ _ _ _ acts | released _ _ _ _ acts => rw [actor] at acts; cases acts
      | allocated | opened => cases actor
      | laned _ conn entry ref s change _ found stored changed =>
          generalize entry.point = point at changed
          cases changed <;> cases actor

end Steps

theorem tidy_preserved (env : Env) :
    Runs.Preserved (step env) (fun q action => q.Serial action ∧ q.Undone env action) (Tidy env) := by
  rintro q action after tidy ⟨serial, undone⟩ stepped
  obtain ⟨next, taken, rfl⟩ := Option.map_eq_some_iff.mp stepped
  have effect := MCState.step_effect env q.server next action taken
  have pools := MCState.effect_marked env q.server next action effect tidy.marked
  refine ⟨fun family p pooled => (pools family p pooled).1, fun family p pooled => ?_, ?_, phase_step env q next action tidy serial undone taken⟩
  · obtain ⟨old, stored⟩ := Option.isSome_iff_exists.mp (pools family p pooled).2
    exact tidy.sized family old stored
  · refine MCState.effect_seated env q.server next action effect tidy.seated ?_ (fun conn actor => ?_) ?_
    · rintro now rfl
      exact (q.quiet_parts serial).2
    · obtain ⟨entry, found, turn⟩ := MCState.effect_turn env q.server next action conn effect actor
      exact (tidy.phase.current conn entry found (MCState.turn_open env q.server next action conn entry turn)).2.1
    · rintro rfl
      exact Bool.false_ne_true serial

theorem start_tidy (env : Env) (initial : MCState) (started : MCState.Started env initial)
    (wide : ∀ family, (env.cfg.subnetOf family).isValid = true → (env.cfg.subnetOf family).bits ≠ 0) :
    Tidy env (start initial) := by
  have built : ∀ family p, initial.pool family = some p → (env.cfg.subnetOf family).isValid = true ∧ p.used = ∅ ∧ p.byClient = ∅ := by
    intro family p pooled
    have made : ∃ ip reservations, ServerConfig.newFamilyPool (env.cfg.subnetOf family) ip reservations = .ok (some p) := by
      cases family with
      | v4 =>
          obtain ⟨reservations, outcome⟩ := started.pool4
          exact ⟨_, reservations, (show initial.pool4 = some p from pooled) ▸ outcome⟩
      | v6 =>
          obtain ⟨reservations, outcome⟩ := started.pool6
          exact ⟨_, reservations, (show initial.pool6 = some p from pooled) ▸ outcome⟩
    obtain ⟨ip, reservations, outcome⟩ := made
    obtain ⟨valid, opened⟩ := ServerConfig.new_family_pool_built _ ip reservations p outcome
    obtain ⟨_, _, used, rows⟩ := IPPool.new_ip_pool_fields _ _ p opened
    exact ⟨valid, used, rows⟩
  obtain ⟨⟨pool4, pool6, userDB, queues, rfl⟩, _, _⟩ := started
  refine ⟨fun family p pooled addr => ?_, fun family p pooled => ?_, ⟨?_, ?_⟩, .idle ?_ ?_⟩
  · rw [(built family p pooled).2.1]
    simp
  · have bound : (env.cfg.subnetOf family).bits < 256 := by
      cases env.cfg.subnetOf family with
      | invalid => decide
      | v4 _ bits => exact bits.isLt.trans (by decide)
      | v6 _ bits => exact bits.isLt.trans (by decide)
    have nonzero := wide family (built family p pooled).1
    intro zero
    have value := congrArg UInt8.toNat zero
    simp only [UInt8.toNat_ofNat', UInt8.toNat_zero] at value
    omega
  · intro clientID ref live
    cases live
  · intro ref waiting
    cases waiting
  · intro entry member
    cases member
  · intro family p clientID pooled held
    rw [(built family p pooled).2.2] at held
    exact absurd rfl held

theorem refused_leaves_no_trace (env : Env) (initial : MCState) (q next : SerialState) (action : Action) (conn : Nat)
    (point : ConnPoint) (started : MCState.Started env initial)
    (wide : ∀ family, (env.cfg.subnetOf family).isValid = true → (env.cfg.subnetOf family).bits ≠ 0)
    (reached : Runs.Reach (step env) (fun q action => q.Serial action ∧ q.Undone env action) (start initial) q)
    (permitted : q.Serial action ∧ q.Undone env action) (taken : q.step env action = some next)
    (running : q.server.pointOf conn = some point) (unfinished : point.ended = false) (unserved : point.served = false)
    (ended : next.server.pointOf conn = some .closed) : MCState.SameRecords q.before next.server := by
  have tidy := Runs.reach_invariant (tidy_preserved env) reached (start_tidy env initial started wide)
  obtain ⟨after, stepped, rfl⟩ := Option.map_eq_some_iff.mp taken
  obtain ⟨entry, found, rfl⟩ := MCState.point_of_some q.server conn point running
  obtain ⟨alone, quiet, clean, midway⟩ := tidy.phase.current conn entry found unfinished
  have effect := MCState.step_effect env q.server after action stepped
  have actor : action.conn = some conn := by
    cases acts : action.conn with
    | none =>
        have kept := MCState.idle_conns env q.server after action conn entry effect acts found
        rw [MCState.pointOf, kept, Option.map_some] at ended
        rw [Option.some.inj ended] at unfinished
        cases unfinished
    | some other =>
        obtain ⟨old, there, turn⟩ := MCState.effect_turn env q.server after action other effect acts
        by_cases same : other = conn
        · rw [same]
        · have going := MCState.turn_open env q.server after action other old turn
          rw [alone other old there same] at going
          cases going
  obtain ⟨middle, target, rfl, conns, _, outcome⟩ := MCState.turn_midway env q.before q.server after action conn entry actor
    found unserved stepped clean permitted.2 tidy.marked tidy.sized midway
  obtain rfl : target = .closed := by
    simpa [MCState.pointOf, MCState.set_point_conns, conns, found] using ended
  exact outcome.trans ⟨rfl, rfl, rfl, rfl, rfl⟩

end SerialState

def abortedSteps : List Action := Action.accept (helloBytes 0xAA) :: handshakeSteps 0 false

theorem refused_leaves_no_trace_aborted :
    ∃ (initial : MCState) (q next : SerialState), dualStart = some initial ∧
      Runs.Reach (SerialState.step dualEnv) (fun q action => q.Serial action ∧ q.Undone dualEnv action) (.start initial) q ∧
      q.step dualEnv (.releaseOrphan 0) = some next ∧ q.server.row .v4 clientA = tunnelAddr 2 ∧
      MCState.SameRecords q.before next.server := by
  have observed : ((dualStart.bind fun initial =>
      Runs.execute (SerialState.step dualEnv) (fun q action => q.Serial action ∧ q.Undone dualEnv action) (.start initial)
        abortedSteps).bind fun q => (q.step dualEnv (.releaseOrphan 0)).map fun next => (q, next)).map (fun pair =>
        (pair.1.server.row .v4 clientA, (pair.1.server.pointOf 0).map fun point => (point.ended, point.served),
          (pair.2.server.pointOf 0).map ConnPoint.ended)) =
      some (tunnelAddr 2, some (false, false), some true) := by
    decide +kernel
  obtain ⟨⟨q, next⟩, completed, view⟩ := Option.map_eq_some_iff.mp observed
  obtain ⟨_, ran, stepped⟩ := Option.bind_eq_some_iff.mp completed
  obtain ⟨initial, made, executed⟩ := Option.bind_eq_some_iff.mp ran
  obtain ⟨_, taken, same⟩ := Option.map_eq_some_iff.mp stepped
  cases same
  simp only [Prod.mk.injEq] at view
  obtain ⟨row, running, ended⟩ := view
  obtain ⟨point, reached, going⟩ := Option.map_eq_some_iff.mp running
  obtain ⟨unfinished, unserved⟩ := Prod.mk.inj going
  obtain ⟨last, there, finished⟩ := Option.map_eq_some_iff.mp ended
  obtain rfl : last = .closed := by
    cases last <;> first | rfl | cases finished
  have led := Runs.execute_reach _ _ _ executed
  refine ⟨initial, q, next, made, led, taken, row, ?_⟩
  exact SerialState.refused_leaves_no_trace dualEnv initial q next (.releaseOrphan 0) 0 point (dual_started initial made)
    (fun family => by cases family <;> decide) led ⟨rfl, trivial⟩ taken reached unfinished unserved there

-- Ben has the only address of the first family when Ann connects. Ben is
-- reaped; Ann's next connection is given that address and then fails, and
-- releaseOrphan spares it for the sake of Ann's session.
def abortedLaneSteps : List Action :=
  Action.accept (helloBytes 0xBB) :: handshakeSteps 0 true ++ [Action.acquire 0 0, .attach 0 0, .detach 0 0,
    .accept (helloBytes 0xAA)] ++ handshakeSteps 1 true ++ [Action.acquire 1 0, .attach 1 0, .detach 1 idleTimeout,
    .collect (idleTimeout + 1), .tearDown 0, .accept (helloBytes 0xAA)] ++ handshakeSteps 2 false

theorem refused_connection_leaks :
    ∃ (initial : MCState) (q next : SerialState), dualStart = some initial ∧
      Runs.Reach (SerialState.step dualEnv) SerialState.Serial (.start initial) q ∧
      q.step dualEnv (.releaseOrphan 2) = some next ∧ (q.server.pointOf 2).map ConnPoint.served = some false ∧
      (next.server.pointOf 2).map ConnPoint.ended = some true ∧
      q.before.row .v4 clientA = .zero ∧ next.server.row .v4 clientA = tunnelAddr 2 := by
  have observed : ((dualStart.bind fun initial =>
      Runs.execute (SerialState.step dualEnv) SerialState.Serial (.start initial) abortedLaneSteps).bind fun q =>
        (q.step dualEnv (.releaseOrphan 2)).map fun next => (q, next)).map (fun pair =>
        ((pair.1.server.pointOf 2).map ConnPoint.served, (pair.2.server.pointOf 2).map ConnPoint.ended,
          pair.1.before.row .v4 clientA, pair.2.server.row .v4 clientA)) =
      some (some false, some true, .zero, tunnelAddr 2) := by
    decide +kernel
  obtain ⟨⟨q, next⟩, completed, view⟩ := Option.map_eq_some_iff.mp observed
  obtain ⟨_, ran, stepped⟩ := Option.bind_eq_some_iff.mp completed
  obtain ⟨initial, made, executed⟩ := Option.bind_eq_some_iff.mp ran
  obtain ⟨_, taken, same⟩ := Option.map_eq_some_iff.mp stepped
  cases same
  simp only [Prod.mk.injEq] at view
  obtain ⟨unserved, ended, empty, held⟩ := view
  exact ⟨initial, q, next, made, Runs.execute_reach _ _ _ executed, taken, unserved, ended, empty, held⟩

end Packethose
