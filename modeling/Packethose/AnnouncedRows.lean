import Packethose.Authorization
import Packethose.Routing

set_option autoImplicit false

namespace Packethose

def ConnPoint.settled : ConnPoint → Family → Option (ClientID × Addr)
  | .assigning6 hello _ asg, .v4 => some (hello.clientID, asg.v4Addr)
  | .replying hello asg, family => some (hello.clientID, asg.addr family)
  | .admitted ident, family => some (ident.clientID, ident.assigned family)
  | _, _ => none

def ConnPoint.call : ConnPoint → Option (Family × ClientHello × Option UserDB)
  | .assigning4 hello db => some (.v4, hello, db)
  | .assigning6 hello db _ => some (.v6, hello, db)
  | _ => none

def ConnPoint.Blank : ConnPoint → Prop
  | .assigning6 _ _ asg => asg.v6Addr = .zero
  | _ => True

def ConnPoint.joins (ref : SessionRef) : ConnPoint → Bool
  | .joining target => target == ref
  | _ => false

theorem ConnPoint.joins_joining (point : ConnPoint) (ref : SessionRef) (joins : point.joins ref = true) :
    point = .joining ref := by
  cases point with
  | joining target => rw [beq_iff_eq.mp joins]
  | _ => cases joins

namespace MCState

def row (st : MCState) (family : Family) (clientID : ClientID) : Addr :=
  ((st.pool family).bind fun p => p.byClient.lookup clientID).getD .zero

def Unsettled (st : MCState) (family : Family) (clientID : ClientID) : Prop :=
  ∀ entry ∈ st.conns, (entry.point.settled family).map Prod.fst ≠ some clientID

def Idle (st : MCState) (clientID : ClientID) : Prop :=
  st.sessions.lookup clientID = none ∧ st.Unsettled .v4 clientID ∧ st.Unsettled .v6 clientID

def grants (env : Env) (st : MCState) (family : Family) (hello : ClientHello) (db : Option UserDB) : Bool :=
  match st.pool family with
  | none => false
  | some p =>
      (p.byClient.lookup hello.clientID).isNone &&
        match p.allocateFor env.sha256 hello.userName hello.clientID (hello.request.wanted family) db with
        | some (_, .ok _) => true
        | _ => false

-- A client is given a new address only while no session and no other handshake
-- of that client has settled without it, addresses are given back only while
-- nobody relies on them, and no session is removed between acquireSession and
-- the lane it was acquired for.
def Steady (env : Env) (st : MCState) : Action → Prop
  | .allocate conn =>
      match (st.pointOf conn).bind ConnPoint.call with
      | some (family, hello, db) => st.grants env family hello db = true →
          st.sessions.lookup hello.clientID = none ∧ st.Unsettled family hello.clientID
      | none => True
  | .releaseOrphan conn =>
      match st.pointOf conn with
      | some (.failed clientID) => st.sessions.lookup clientID = none → st.Idle clientID
      | _ => True
  | .quotaRelease conn =>
      match st.pointOf conn with
      | some (.overQuota clientID) => st.Idle clientID
      | _ => True
  | .tearDown ref =>
      match st.heap[ref]? with
      | some s => s.isClosed = false → st.Idle s.id
      | none => True
  | .collect now => ∀ row ∈ Table.rows st.sessions, st.stale now row.2 = true → ∀ entry ∈ st.conns, entry.point.joins row.2 = false
  | .tearDownAll => ∀ row ∈ Table.rows st.sessions, ∀ entry ∈ st.conns, entry.point.joins row.2 = false
  | _ => True

instance (st : MCState) (family : Family) (clientID : ClientID) : Decidable (st.Unsettled family clientID) := by
  unfold Unsettled
  infer_instance

instance (st : MCState) (clientID : ClientID) : Decidable (st.Idle clientID) := by
  unfold Idle
  infer_instance

instance (env : Env) (st : MCState) (action : Action) : Decidable (st.Steady env action) := by
  unfold Steady
  split
  · split <;> infer_instance
  · split <;> infer_instance
  · split <;> infer_instance
  · split <;> infer_instance
  · infer_instance
  · infer_instance
  · infer_instance

structure Rowed (st : MCState) : Prop where
  conns : ∀ entry ∈ st.conns, entry.point.Blank ∧
    ∀ family clientID a, entry.point.settled family = some (clientID, a) → a = st.row family clientID
  live : ∀ clientID ref o, st.sessions.lookup clientID = some ref → st.owner ref = some o →
    ∀ family, o.assigned family = st.row family clientID

section Rows

variable (env : Env) (st next : MCState) (family : Family) (clientID : ClientID)

theorem row_congr (same : next.pool family = st.pool family) : next.row family clientID = st.row family clientID := by
  rw [row, row, same]

theorem row_release (other : ClientID) :
    (st.releaseAll clientID).row family other = if other = clientID then .zero else st.row family other := by
  rw [row, row, release_pool]
  cases st.pool family with
  | none => split_ifs <;> rfl
  | some p =>
      simp only [Option.map_some, Option.bind_some, IPPool.release_lookup]
      split_ifs <;> rfl

theorem row_claim (p : IPPool) (addr : Addr) (other : ClientID)
    (filed : addr.isValid = true → (p.byClient.lookup clientID).getD .zero = addr) :
    ((p.claim clientID addr).byClient.lookup other).getD .zero = (p.byClient.lookup other).getD .zero := by
  unfold IPPool.claim
  split_ifs with invalid wrong4 wrong6
  · rfl
  · rfl
  · rfl
  · rw [IPPool.record, Table.lookup_put]
    split_ifs with same
    · rw [same, filed (Bool.not_eq_false _ ▸ invalid)]
      rfl
    · rfl

theorem row_open (ident : LaneIdentity) (db : Option UserDB) (now : Nat)
    (filed : ident.assigned family = st.row family ident.clientID) :
    (st.openSession ident db now).row family clientID = st.row family clientID := by
  rw [row, open_session_pool]
  cases pooled : st.pool family with
  | none => simp [row, pooled]
  | some p =>
      have known : (p.byClient.lookup ident.clientID).getD .zero = ident.assigned family := by
        rw [filed, row, pooled]
        rfl
      have same := row_claim ident.clientID p (ident.assigned family) clientID fun _ => known
      simpa [row, pooled] using same

end Rows

section Steps

variable (env : Env) (st next : MCState)

theorem rowed_frame (rowed : st.Rowed)
    (conns : ∀ entry ∈ next.conns, (∃ old ∈ st.conns, old.point = entry.point) ∨
      (entry.point.Blank ∧ ∀ family clientID a, entry.point.settled family = some (clientID, a) → a = next.row family clientID))
    (rows : ∀ family clientID, next.row family clientID = st.row family clientID ∨
      (st.sessions.lookup clientID = none ∧ st.Unsettled family clientID))
    (live : ∀ clientID ref, next.sessions.lookup clientID = some ref → st.sessions.lookup clientID = some ref)
    (owner : next.owner = st.owner) : next.Rowed := by
  constructor
  · intro entry member
    rcases conns entry member with ⟨old, before, same⟩ | fresh
    · obtain ⟨blank, settled⟩ := rowed.conns old before
      refine ⟨same ▸ blank, fun family clientID a point => ?_⟩
      rw [← same] at point
      rcases rows family clientID with kept | ⟨_, unsettled⟩
      · rw [kept]
        exact settled family clientID a point
      · exact absurd (by rw [point]; rfl) (unsettled old before)
    · exact fresh
  · intro clientID ref o found owned family
    rw [owner] at owned
    have before := live clientID ref found
    rcases rows family clientID with kept | ⟨absent, _⟩
    · rw [kept]
      exact rowed.live clientID ref o before owned family
    · rw [absent] at before
      cases before

theorem moves_settled (entry : Conn) (old new : ConnPoint) (moves : Moves env st entry old new)
    (blank : old.Blank) (settled : ∀ family clientID a, old.settled family = some (clientID, a) → a = st.row family clientID) :
    new.Blank ∧ ∀ family clientID a, new.settled family = some (clientID, a) → a = st.row family clientID := by
  cases moves with
  | without4 hello db absent =>
      refine ⟨rfl, fun family clientID a point => ?_⟩
      cases family with
      | v4 =>
          obtain ⟨_, rfl⟩ := Prod.mk.inj (Option.some.inj point)
          simp [row, pool, absent, AssignmentResponse.empty]
      | v6 => cases point
  | without6 hello db asg absent =>
      refine ⟨trivial, fun family clientID a point => ?_⟩
      cases family with
      | v4 => exact settled .v4 clientID a point
      | v6 =>
          obtain ⟨_, rfl⟩ := Prod.mk.inj (Option.some.inj point)
          have empty : asg.v6Addr = .zero := blank
          simpa [row, pool, absent, AssignmentResponse.addr] using empty
  | admitted hello asg assigned =>
      refine ⟨trivial, fun family clientID a point => settled family clientID a ?_⟩
      cases family <;> exact point
  | greeted | refused | anonymous | assigning | unassigned | unanswered | unanswerable | owned | joined | overQuota =>
      exact ⟨trivial, fun family clientID a point => by cases point⟩

def filed (result : Except PoolError Addr) : Addr :=
  match result with
  | .ok addr => addr
  | .error _ => .zero

theorem allocate_filed (sha256 : Digest) (p changed : IPPool) (userName : String) (clientID : ClientID) (preferred : Addr)
    (db : Option UserDB) (result : Except PoolError Addr)
    (called : p.allocateFor sha256 userName clientID preferred db = some (changed, result)) :
    (changed.byClient.lookup clientID).getD .zero = filed result ∧
      ∀ other, changed.byClient.lookup other = p.byClient.lookup other ∨
        (other = clientID ∧ p.byClient.lookup clientID = none ∧ ∃ addr, result = .ok addr) := by
  rcases IPPool.allocate_for_cases sha256 p changed userName clientID preferred db result called with
    ⟨cur, held, rfl, rfl⟩ | ⟨absent, addr, _, rfl, rfl⟩ | ⟨absent, rfl, problem, rfl⟩
  · exact ⟨by rw [held]; rfl, fun other => .inl rfl⟩
  · refine ⟨by rw [IPPool.record, Table.lookup_put, if_pos rfl]; rfl, fun other => ?_⟩
    by_cases same : other = clientID
    · exact .inr ⟨same, absent, addr, rfl⟩
    · exact .inl (by rw [IPPool.record, Table.lookup_put, if_neg same])
  · exact ⟨by rw [absent]; rfl, fun other => .inl rfl⟩

theorem assigning_call (point : ConnPoint) (family : Family) (hello : ClientHello) (db : Option UserDB)
    (asg : AssignmentResponse) (assigning : Assigning point family hello db asg) :
    point.call = some (family, hello, db) := by
  cases assigning <;> rfl

theorem answered_settled (point : ConnPoint) (called family : Family) (hello : ClientHello) (db : Option UserDB)
    (asg : AssignmentResponse) (result : Except PoolError Addr) (assigning : Assigning point called hello db asg)
    (blank : point.Blank) (clientID : ClientID) (a : Addr)
    (settled : (assignedPoint hello db (answered env called asg result) called).settled family = some (clientID, a)) :
    (family = called ∧ clientID = hello.clientID ∧ a = filed result) ∨ (family ≠ called ∧ point.settled family = some (clientID, a)) := by
  cases assigning with
  | first =>
      cases family with
      | v4 =>
          obtain ⟨rfl, rfl⟩ := Prod.mk.inj (Option.some.inj settled)
          cases result <;> exact .inl ⟨rfl, rfl, rfl⟩
      | v6 => cases settled
  | second =>
      have empty : asg.v6Addr = .zero := blank
      cases family with
      | v4 =>
          refine .inr ⟨by simp, ?_⟩
          cases result <;> exact settled
      | v6 =>
          obtain ⟨rfl, rfl⟩ := Prod.mk.inj (Option.some.inj settled)
          cases result with
          | ok addr => exact .inl ⟨rfl, rfl, rfl⟩
          | error problem => exact .inl ⟨rfl, rfl, empty⟩

theorem answered_blank (point : ConnPoint) (called : Family) (hello : ClientHello) (db : Option UserDB)
    (asg : AssignmentResponse) (result : Except PoolError Addr) (assigning : Assigning point called hello db asg) :
    (assignedPoint hello db (answered env called asg result) called).Blank := by
  cases assigning with
  | first => cases result <;> rfl
  | second => trivial

theorem rowed_allocated (conn : Nat) (entry : Conn) (called : Family) (hello : ClientHello) (db : Option UserDB)
    (asg : AssignmentResponse) (p changed : IPPool) (result : Except PoolError Addr)
    (found : st.conns[conn]? = some entry) (assigning : Assigning entry.point called hello db asg)
    (pooled : st.pool called = some p)
    (allocated : p.allocateFor env.sha256 hello.userName hello.clientID (hello.request.wanted called) db = some (changed, result))
    (steady : st.Steady env (.allocate conn)) (rowed : st.Rowed) :
    (((st.noteAllocation conn hello).setPool (some changed) called).setPoint conn
      (assignedPoint hello db (answered env called asg result) called)).Rowed := by
  obtain ⟨own, others⟩ := allocate_filed env.sha256 p changed hello.userName hello.clientID (hello.request.wanted called) db
    result allocated
  obtain ⟨blank, settled⟩ := rowed.conns entry (List.mem_of_getElem? found)
  have reached : (st.pointOf conn).bind ConnPoint.call = some (called, hello, db) := by
    rw [pointOf, found, Option.map_some, Option.bind_some, assigning_call entry.point called hello db asg assigning]
  simp only [Steady, reached] at steady
  have conns : ((st.noteAllocation conn hello).setPool (some changed) called).conns = st.conns := by cases called <;> rfl
  apply rowed_frame st _ rowed
  · intro other member
    rcases set_point_mem _ conn _ other member with earlier | ⟨old, stored, rfl⟩
    · exact .inl ⟨other, conns ▸ earlier, rfl⟩
    · refine .inr ⟨answered_blank env entry.point called hello db asg result assigning, fun family clientID a point => ?_⟩
      rcases answered_settled env entry.point called family hello db asg result assigning blank clientID a point with
        ⟨rfl, rfl, rfl⟩ | ⟨different, before⟩
      · rw [row, allocated_pool, if_pos rfl]
        exact own.symm
      · rw [row_congr st _ family clientID (by rw [allocated_pool, if_neg different])]
        exact settled family clientID a before
  · intro family clientID
    by_cases here : family = called
    · subst here
      rcases others clientID with same | ⟨rfl, absent, addr, rfl⟩
      · refine .inl ?_
        rw [row, row, allocated_pool, if_pos rfl, pooled, Option.bind_some, Option.bind_some, same]
      · exact .inr (steady (by simp [grants, pooled, absent, allocated]))
    · exact .inl (row_congr st _ family clientID (by rw [allocated_pool, if_neg here]))
  · cases called <;> exact fun _ _ live => live
  · cases called <;> rfl

theorem rowed_released (clientID : ClientID) (idle : st.Idle clientID) (rowed : st.Rowed) : (st.releaseAll clientID).Rowed := by
  apply rowed_frame st _ rowed
  · exact fun entry member => .inl ⟨entry, member, rfl⟩
  · intro family other
    by_cases same : other = clientID
    · subst same
      exact .inr ⟨idle.1, by cases family; exact idle.2.1; exact idle.2.2⟩
    · exact .inl (by rw [row_release, if_neg same])
  · exact fun _ _ live => live
  · rfl

theorem rowed_pointed (conn : Nat) (point : ConnPoint) (quiet : point.Blank ∧ ∀ family, point.settled family = none)
    (rowed : st.Rowed) : (st.setPoint conn point).Rowed := by
  apply rowed_frame st _ rowed
  · intro entry member
    rcases set_point_mem st conn point entry member with earlier | ⟨old, _, rfl⟩
    · exact .inl ⟨entry, earlier, rfl⟩
    · refine .inr ⟨quiet.1, fun family clientID a settled => ?_⟩
      rw [quiet.2 family] at settled
      cases settled
  · exact fun family clientID => .inl (by cases family <;> rfl)
  · exact fun _ _ live => live
  · rfl

theorem rowed_quiet (pool4 : next.pool4 = st.pool4) (pool6 : next.pool6 = st.pool6)
    (sessions : ∀ clientID ref, next.sessions.lookup clientID = some ref → st.sessions.lookup clientID = some ref)
    (owner : next.owner = st.owner) (conns : next.conns = st.conns) (rowed : st.Rowed) : next.Rowed := by
  apply rowed_frame st next rowed
  · exact fun entry member => .inl ⟨entry, conns ▸ member, rfl⟩
  · intro family clientID
    exact .inl (row_congr st next family clientID (by cases family <;> assumption))
  · exact sessions
  · exact owner

theorem rowed_opened (conn now : Nat) (entry : Conn) (ident : LaneIdentity) (db : Option UserDB)
    (found : st.conns[conn]? = some entry) (admitted : entry.point = .admitted ident) (owners : st.LiveOwners) (rowed : st.Rowed) :
    ((st.openSession ident db now).setPoint conn (.joining st.heap.length)).Rowed := by
  obtain ⟨_, sessions, conns, _⟩ := open_session_frame st ident db now
  have told : ∀ family, ident.assigned family = st.row family ident.clientID := fun family =>
    (rowed.conns entry (List.mem_of_getElem? found)).2 family ident.clientID _ (by rw [admitted]; rfl)
  have rows : ∀ family clientID, ((st.openSession ident db now).setPoint conn (.joining st.heap.length)).row family clientID =
      st.row family clientID := by
    intro family clientID
    rw [← row_open st family clientID ident db now (told family)]
    cases family <;> rfl
  constructor
  · intro other member
    rcases set_point_mem _ conn _ other member with earlier | ⟨old, _, rfl⟩
    · rw [conns] at earlier
      obtain ⟨blank, settled⟩ := rowed.conns other earlier
      exact ⟨blank, fun family clientID a point => (settled family clientID a point).trans (rows family clientID).symm⟩
    · exact ⟨trivial, fun family clientID a point => by cases point⟩
  · intro clientID ref o live owned family
    change (st.openSession ident db now).sessions.lookup clientID = some ref at live
    change (st.openSession ident db now).owner ref = some o at owned
    rw [sessions, Table.lookup_put] at live
    rw [open_session_owner] at owned
    rw [rows]
    split_ifs at live with same
    · rw [if_pos (Option.some.inj live).symm] at owned
      obtain rfl := Option.some.inj owned
      rw [same, ← told family]
      cases family <;> rfl
    · obtain ⟨before, stored, _⟩ := owners clientID ref live
      rw [if_neg (owner_older st ref before stored)] at owned
      exact rowed.live clientID ref o live owned family

theorem releasing_idle (action : Action) (conn : Nat) (entry : Conn) (clientID : ClientID) (actor : action.conn = some conn)
    (found : st.conns[conn]? = some entry) (point : ConnPoint) (here : entry.point = point)
    (releasing : Releasing st action point clientID) (steady : st.Steady env action) : st.Idle clientID := by
  have reached : st.pointOf conn = some point := by rw [pointOf, found, Option.map_some, here]
  cases releasing with
  | orphan other _ free =>
      obtain rfl : other = conn := Option.some.inj actor
      simp only [Steady, reached] at steady
      exact steady free
  | quota other _ =>
      obtain rfl : other = conn := Option.some.inj actor
      simpa only [Steady, reached] using steady

theorem effect_rowed (action : Action) (effect : Effect env st action next) (steady : st.Steady env action)
    (owners : st.LiveOwners) (rowed : st.Rowed) : next.Rowed := by
  have table := effect_sessions env st next action effect
  cases effect with
  | accepted input =>
      apply rowed_frame st _ rowed
      · intro entry member
        rcases List.mem_append.mp member with earlier | last
        · exact .inl ⟨entry, earlier, rfl⟩
        · rw [List.mem_singleton.mp last]
          exact .inr ⟨trivial, fun family clientID a settled => by cases settled⟩
      · exact fun family clientID => .inl (by cases family <;> rfl)
      · exact fun _ _ live => live
      · rfl
  | moved _ conn entry point _ found moves =>
      obtain ⟨blank, settled⟩ := rowed.conns entry (List.mem_of_getElem? found)
      have moved := moves_settled env st entry entry.point point moves blank settled
      apply rowed_frame st _ rowed
      · intro other member
        rcases set_point_mem st conn point other member with earlier | ⟨old, _, rfl⟩
        · exact .inl ⟨other, earlier, rfl⟩
        · exact .inr ⟨moved.1, fun family clientID a place => (moved.2 family clientID a place).trans (by cases family <;> rfl)⟩
      · exact fun family clientID => .inl (by cases family <;> rfl)
      · exact fun _ _ live => live
      · rfl
  | allocated conn entry called hello db asg p changed result found assigning pooled allocated =>
      exact rowed_allocated env st conn entry called hello db asg p changed result found assigning pooled allocated steady rowed
  | released _ conn entry clientID actor found releasing =>
      have idle := releasing_idle env st action conn entry clientID actor found entry.point rfl releasing steady
      exact rowed_pointed _ conn .closed ⟨trivial, fun family => by cases family <;> rfl⟩ (rowed_released st clientID idle rowed)
  | opened conn now entry ident db found admitted absent slot =>
      exact rowed_opened st conn now entry ident db found admitted owners rowed
  | laned _ conn entry ref s change _ found stored changed =>
      obtain ⟨pool4, pool6, sessions, _⟩ := lane_change_frame st conn ref s action entry.point change next changed
      have owner := lane_change_owner st conn ref s action entry.point change next changed
      have moved : next.conns = st.conns ∨ ∃ point : ConnPoint, (point.Blank ∧ ∀ family, point.settled family = none) ∧
          next.conns = (st.setPoint conn point).conns := by
        generalize entry.point = point at changed
        cases changed with
        | attach => exact .inr ⟨.attached ref (s.nextLane % st.readers.length), ⟨trivial, fun family => by cases family <;> rfl⟩, rfl⟩
        | laneRead => exact .inl rfl
        | detach => exact .inr ⟨.closed, ⟨trivial, fun family => by cases family <;> rfl⟩, rfl⟩
      rcases moved with same | ⟨point, quiet, same⟩
      · exact rowed_quiet st next pool4 pool6 (fun _ _ live => sessions ▸ live) owner same rowed
      · exact rowed_quiet (st.setPoint conn point) next pool4 pool6 (fun _ _ live => sessions ▸ live) owner same
          (rowed_pointed st conn point quiet rowed)
  | collected | cleared =>
      obtain ⟨shrunk, same⟩ | ⟨_, _, _, _, _, impossible, _⟩ := table
      · exact rowed_quiet st _ rfl rfl shrunk same rfl rowed
      · cases impossible
  | torn ref s db waiting stored first slot =>
      simp only [Steady, stored] at steady
      have silent : ((st.forget ref).setSession ref Session.tornDown).Rowed :=
        rowed_quiet st _ rfl rfl (fun _ _ live => live) (set_session_owner (st.forget ref) ref _ fun _ => rfl) rfl rowed
      have idle : ((st.forget ref).setSession ref Session.tornDown).Idle s.id := steady first
      have released := rowed_released ((st.forget ref).setSession ref Session.tornDown) s.id idle silent
      exact rowed_quiet (((st.forget ref).setSession ref Session.tornDown).releaseAll s.id) _ rfl rfl (fun _ _ live => live)
        rfl rfl released
  | queued reader packet ref =>
      exact rowed_quiet st _ rfl rfl (fun _ _ live => live)
        (set_session_owner (st.setReader reader none) ref _ fun _ => rfl) rfl rowed
  | tornAgain | reloaded | unreloaded | ignored | matched | dropped =>
      exact rowed_quiet st _ rfl rfl (fun _ _ live => live) rfl rfl rowed

end Steps

end MCState

end Packethose
