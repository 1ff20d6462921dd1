import Packethose.PoolHistory
import Packethose.SessionEffects

set_option autoImplicit false

namespace Packethose

def ConnPoint.carried : ConnPoint → Family → Addr
  | .assigning6 _ _ asg, family => asg.addr family
  | .replying _ asg, family => asg.addr family
  | .admitted ident, family => ident.assigned family
  | _, _ => .zero

namespace MCState

-- Between the handshake and acquireSession nothing protects an address, and
-- tearDown and a quota failure free whatever the client id holds by then. The
-- steps below are those that meet no such overlap: a new session brings
-- addresses nobody else holds, and a release finds no session of its client.
def Undisturbed (st : MCState) : Action → Prop
  | .acquire conn _ => ∀ ident, st.pointOf conn = some (.admitted ident) → st.sessions.lookup ident.clientID = none →
      ∀ family p, st.pool family = some p → (ident.assigned family).isValid = true →
        ∀ other, p.byClient.lookup other = some (ident.assigned family) → other = ident.clientID
  | .quotaRelease conn => ∀ clientID, st.pointOf conn = some (.overQuota clientID) → st.sessions.lookup clientID = none
  | .tearDown ref => ∀ s, st.heap[ref]? = some s → s.isClosed = false → st.sessions.lookup s.id = none
  | _ => True

def undisturbedTest (st : MCState) : Action → Bool
  | .acquire conn _ =>
      match st.pointOf conn with
      | some (.admitted ident) =>
          (st.sessions.lookup ident.clientID).isSome || [Family.v4, .v6].all fun family =>
            match st.pool family with
            | none => true
            | some p => !(ident.assigned family).isValid ||
                (Table.rows p.byClient).all fun row => row.2 != ident.assigned family || row.1 == ident.clientID
      | _ => true
  | .quotaRelease conn =>
      match st.pointOf conn with
      | some (.overQuota clientID) => (st.sessions.lookup clientID).isNone
      | _ => true
  | .tearDown ref =>
      match st.heap[ref]? with
      | some s => s.isClosed || (st.sessions.lookup s.id).isNone
      | none => true
  | _ => true

theorem unheld_test (p : IPPool) (addr : Addr) (clientID : ClientID) :
    ((Table.rows p.byClient).all fun row => row.2 != addr || row.1 == clientID) = true ↔
      ∀ other, p.byClient.lookup other = some addr → other = clientID := by
  simp only [List.all_eq_true, Bool.or_eq_true, bne_iff_ne, beq_iff_eq]
  constructor
  · intro rows other held
    exact (rows (other, addr) ((Table.mem_rows _ _ _).mpr held)).resolve_left fun different => different rfl
  · intro unheld row member
    by_cases same : row.2 = addr
    · exact .inr (unheld row.1 (same ▸ (Table.mem_rows _ _ _).mp member))
    · exact .inl same

theorem family_test (st : MCState) (ident : LaneIdentity) (family : Family) :
    (match st.pool family with
      | none => true
      | some p => !(ident.assigned family).isValid ||
          (Table.rows p.byClient).all fun row => row.2 != ident.assigned family || row.1 == ident.clientID) = true ↔
      ∀ p, st.pool family = some p → (ident.assigned family).isValid = true →
        ∀ other, p.byClient.lookup other = some (ident.assigned family) → other = ident.clientID := by
  cases st.pool family with
  | none => simp
  | some p =>
      simp only [Bool.or_eq_true, unheld_test, Bool.not_eq_true', Option.some.injEq, forall_eq']
      cases (ident.assigned family).isValid <;> simp

theorem undisturbed_test (st : MCState) (action : Action) : st.undisturbedTest action = true ↔ st.Undisturbed action := by
  cases action with
  | acquire conn now =>
      simp only [undisturbedTest, Undisturbed]
      split
      · rename_i ident reached
        simp only [Bool.or_eq_true, List.all_eq_true, family_test, reached, Option.some.injEq, ConnPoint.admitted.injEq,
          forall_eq']
        cases st.sessions.lookup ident.clientID with
        | none => exact ⟨fun test _ family => (test.resolve_left (by simp)) family (by cases family <;> simp),
            fun unheld => .inr fun family _ => unheld rfl family⟩
        | some ref => simp
      · rename_i other
        exact ⟨fun _ ident reached => absurd reached (other ident), fun _ => rfl⟩
  | quotaRelease conn =>
      simp only [undisturbedTest, Undisturbed]
      split
      · rename_i clientID reached
        simp [reached]
      · rename_i other
        exact ⟨fun _ clientID reached => absurd reached (other clientID), fun _ => rfl⟩
  | tearDown ref =>
      simp only [undisturbedTest, Undisturbed]
      cases st.heap[ref]? with
      | none => simp
      | some s => cases closed : s.isClosed <;> simp [closed]
  | _ => exact ⟨fun _ => trivial, fun _ => rfl⟩

instance (st : MCState) (action : Action) : Decidable (st.Undisturbed action) :=
  decidable_of_iff _ (undisturbed_test st action)

structure Holding (st : MCState) (family : Family) (ledger : Ledger ClientID Addr) : Prop where
  covers : ∀ p, st.pool family = some p → p.Covers ledger
  live : ∀ clientID ref o, st.sessions.lookup clientID = some ref → st.owner ref = some o →
    (o.assigned family).isValid = true → (st.pool family).isSome ∧ ledger.holds clientID = some (o.assigned family)
  carried : ∀ entry ∈ st.conns, (entry.point.carried family).isValid = true →
    ∃ p, st.pool family = some p ∧ p.subnet.contains (entry.point.carried family) = true

section Steps

variable (env : Env) (st next : MCState) (family : Family) (ledger : Ledger ClientID Addr)

theorem moves_carried (entry : Conn) (old new : ConnPoint) (moves : Moves env st entry old new)
    (valid : (new.carried family).isValid = true) : new.carried family = old.carried family := by
  cases moves with
  | without6 | admitted => cases family <;> rfl
  | without4 => cases family <;> cases valid
  | greeted | refused | anonymous | assigning | unassigned | unanswered | unanswerable | owned | joined | overQuota =>
      cases valid

theorem holding_frame (holding : st.Holding family ledger) (pool : next.pool family = st.pool family)
    (sessions : ∀ clientID ref, next.sessions.lookup clientID = some ref → st.sessions.lookup clientID = some ref)
    (owner : next.owner = st.owner)
    (conns : ∀ entry ∈ next.conns, (entry.point.carried family).isValid = true →
      ∃ old ∈ st.conns, old.point.carried family = entry.point.carried family) : next.Holding family ledger := by
  refine ⟨?_, ?_, ?_⟩
  · rw [pool]
    exact holding.covers
  · rw [pool, owner]
    exact fun clientID ref o live => holding.live clientID ref o (sessions clientID ref live)
  · intro entry member valid
    obtain ⟨old, before, same⟩ := conns entry member valid
    rw [pool, ← same]
    exact holding.carried old before (same ▸ valid)

theorem set_point_carried (conn : Nat) (point : ConnPoint) (before : MCState) (same : before.conns = st.conns)
    (kept : ∀ old, st.conns[conn]? = some old → (point.carried family).isValid = true →
      point.carried family = old.point.carried family) :
    ∀ entry ∈ (before.setPoint conn point).conns, (entry.point.carried family).isValid = true →
      ∃ old ∈ st.conns, old.point.carried family = entry.point.carried family := by
  intro entry member valid
  rcases set_point_mem before conn point entry member with earlier | ⟨old, found, rfl⟩
  · exact ⟨entry, same ▸ earlier, rfl⟩
  · rw [same] at found
    exact ⟨old, List.mem_of_getElem? found, (kept old found valid).symm⟩

theorem holding_moved (conn : Nat) (entry : Conn) (point : ConnPoint) (found : st.conns[conn]? = some entry)
    (moves : Moves env st entry entry.point point) (holding : st.Holding family ledger) :
    (st.setPoint conn point).Holding family ledger := by
  refine holding_frame st _ family ledger holding (by cases family <;> rfl) (fun _ _ live => live) rfl
    (set_point_carried st family conn point st rfl fun old stored valid => ?_)
  obtain rfl : entry = old := Option.some.inj (found.symm.trans stored)
  exact moves_carried env st family entry entry.point point moves valid

theorem release_pool (clientID : ClientID) :
    (st.releaseAll clientID).pool family = (st.pool family).map fun p => p.release clientID := by
  cases family <;> rfl

theorem release_subnet (p : IPPool) (clientID : ClientID) : (p.release clientID).subnet = p.subnet := by
  unfold IPPool.release
  cases p.byClient.lookup clientID <;> rfl

theorem holding_released (clientID : ClientID) (free : st.sessions.lookup clientID = none)
    (holding : st.Holding family ledger) : (st.releaseAll clientID).Holding family (ledger.release clientID) := by
  refine ⟨?_, ?_, ?_⟩
  · intro after pooled
    rw [release_pool] at pooled
    obtain ⟨p, before, rfl⟩ := Option.map_eq_some_iff.mp pooled
    exact IPPool.release_covers p ledger clientID (holding.covers p before)
  · intro other ref o live owned valid
    obtain ⟨present, held⟩ := holding.live other ref o live owned valid
    have different : other ≠ clientID := by
      rintro rfl
      exact absurd (free.symm.trans live) (by simp)
    refine ⟨by rw [release_pool]; simpa using present, ?_⟩
    rw [Ledger.release_holds, if_neg different, held]
  · intro entry member valid
    obtain ⟨p, before, inside⟩ := holding.carried entry member valid
    exact ⟨p.release clientID, by rw [release_pool, before]; rfl, by rw [release_subnet]; exact inside⟩

theorem assigned_carried (hello : ClientHello) (db : Option UserDB) (asg : AssignmentResponse) (called : Family) :
    (assignedPoint hello db asg called).carried family = asg.addr family := by
  cases called <;> rfl

theorem answered_addr (called : Family) (asg : AssignmentResponse) (result : Except PoolError Addr) :
    (answered env called asg result).addr family = asg.addr family ∨
      (called = family ∧ result = .ok ((answered env called asg result).addr family)) := by
  cases result with
  | error problem => exact .inl rfl
  | ok addr => cases called <;> cases family <;> first | exact .inl rfl | exact .inr ⟨rfl, rfl⟩

theorem assigning_carried (point : ConnPoint) (called : Family) (hello : ClientHello) (db : Option UserDB)
    (asg : AssignmentResponse) (assigning : Assigning point called hello db asg) (valid : (asg.addr family).isValid = true) :
    point.carried family = asg.addr family := by
  cases assigning with
  | first => cases family <;> cases valid
  | second => rfl

theorem holding_updated (after : Ledger ClientID Addr) (p changed : IPPool) (holding : st.Holding family ledger)
    (pooled : st.pool family = some p) (pool : next.pool family = some changed) (covers : changed.Covers after)
    (subnet : changed.subnet = p.subnet) (sessions : next.sessions = st.sessions) (owner : next.owner = st.owner)
    (kept : ∀ clientID held, ledger.holds clientID = some held → after.holds clientID = some held)
    (conns : ∀ entry ∈ next.conns, (entry.point.carried family).isValid = true →
      (∃ old ∈ st.conns, old.point.carried family = entry.point.carried family) ∨
        p.subnet.contains (entry.point.carried family) = true) : next.Holding family after := by
  refine ⟨?_, ?_, ?_⟩
  · intro found same
    obtain rfl : changed = found := Option.some.inj (pool.symm.trans same)
    exact covers
  · rw [sessions, owner, pool]
    exact fun clientID ref o live owned valid => ⟨rfl, kept clientID _ (holding.live clientID ref o live owned valid).2⟩
  · intro entry member valid
    refine ⟨changed, pool, ?_⟩
    rw [subnet]
    rcases conns entry member valid with ⟨old, before, same⟩ | inside
    · obtain ⟨found, stored, inside⟩ := holding.carried old before (same ▸ valid)
      obtain rfl : p = found := Option.some.inj (pooled.symm.trans stored)
      exact same ▸ inside
    · exact inside

theorem allocated_pool (conn : Nat) (hello : ClientHello) (changed : Option IPPool) (called : Family) (point : ConnPoint) :
    (((st.noteAllocation conn hello).setPool changed called).setPoint conn point).pool family =
      if family = called then changed else st.pool family := by
  cases called <;> cases family <;> rfl

theorem allocated_carried (conn : Nat) (entry : Conn) (called : Family) (hello : ClientHello) (db : Option UserDB)
    (asg : AssignmentResponse) (changed : IPPool) (result : Except PoolError Addr) (found : st.conns[conn]? = some entry)
    (assigning : Assigning entry.point called hello db asg) :
    ∀ other ∈ (((st.noteAllocation conn hello).setPool (some changed) called).setPoint conn
      (assignedPoint hello db (answered env called asg result) called)).conns, (other.point.carried family).isValid = true →
      (∃ old ∈ st.conns, old.point.carried family = other.point.carried family) ∨
        (called = family ∧ result = .ok (other.point.carried family)) := by
  have same : ((st.noteAllocation conn hello).setPool (some changed) called).conns = st.conns := by cases called <;> rfl
  intro other member valid
  rcases set_point_mem _ conn _ other member with earlier | ⟨old, stored, rfl⟩
  · exact .inl ⟨other, same ▸ earlier, rfl⟩
  · rw [same] at stored
    obtain rfl : entry = old := Option.some.inj (found.symm.trans stored)
    rw [assigned_carried] at valid ⊢
    rcases answered_addr env family called asg result with before | fresh
    · rw [before] at valid ⊢
      exact .inl ⟨entry, List.mem_of_getElem? found, assigning_carried family _ called hello db asg assigning valid⟩
    · exact .inr fresh

theorem holding_allocated (conn : Nat) (entry : Conn) (called : Family) (hello : ClientHello) (db : Option UserDB)
    (asg : AssignmentResponse) (p changed : IPPool) (result : Except PoolError Addr)
    (found : st.conns[conn]? = some entry) (assigning : Assigning entry.point called hello db asg)
    (pooled : st.pool called = some p)
    (allocated : p.allocateFor env.sha256 hello.userName hello.clientID (hello.request.wanted called) db = some (changed, result))
    (holding : st.Holding family ledger) :
    ∃ after, (((st.noteAllocation conn hello).setPool (some changed) called).setPoint conn
      (assignedPoint hello db (answered env called asg result) called)).Holding family after := by
  have points := allocated_carried env st family conn entry called hello db asg changed result found assigning
  by_cases here : called = family
  · subst here
    obtain ⟨after, covers, subnet, kept, inside⟩ := IPPool.allocate_covers env.sha256 p changed hello.userName hello.clientID
      (hello.request.wanted called) db result allocated ledger (holding.covers p pooled)
    exact ⟨after, holding_updated st _ called ledger after p changed holding pooled (by rw [allocated_pool, if_pos rfl]) covers
      subnet (by cases called <;> rfl) (by cases called <;> rfl) kept
      fun other member valid => (points other member valid).imp id fun fresh => inside _ fresh.2⟩
  · refine ⟨ledger, holding_frame st _ family ledger holding (by rw [allocated_pool, if_neg (Ne.symm here)])
      (by cases called <;> exact fun _ _ live => live) (by cases called <;> rfl) fun other member valid => ?_⟩
    exact (points other member valid).resolve_right fun fresh => here fresh.1

theorem claim_inside (p : IPPool) (clientID : ClientID) (addr : Addr) (inside : p.subnet.contains addr = true) :
    p.claim clientID addr = p.record clientID addr := by
  have matched := IPPool.inside_family p addr inside
  unfold IPPool.familyMatch at matched
  unfold IPPool.claim
  split_ifs at matched with invalid four
  · rw [if_neg invalid, if_neg (by simp [four, matched]), if_neg (by simp [four])]
  · rw [if_neg invalid, if_neg (by simp [four]), if_neg (by simp [matched])]

theorem claim_subnet (p : IPPool) (clientID : ClientID) (addr : Addr) : (p.claim clientID addr).subnet = p.subnet := by
  unfold IPPool.claim
  split_ifs <;> rfl

theorem opened_ledger (now : Nat) (entry : Conn) (ident : LaneIdentity) (db : Option UserDB)
    (member : entry ∈ st.conns) (admitted : entry.point = .admitted ident)
    (unheld : ∀ p, st.pool family = some p → (ident.assigned family).isValid = true →
      ∀ other, p.byClient.lookup other = some (ident.assigned family) → other = ident.clientID)
    (holding : st.Holding family ledger) :
    ∃ after : Ledger ClientID Addr,
      (∀ p, (st.openSession ident db now).pool family = some p → p.Covers after) ∧
      (∀ clientID, clientID ≠ ident.clientID → after.holds clientID = ledger.holds clientID) ∧
      ((ident.assigned family).isValid = true →
        (st.pool family).isSome ∧ after.holds ident.clientID = some (ident.assigned family)) := by
  have carries : entry.point.carried family = ident.assigned family := by rw [admitted]; rfl
  by_cases valid : (ident.assigned family).isValid = true
  · obtain ⟨p, pooled, inside⟩ := holding.carried entry member (carries ▸ valid)
    rw [carries] at inside
    have covers := holding.covers p pooled
    have free : ∀ other, ledger.holds other = some (ident.assigned family) → other = ident.clientID :=
      fun other held => unheld p pooled valid other (by rw [covers.holds, held])
    refine ⟨ledger.grant ident.clientID (ident.assigned family) free, ?_, ?_, ?_⟩
    · intro changed same
      rw [open_session_pool, pooled, Option.map_some, claim_inside p _ _ inside] at same
      exact Option.some.inj same ▸ IPPool.record_covers p ledger _ _ covers inside free
    · exact fun clientID different => by rw [Ledger.grant_holds, if_neg different]
    · exact fun _ => ⟨by rw [pooled]; rfl, by rw [Ledger.grant_holds, if_pos rfl]⟩
  · refine ⟨ledger, fun p same => ?_, fun _ _ => rfl, fun present => absurd present valid⟩
    simp only [open_session_pool, claim_invalid _ _ _ valid, Option.map_id'] at same
    exact holding.covers p same

theorem holding_opened (conn now : Nat) (entry : Conn) (ident : LaneIdentity) (db : Option UserDB)
    (found : st.conns[conn]? = some entry) (admitted : entry.point = .admitted ident)
    (unheld : ∀ p, st.pool family = some p → (ident.assigned family).isValid = true →
      ∀ other, p.byClient.lookup other = some (ident.assigned family) → other = ident.clientID)
    (owners : st.LiveOwners) (holding : st.Holding family ledger) :
    ∃ after, ((st.openSession ident db now).setPoint conn (.joining st.heap.length)).Holding family after := by
  obtain ⟨_, sessions, conns, _⟩ := open_session_frame st ident db now
  obtain ⟨after, cover, kept, taken⟩ :=
    opened_ledger st family ledger now entry ident db (List.mem_of_getElem? found) admitted unheld holding
  refine ⟨after, ?_, ?_, ?_⟩
  · exact fun p pooled => cover p (by cases family <;> exact pooled)
  · intro clientID ref o live owned valid
    change (st.openSession ident db now).sessions.lookup clientID = some ref at live
    change (st.openSession ident db now).owner ref = some o at owned
    rw [sessions, Table.lookup_put] at live
    rw [open_session_owner] at owned
    have present : (((st.openSession ident db now).setPoint conn (.joining st.heap.length)).pool family).isSome =
        (st.pool family).isSome := by
      have pools := open_session_pool st ident db now family
      cases family <;> exact (congrArg Option.isSome pools).trans Option.isSome_map
    rw [present]
    split_ifs at live with same
    · rw [if_pos (Option.some.inj live).symm] at owned
      obtain rfl := Option.some.inj owned
      have assigned : Owner.assigned ⟨ident.clientID, ident.assigned4, ident.assigned6⟩ family = ident.assigned family := by
        cases family <;> rfl
      rw [assigned] at valid ⊢
      exact same ▸ taken valid
    · obtain ⟨before, stored, _⟩ := owners clientID ref live
      rw [if_neg (owner_older st ref before stored)] at owned
      rw [kept clientID same]
      exact holding.live clientID ref o live owned valid
  · intro other member valid
    rcases set_point_mem _ conn _ other member with earlier | ⟨old, _, rfl⟩
    · rw [conns] at earlier
      obtain ⟨p, pooled, inside⟩ := holding.carried other earlier valid
      have pools := open_session_pool st ident db now family
      rw [pooled, Option.map_some] at pools
      refine ⟨p.claim ident.clientID (ident.assigned family), by cases family <;> exact pools, ?_⟩
      rw [claim_subnet]
      exact inside
    · cases valid

theorem releasing_free (action : Action) (conn : Nat) (entry : Conn) (clientID : ClientID) (actor : action.conn = some conn)
    (found : st.conns[conn]? = some entry) (point : ConnPoint) (here : entry.point = point)
    (releasing : Releasing st action point clientID) (permitted : st.Undisturbed action) :
    st.sessions.lookup clientID = none := by
  cases releasing with
  | orphan _ _ free => exact free
  | quota other _ =>
      obtain rfl : other = conn := Option.some.inj actor
      exact permitted clientID (by rw [pointOf, found, ← here]; rfl)

theorem holding_quiet (holding : st.Holding family ledger) (pool4 : next.pool4 = st.pool4) (pool6 : next.pool6 = st.pool6)
    (sessions : next.sessions = st.sessions) (owner : next.owner = st.owner) (conns : next.conns = st.conns) :
    next.Holding family ledger := by
  refine holding_frame st next family ledger holding (by cases family <;> assumption) (fun _ _ live => sessions ▸ live)
    owner fun entry member _ => ⟨entry, conns ▸ member, rfl⟩

theorem holding_closed (conn : Nat) (holding : st.Holding family ledger) :
    (st.setPoint conn .closed).Holding family ledger :=
  holding_frame st _ family ledger holding (by cases family <;> rfl) (fun _ _ live => live) rfl
    (set_point_carried st family conn .closed st rfl fun _ _ valid => by cases valid)

theorem holding_laned (conn : Nat) (ref : SessionRef) (s : Session) (action : Action) (point : ConnPoint)
    (change : Session → Session) (changed : LaneChange st conn ref s action point change next)
    (holding : st.Holding family ledger) : next.Holding family ledger := by
  obtain ⟨pool4, pool6, sessions, _⟩ := lane_change_frame st conn ref s action point change next changed
  refine holding_frame st next family ledger holding (by cases family <;> assumption) (fun _ _ live => sessions ▸ live)
    (lane_change_owner st conn ref s action point change next changed) ?_
  cases changed with
  | attach => exact set_point_carried st family conn _ (st.setSession ref _) rfl fun _ _ valid => by cases valid
  | laneRead => exact fun entry member _ => ⟨entry, member, rfl⟩
  | detach => exact set_point_carried st family conn _ (st.setSession ref _) rfl fun _ _ valid => by cases valid

theorem effect_holding (action : Action) (effect : Effect env st action next) (permitted : st.Undisturbed action)
    (owners : st.LiveOwners) (holding : st.Holding family ledger) : ∃ after, next.Holding family after := by
  have table := effect_sessions env st next action effect
  cases effect with
  | accepted input =>
      refine ⟨ledger, holding_frame st _ family ledger holding (by cases family <;> rfl) (fun _ _ live => live) rfl ?_⟩
      intro entry member valid
      rcases List.mem_append.mp member with earlier | last
      · exact ⟨entry, earlier, rfl⟩
      · rw [List.mem_singleton.mp last] at valid
        cases valid
  | moved _ conn entry point _ found moves => exact ⟨ledger, holding_moved env st family ledger conn entry point found moves holding⟩
  | allocated conn entry called hello db asg p changed result found assigning pooled allocated =>
      exact holding_allocated env st family ledger conn entry called hello db asg p changed result found assigning pooled
        allocated holding
  | released _ conn entry clientID actor found releasing =>
      have free := releasing_free st action conn entry clientID actor found entry.point rfl releasing permitted
      exact ⟨_, holding_closed _ family _ conn (holding_released st family ledger clientID free holding)⟩
  | opened conn now entry ident db found admitted absent slot =>
      exact holding_opened st family ledger conn now entry ident db found admitted
        (permitted ident (by rw [pointOf, found, ← admitted]; rfl) absent family) owners holding
  | laned _ conn entry ref s change _ found stored changed =>
      exact ⟨ledger, holding_laned st next family ledger conn ref s action entry.point change changed holding⟩
  | collected | cleared =>
      obtain ⟨shrunk, same⟩ | ⟨_, _, _, _, _, impossible, _⟩ := table
      · exact ⟨ledger, holding_frame st _ family ledger holding (by cases family <;> rfl) shrunk same
          fun entry member _ => ⟨entry, member, rfl⟩⟩
      · cases impossible
  | torn ref s db waiting stored first slot =>
      have silent : ((st.forget ref).setSession ref Session.tornDown).Holding family ledger :=
        holding_quiet st _ family ledger holding rfl rfl rfl (set_session_owner (st.forget ref) ref _ fun _ => rfl) rfl
      have free : ((st.forget ref).setSession ref Session.tornDown).sessions.lookup s.id = none := permitted s stored first
      exact ⟨_, holding_quiet _ _ family _ (holding_released _ family ledger s.id free silent) rfl rfl rfl rfl rfl⟩
  | queued reader packet ref =>
      exact ⟨ledger, holding_quiet st _ family ledger holding rfl rfl rfl
        (set_session_owner (st.setReader reader none) ref _ fun _ => rfl) rfl⟩
  | tornAgain | reloaded | unreloaded | ignored | matched | dropped =>
      exact ⟨ledger, holding_quiet st _ family ledger holding rfl rfl rfl rfl rfl⟩

end Steps

def PoolsKept (st : MCState) : Prop := st.LiveOwners ∧ ∀ family, ∃ ledger, st.Holding family ledger

theorem pools_kept_preserved (env : Env) : Runs.Preserved (step env) Undisturbed PoolsKept := by
  rintro st action next ⟨owners, kept⟩ permitted taken
  have effect := step_effect env st next action taken
  refine ⟨effect_live_owners env st next action effect owners, fun family => ?_⟩
  obtain ⟨ledger, holding⟩ := kept family
  exact effect_holding env st next family ledger action effect permitted owners holding

theorem new_pool_covers (subnet : Prefix) (ip : Addr) (reservations : List Addr) (pool : Option IPPool)
    (built : ServerConfig.newFamilyPool subnet ip reservations = .ok pool) (p : IPPool) (present : pool = some p) :
    p.Covers Ledger.empty := by
  obtain ⟨_, made⟩ := ServerConfig.new_family_pool_built subnet ip reservations p (present ▸ built)
  exact (IPPool.new_ip_pool_exact _ _ p made).toCovers

theorem started_pools_kept (env : Env) (st : MCState) (started : Started env st) : PoolsKept st := by
  obtain ⟨⟨pool4, pool6, userDB, queues, rfl⟩, ⟨reserved4, built4⟩, reserved6, built6⟩ := started
  refine ⟨fun clientID ref live => absurd live (by simp [start]), fun family => ⟨Ledger.empty, ?_, ?_, ?_⟩⟩
  · intro p pooled
    cases family with
    | v4 => exact new_pool_covers _ _ _ _ built4 p pooled
    | v6 => exact new_pool_covers _ _ _ _ built6 p pooled
  · exact fun clientID ref o live => absurd live (by simp [start])
  · exact fun entry member => absurd member (by simp [start])

end MCState

def firstByteDigest : Digest := fun bytes => Vector.replicate 32 (bytes.headD 0)

def plainNoise : NoiseIK where
  readMessage message := if message.length < 32 then .error "short message" else .ok (message.drop 32, message.take 32)
  Authenticated message pub := pub = message.take 32
  authentic := by
    intro message payload pub read
    split_ifs at read
    cases read
    rfl

def annUser : User := ⟨"ann", List.replicate 32 0xAA, 0, []⟩
def benUser : User := ⟨"ben", List.replicate 32 0xBB, 0, []⟩

def pairDB : UserDB where
  byKey := ((∅ : Table Bytes User).insert annUser.publicKey annUser).insert benUser.publicKey benUser
  byName := ((∅ : Table String UserEntry).insert "ann" ⟨annUser, 0⟩).insert "ben" ⟨benUser, 0⟩
  resV4 := ∅
  resV6 := ∅

def pairConfig : ServerConfig where
  listen := "0.0.0.0:4500"
  lanes := 0
  queues := 0
  staticPrivateKey := List.replicate 32 1
  peerPublicKey := []
  users := [annUser, benUser]
  cipher := cipherAESGCM
  subnet := tunnelNet 29
  subnet6 := .invalid
  serverIP := tunnelAddr 1
  serverIP6 := .zero
  vnetHdr := false

def pairPool : IPPool where
  subnet := tunnelNet 29
  reserved := reserveValid (baseReserved (tunnelNet 29)) [tunnelAddr 1]
  isV4 := true
  used := ∅
  byClient := ∅
  shape := .v4 _ _ (by decide)

def pairEnv : Env := serverEnv pairConfig firstByteDigest [] (fun _ _ _ => 0) plainNoise

def pairStart : MCState := MCState.start (some pairPool) none (some pairDB) 1

theorem pair_started : MCState.Started pairEnv pairStart :=
  ⟨⟨_, _, _, _, rfl⟩, ⟨[], rfl⟩, ⟨[], rfl⟩⟩

def helloBytes (key : UInt8) : Bytes :=
  List.replicate 16 0 ++ [0, 70, 0, 0] ++ List.replicate 32 key ++ [7, 1, 1] ++ List.replicate 35 0

def handshakeSteps (conn : Nat) (sent : Bool) : List Action :=
  [.handshake conn, .assign conn, .allocate conn, .allocate conn, .reply conn sent]

def apartSteps : List Action :=
  [.accept (helloBytes 0xAA), .accept (helloBytes 0xBB)] ++ handshakeSteps 0 true ++ handshakeSteps 1 true ++
    [.acquire 0 0, .acquire 1 0]

-- Ann's second lane fails and releases the address the first is about to bring
-- to acquireSession; Ben is given it in between.
def raceSteps : List Action :=
  [.accept (helloBytes 0xAA), .accept (helloBytes 0xAA), .accept (helloBytes 0xBB)] ++ handshakeSteps 0 true ++
    handshakeSteps 1 false ++ [.releaseOrphan 1] ++ handshakeSteps 2 true ++ [.acquire 2 0, .acquire 0 0]

-- Ann's session idles out, Ann reconnects before the old object is torn down,
-- and the late tearDown releases by client id.
def reapSteps : List Action :=
  [.accept (helloBytes 0xAA), .accept (helloBytes 0xAA)] ++ handshakeSteps 0 true ++
    [.acquire 0 0, .attach 0 0, .detach 0 0, .collect (idleTimeout + 1)] ++ handshakeSteps 1 true ++
    [.acquire 1 (idleTimeout + 1), .tearDown 0]

namespace MCState

theorem live_addresses_unique (env : Env) (initial st : MCState) (started : Started env initial)
    (reached : Runs.Reach (step env) Undisturbed initial st) (clientA clientB : ClientID) (refA refB : SessionRef)
    (a b : Session) (liveA : st.sessions.lookup clientA = some refA) (liveB : st.sessions.lookup clientB = some refB)
    (distinct : refA ≠ refB) (storedA : st.heap[refA]? = some a) (storedB : st.heap[refB]? = some b) :
    (a.assigned4.isValid = true → a.assigned4 ≠ b.assigned4) ∧ (a.assigned6.isValid = true → a.assigned6 ≠ b.assigned6) := by
  obtain ⟨owners, kept⟩ := Runs.reach_invariant (pools_kept_preserved env) reached (started_pools_kept env initial started)
  have ownedA : st.owner refA = some a.owner := by rw [owner, storedA]; rfl
  have ownedB : st.owner refB = some b.owner := by rw [owner, storedB]; rfl
  have separate : ∀ family, (a.owner.assigned family).isValid = true → a.owner.assigned family ≠ b.owner.assigned family := by
    intro family valid same
    obtain ⟨ledger, holding⟩ := kept family
    have heldA := (holding.live clientA refA a.owner liveA ownedA valid).2
    have heldB := (holding.live clientB refB b.owner liveB ownedB (same ▸ valid)).2
    obtain rfl := ledger.exclusive clientA clientB _ heldA (same ▸ heldB)
    exact distinct (Option.some.inj (liveA.symm.trans liveB))
  exact ⟨separate .v4, separate .v6⟩

end MCState

theorem live_addresses_unique_apart :
    ∃ st a b, Runs.Reach (MCState.step pairEnv) MCState.Undisturbed pairStart st ∧ st.sessions.lookup clientA = some 0 ∧
      st.sessions.lookup clientB = some 1 ∧ st.heap[0]? = some a ∧ st.heap[1]? = some b ∧ a.assigned4 ≠ b.assigned4 := by
  have observed : (Runs.execute (MCState.step pairEnv) MCState.Undisturbed pairStart apartSteps).map
      (fun st => (st.sessions.lookup clientA, st.sessions.lookup clientB, st.owner 0, st.owner 1)) =
      some (some 0, some 1, some ⟨clientA, .v4 #v[10, 66, 0, 2], .zero⟩, some ⟨clientB, .v4 #v[10, 66, 0, 3], .zero⟩) := by
    decide +kernel
  obtain ⟨st, completed, view⟩ := Option.map_eq_some_iff.mp observed
  simp only [Prod.mk.injEq] at view
  obtain ⟨liveA, liveB, ownedA, ownedB⟩ := view
  obtain ⟨a, storedA, _, addressA, _⟩ := MCState.owner_session st 0 _ ownedA
  obtain ⟨b, storedB, _⟩ := MCState.owner_session st 1 _ ownedB
  have reached := Runs.execute_reach _ _ apartSteps completed
  exact ⟨st, a, b, reached, liveA, liveB, storedA, storedB,
    (MCState.live_addresses_unique pairEnv pairStart st pair_started reached clientA clientB 0 1 a b liveA liveB
      (by decide) storedA storedB).1 (by rw [addressA]; rfl)⟩

theorem two_sessions_one_address :
    MCState.Started pairEnv pairStart ∧ ∃ st, Runs.Reach (MCState.step pairEnv) (fun _ _ => True) pairStart st ∧
      st.sessions.lookup clientB = some 0 ∧ st.sessions.lookup clientA = some 1 ∧
      st.heap.map Session.owner = [⟨clientB, .v4 #v[10, 66, 0, 2], .zero⟩, ⟨clientA, .v4 #v[10, 66, 0, 2], .zero⟩] := by
  have observed : (Runs.execute (MCState.step pairEnv) (fun _ _ => True) pairStart raceSteps).map
      (fun st => (st.sessions.lookup clientB, st.sessions.lookup clientA, st.heap.map Session.owner)) =
      some (some 0, some 1, [⟨clientB, .v4 #v[10, 66, 0, 2], .zero⟩, ⟨clientA, .v4 #v[10, 66, 0, 2], .zero⟩]) := by
    decide +kernel
  obtain ⟨st, completed, view⟩ := Option.map_eq_some_iff.mp observed
  simp only [Prod.mk.injEq] at view
  exact ⟨pair_started, st, Runs.execute_reach _ _ raceSteps completed, view.1, view.2.1, view.2.2⟩

namespace MCState

theorem live_session_keeps_entry (env : Env) (initial st : MCState) (started : Started env initial)
    (reached : Runs.Reach (step env) Undisturbed initial st) (clientID : ClientID) (ref : SessionRef) (s : Session)
    (live : st.sessions.lookup clientID = some ref) (stored : st.heap[ref]? = some s) (family : Family)
    (valid : (s.assigned family).isValid = true) :
    ∃ p, st.pool family = some p ∧ p.byClient.lookup s.id = some (s.assigned family) ∧
      p.used.flag (s.assigned family) = true := by
  obtain ⟨owners, kept⟩ := Runs.reach_invariant (pools_kept_preserved env) reached (started_pools_kept env initial started)
  have owned : st.owner ref = some s.owner := by rw [owner, stored]; rfl
  have assigned : s.owner.assigned family = s.assigned family := by cases family <;> rfl
  obtain ⟨ledger, holding⟩ := kept family
  obtain ⟨present, held⟩ := holding.live clientID ref s.owner live owned (assigned ▸ valid)
  obtain ⟨p, pooled⟩ := Option.isSome_iff_exists.mp present
  have covers := holding.covers p pooled
  obtain ⟨o, found, named⟩ := owners clientID ref live
  obtain rfl : s.owner = o := Option.some.inj (owned.symm.trans found)
  rw [assigned] at held
  refine ⟨p, pooled, ?_, covers.marked _ ⟨clientID, held⟩⟩
  rw [covers.holds, show s.id = clientID from named, held]

end MCState

theorem live_session_keeps_entry_apart :
    ∃ st p, Runs.Reach (MCState.step pairEnv) MCState.Undisturbed pairStart st ∧ st.pool4 = some p ∧
      st.sessions.lookup clientB = some 1 ∧ p.byClient.lookup clientB = some (.v4 #v[10, 66, 0, 3]) ∧
      p.used.flag (.v4 #v[10, 66, 0, 3]) = true := by
  have observed : (Runs.execute (MCState.step pairEnv) MCState.Undisturbed pairStart apartSteps).map
      (fun st => (st.sessions.lookup clientB, st.owner 1)) =
      some (some 1, some ⟨clientB, .v4 #v[10, 66, 0, 3], .zero⟩) := by
    decide +kernel
  obtain ⟨st, completed, view⟩ := Option.map_eq_some_iff.mp observed
  simp only [Prod.mk.injEq] at view
  obtain ⟨live, owned⟩ := view
  obtain ⟨s, stored, named, address, _⟩ := MCState.owner_session st 1 _ owned
  have reached := Runs.execute_reach _ _ apartSteps completed
  obtain ⟨p, pooled, held, used⟩ := MCState.live_session_keeps_entry pairEnv pairStart st pair_started reached clientB 1 s
    live stored .v4 (by rw [Session.assigned, address]; rfl)
  rw [Session.assigned, address] at held used
  rw [named] at held
  exact ⟨st, p, reached, pooled, live, held, used⟩

theorem live_session_without_entry :
    MCState.Started pairEnv pairStart ∧ ∃ st p, Runs.Reach (MCState.step pairEnv) (fun _ _ => True) pairStart st ∧
      st.pool4 = some p ∧ st.sessions.lookup clientA = some 1 ∧
      st.owner 1 = some ⟨clientA, .v4 #v[10, 66, 0, 2], .zero⟩ ∧
      p.byClient.lookup clientA = none ∧ p.used.flag (.v4 #v[10, 66, 0, 2]) = false := by
  have observed : ((Runs.execute (MCState.step pairEnv) (fun _ _ => True) pairStart reapSteps).bind
      (fun st => st.pool4.map fun p => (st, p))).map
      (fun found => (found.1.sessions.lookup clientA, found.1.owner 1, found.2.byClient.lookup clientA,
        found.2.used.flag (.v4 #v[10, 66, 0, 2]))) =
      some (some 1, some ⟨clientA, .v4 #v[10, 66, 0, 2], .zero⟩, none, false) := by
    decide +kernel
  obtain ⟨⟨st, p⟩, found, view⟩ := Option.map_eq_some_iff.mp observed
  obtain ⟨reached, completed, pooled⟩ := Option.bind_eq_some_iff.mp found
  obtain ⟨pool, present, same⟩ := Option.map_eq_some_iff.mp pooled
  cases same
  simp only [Prod.mk.injEq] at view
  exact ⟨pair_started, st, p, Runs.execute_reach _ _ reapSteps completed, present, view.1, view.2.1, view.2.2.1, view.2.2.2⟩

end Packethose
