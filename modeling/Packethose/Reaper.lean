import Packethose.Lib.Counting
import Packethose.AnnouncedRows

set_option autoImplicit false

namespace Packethose

def ConnPoint.runs (ref : SessionRef) : ConnPoint → Bool
  | .attached target _ => target == ref
  | _ => false

def ConnPoint.holds (ref : SessionRef) (point : ConnPoint) : Bool := point.joins ref || point.runs ref

namespace MCState

def lanesOn (st : MCState) (ref : SessionRef) : Nat := st.conns.countP fun entry => entry.point.runs ref

def tally (st : MCState) (ref : SessionRef) : Option (ClientID × Int) := (st.heap[ref]?).map fun s => (s.id, s.active)

def Enlisted (st : MCState) (ref : SessionRef) : Prop :=
  ∃ clientID count, st.tally ref = some (clientID, count) ∧ st.sessions.lookup clientID = some ref

structure Joined (st : MCState) : Prop where
  owners : st.LiveOwners
  counted : ∀ ref clientID count, st.tally ref = some (clientID, count) → count = st.lanesOn ref
  held : ∀ entry ∈ st.conns, ∀ ref, entry.point.holds ref = true → st.Enlisted ref

def lane (point : ConnPoint) (ref : SessionRef) : Int := if point.runs ref then 1 else 0

theorem set_session_tally (st : MCState) (ref other : SessionRef) (change : Session → Session) (delta : Int)
    (changed : ∀ s, (change s).id = s.id ∧ (change s).active = s.active + delta) :
    (st.setSession ref change).tally other =
      (st.tally other).map fun (clientID, count) => (clientID, count + if other = ref then delta else 0) := by
  simp only [tally, setSession, List.getElem?_modify]
  cases st.heap[other]? with
  | none => rfl
  | some s =>
      by_cases here : ref = other
      · simp [here, changed]
      · simp [here, Ne.symm here]

theorem lanes_on_pointed (st : MCState) (conn : Nat) (entry : Conn) (point : ConnPoint) (ref : SessionRef)
    (found : st.conns[conn]? = some entry) :
    ((st.setPoint conn point).lanesOn ref : Int) = st.lanesOn ref + lane point ref - lane entry.point ref := by
  have counted := Counting.count_modify st.conns conn (fun old => { old with point := point })
    (fun other => other.point.runs ref) entry found
  simp only [lanesOn, setPoint, lane]
  split_ifs at counted ⊢ <;> omega

section Steps

variable (env : Env) (st next : MCState)

theorem enlisted_congr (ref : SessionRef) (listed : st.Enlisted ref) (sessions : next.sessions = st.sessions)
    (tallied : ∀ clientID count, st.tally ref = some (clientID, count) → ∃ after, next.tally ref = some (clientID, after)) :
    next.Enlisted ref := by
  obtain ⟨clientID, count, figures, live⟩ := listed
  obtain ⟨after, changed⟩ := tallied clientID count figures
  exact ⟨clientID, after, changed, sessions ▸ live⟩

theorem live_enlisted (owners : st.LiveOwners) (clientID : ClientID) (ref : SessionRef)
    (live : st.sessions.lookup clientID = some ref) : st.Enlisted ref := by
  obtain ⟨o, owned, rfl⟩ := owners clientID ref live
  obtain ⟨s, stored, rfl⟩ := Option.map_eq_some_iff.mp owned
  exact ⟨s.id, s.active, by rw [tally, stored]; rfl, live⟩

theorem joined_pointed (before : MCState) (conn : Nat) (entry : Conn) (point : ConnPoint) (joined : st.Joined)
    (found : st.conns[conn]? = some entry) (conns : before.conns = st.conns) (sessions : before.sessions = st.sessions)
    (tallied : ∀ ref, before.tally ref =
      (st.tally ref).map fun (clientID, count) => (clientID, count + (lane point ref - lane entry.point ref)))
    (owners : (before.setPoint conn point).LiveOwners)
    (holds : ∀ ref, point.holds ref = true → st.Enlisted ref) : (before.setPoint conn point).Joined := by
  have listed : ∀ ref, st.Enlisted ref → (before.setPoint conn point).Enlisted ref := fun ref live =>
    enlisted_congr st (before.setPoint conn point) ref live sessions fun clientID count figures =>
      ⟨_, (tallied ref).trans (by rw [figures]; rfl)⟩
  refine ⟨owners, ?_, ?_⟩
  · intro ref clientID count figures
    obtain ⟨⟨known, old⟩, stored, same⟩ := Option.map_eq_some_iff.mp ((tallied ref).symm.trans figures)
    obtain ⟨rfl, rfl⟩ := Prod.mk.inj same
    have earlier := joined.counted ref known old stored
    have moved := lanes_on_pointed before conn entry point ref (conns ▸ found)
    have unmoved : before.lanesOn ref = st.lanesOn ref := by rw [lanesOn, lanesOn, conns]
    rw [moved, unmoved, earlier]
    omega
  · intro other member ref holding
    rcases set_point_mem before conn point other member with earlier | ⟨old, _, rfl⟩
    · exact listed ref (joined.held other (conns ▸ earlier) ref holding)
    · exact listed ref (holds ref holding)

theorem joined_unmoved (before : MCState) (conn : Nat) (entry : Conn) (point : ConnPoint) (joined : st.Joined)
    (found : st.conns[conn]? = some entry) (conns : before.conns = st.conns) (sessions : before.sessions = st.sessions)
    (heap : before.heap = st.heap) (still : ∀ ref, lane point ref - lane entry.point ref = 0)
    (owners : (before.setPoint conn point).LiveOwners)
    (holds : ∀ ref, point.holds ref = true → st.Enlisted ref) : (before.setPoint conn point).Joined := by
  apply joined_pointed st before conn entry point joined found conns sessions _ owners holds
  intro ref
  rw [still ref, tally, tally, heap]
  cases st.heap[ref]? with
  | none => rfl
  | some s => simp

theorem moves_lane (entry : Conn) (old new : ConnPoint) (moves : Moves env st entry old new) (ref : SessionRef) :
    lane new ref - lane old ref = 0 := by
  cases moves <;> rfl

theorem moves_holds (entry : Conn) (old new : ConnPoint) (moves : Moves env st entry old new) (owners : st.LiveOwners)
    (ref : SessionRef) (holding : new.holds ref = true) : st.Enlisted ref := by
  cases moves with
  | joined ident target live =>
      obtain rfl : target = ref := by simpa [ConnPoint.holds, ConnPoint.joins, ConnPoint.runs] using holding
      exact live_enlisted st owners ident.clientID target live
  | _ => cases holding

theorem joined_quiet (joined : st.Joined) (conns : next.conns = st.conns) (sessions : next.sessions = st.sessions)
    (tallied : next.tally = st.tally) (owners : next.LiveOwners) : next.Joined := by
  refine ⟨owners, ?_, ?_⟩
  · rw [tallied]
    unfold lanesOn
    rw [conns]
    exact joined.counted
  · rw [conns]
    unfold Enlisted
    rw [tallied, sessions]
    exact joined.held

theorem quiet_session_tally (before : MCState) (ref : SessionRef) (change : Session → Session) (heap : before.heap = st.heap)
    (same : ∀ s, (change s).id = s.id ∧ (change s).active = s.active) : (before.setSession ref change).tally = st.tally := by
  funext other
  rw [set_session_tally before ref other change 0 fun s => ⟨(same s).1, (same s).2.trans (Int.add_zero _).symm⟩, tally, tally, heap]
  cases st.heap[other]? with
  | none => rfl
  | some s => simp

theorem joined_laned (conn : Nat) (entry : Conn) (ref : SessionRef) (s : Session) (action : Action)
    (change : Session → Session) (joined : st.Joined) (found : st.conns[conn]? = some entry)
    (owners : next.LiveOwners) (changed : LaneChange st conn ref s action entry.point change next) : next.Joined := by
  have mine := joined.held entry (List.mem_of_getElem? found)
  generalize located : entry.point = point at changed mine
  cases changed with
  | attach now =>
      apply joined_pointed st (st.setSession ref (Session.laneJoined now)) conn entry _ joined found rfl rfl _ owners
      · intro target holding
        obtain rfl : ref = target := by simpa [ConnPoint.holds, ConnPoint.joins, ConnPoint.runs] using holding
        exact mine ref (by simp [ConnPoint.holds, ConnPoint.joins])
      · intro target
        rw [set_session_tally st ref target (Session.laneJoined now) 1 fun _ => ⟨rfl, rfl⟩]
        by_cases same : target = ref
        · simp [lane, located, ConnPoint.runs, same]
        · simp [lane, located, ConnPoint.runs, same, Ne.symm same]
  | laneRead queue nonempty =>
      apply joined_quiet st (st.setSession ref Session.dequeued) joined rfl rfl _ owners
      exact quiet_session_tally st st ref Session.dequeued rfl fun _ => ⟨rfl, rfl⟩
  | detach now queue =>
      apply joined_pointed st (st.setSession ref (Session.laneLeft now)) conn entry .closed joined found rfl rfl _ owners
      · exact fun target holding => by cases holding
      · intro target
        rw [set_session_tally st ref target (Session.laneLeft now) (-1) fun _ => ⟨rfl, rfl⟩]
        by_cases same : target = ref
        · simp [lane, located, ConnPoint.runs, same]
        · simp [lane, located, ConnPoint.runs, same, Ne.symm same]

theorem open_session_tally (ident : LaneIdentity) (db : Option UserDB) (now : Nat) (ref : SessionRef) :
    (st.openSession ident db now).tally ref = if ref = st.heap.length then some (ident.clientID, 0) else st.tally ref := by
  rw [tally, (open_session_frame st ident db now).1]
  split_ifs with last
  · simp [last, newSession]
  · rcases Nat.lt_or_gt_of_ne last with before | behind
    · rw [List.getElem?_append_left before, tally]
    · rw [tally, List.getElem?_eq_none (by simp; omega), List.getElem?_eq_none (by omega)]

theorem enlisted_older (ref : SessionRef) (enlisted : st.Enlisted ref) : ref ≠ st.heap.length := by
  obtain ⟨clientID, count, figures, _⟩ := enlisted
  rintro rfl
  simp [tally] at figures

theorem joined_opened (conn now : Nat) (ident : LaneIdentity) (db : Option UserDB) (entry : Conn) (joined : st.Joined)
    (found : st.conns[conn]? = some entry) (admitted : entry.point = .admitted ident)
    (absent : st.sessions.lookup ident.clientID = none)
    (owners : ((st.openSession ident db now).setPoint conn (.joining st.heap.length)).LiveOwners) :
    ((st.openSession ident db now).setPoint conn (.joining st.heap.length)).Joined := by
  obtain ⟨_, sessions, conns, _⟩ := open_session_frame st ident db now
  have enlisted : ∀ ref, st.Enlisted ref →
      ((st.openSession ident db now).setPoint conn (.joining st.heap.length)).Enlisted ref := by
    intro ref before
    have older := enlisted_older st ref before
    obtain ⟨clientID, count, figures, live⟩ := before
    refine ⟨clientID, count, (open_session_tally st ident db now ref).trans ((if_neg older).trans figures), ?_⟩
    change (st.openSession ident db now).sessions.lookup clientID = some ref
    rw [sessions, Table.lookup_put, if_neg _, live]
    rintro rfl
    rw [absent] at live
    cases live
  have nobody : st.lanesOn st.heap.length = 0 := by
    rw [lanesOn, List.countP_eq_zero]
    intro other member running
    exact enlisted_older st _ (joined.held other member st.heap.length (by rw [ConnPoint.holds, running, Bool.or_true])) rfl
  refine ⟨owners, ?_, ?_⟩
  · intro ref clientID count figures
    have moved := lanes_on_pointed (st.openSession ident db now) conn entry (.joining st.heap.length) ref (conns ▸ found)
    have unmoved : (st.openSession ident db now).lanesOn ref = st.lanesOn ref := by rw [lanesOn, lanesOn, conns]
    rw [moved, unmoved, admitted]
    change (st.openSession ident db now).tally ref = some (clientID, count) at figures
    rw [open_session_tally] at figures
    split_ifs at figures with last
    · obtain ⟨_, rfl⟩ := Prod.mk.inj (Option.some.inj figures)
      rw [last, nobody]
      rfl
    · rw [joined.counted ref clientID count figures]
      simp [lane, ConnPoint.runs]
  · intro other member ref holding
    rcases set_point_mem (st.openSession ident db now) conn _ other member with earlier | ⟨old, _, rfl⟩
    · exact enlisted ref (joined.held other (conns ▸ earlier) ref holding)
    · obtain rfl : st.heap.length = ref := by simpa [ConnPoint.holds, ConnPoint.joins, ConnPoint.runs] using holding
      refine ⟨ident.clientID, 0, (open_session_tally st ident db now _).trans (if_pos rfl), ?_⟩
      change (st.openSession ident db now).sessions.lookup ident.clientID = some st.heap.length
      rw [sessions, Table.lookup_put, if_pos rfl]

theorem joined_accepted (input : Bytes) (joined : st.Joined) (owners : (st.accept input).LiveOwners) :
    (st.accept input).Joined := by
  refine ⟨owners, ?_, ?_⟩
  · intro ref clientID count figures
    rw [joined.counted ref clientID count figures]
    simp [lanesOn, accept, List.countP_append, ConnPoint.runs]
  · intro entry member ref holding
    rcases List.mem_append.mp member with earlier | fresh
    · exact joined.held entry earlier ref holding
    · rw [List.mem_singleton.mp fresh] at holding
      cases holding

theorem effect_joined (action : Action) (effect : Effect env st action next) (joined : st.Joined)
    (kept : ∀ now, action ≠ .collect now) (serving : action ≠ .tearDownAll) : next.Joined := by
  have owners := effect_live_owners env st next action effect joined.owners
  cases effect with
  | accepted input => exact joined_accepted st input joined owners
  | moved _ conn entry point actor found moves =>
      exact joined_unmoved st st conn entry point joined found rfl rfl rfl (moves_lane env st entry entry.point point moves)
        owners (moves_holds env st entry entry.point point moves joined.owners)
  | allocated conn entry family hello db asg p changed result found assigning pooled called =>
      have quiet : ∀ ref, (assignedPoint hello db (answered env family asg result) family).holds ref = false := by
        intro ref
        cases family <;> rfl
      have still : ∀ ref, lane (assignedPoint hello db (answered env family asg result) family) ref - lane entry.point ref = 0 := by
        intro ref
        generalize entry.point = point at assigning
        cases assigning <;> rfl
      apply joined_unmoved st _ conn entry _ joined found _ _ _ still owners
      · intro ref holding
        rw [quiet ref] at holding
        cases holding
      · cases family <;> rfl
      · cases family <;> rfl
      · cases family <;> rfl
  | released _ conn entry clientID actor found releasing =>
      have still : ∀ ref, lane .closed ref - lane entry.point ref = 0 := by
        intro ref
        generalize entry.point = point at releasing
        cases releasing <;> rfl
      exact joined_unmoved st (st.releaseAll clientID) conn entry .closed joined found rfl rfl rfl still owners
        fun ref holding => by cases holding
  | opened conn now entry ident db found admitted absent slot =>
      exact joined_opened st conn now ident db entry joined found admitted absent owners
  | laned _ conn entry ref s change _ found stored changed =>
      exact joined_laned st next conn entry ref s action change joined found owners changed
  | collected now => exact absurd rfl (kept now)
  | cleared => exact absurd rfl serving
  | torn ref =>
      exact joined_quiet st _ joined rfl rfl (quiet_session_tally st (st.forget ref) ref _ rfl fun _ => ⟨rfl, rfl⟩) owners
  | queued reader packet ref =>
      exact joined_quiet st _ joined rfl rfl (quiet_session_tally st (st.setReader reader none) ref _ rfl fun _ => ⟨rfl, rfl⟩) owners
  | tornAgain | reloaded | unreloaded | ignored | matched | dropped => exact joined_quiet st _ joined rfl rfl rfl owners

theorem admitted_acquires (action : Action) (conn : Nat) (entry : Conn) (ident : LaneIdentity)
    (taken : step env st action = some next) (actor : action.conn = some conn) (found : st.conns[conn]? = some entry)
    (admitted : entry.point = .admitted ident) : ∃ now, action = .acquire conn now := by
  have reached : st.pointOf conn = some (.admitted ident) := by rw [pointOf, found, Option.map_some, admitted]
  have started : ∀ input users, st.conns[conn]? ≠ some ⟨input, users, .greeting⟩ := by
    intro input users same
    obtain rfl := Option.some.inj (found.symm.trans same)
    cases admitted
  cases action with
  | acquire other now => exact ⟨now, by rw [Option.some.inj actor]⟩
  | handshake other =>
      obtain rfl := Option.some.inj actor
      rw [step, handshake] at taken
      split at taken
      · rename_i input users greeting
        exact absurd greeting (started input users)
      · cases taken
  | assign | allocate | reply | releaseOrphan | quotaRelease | attach | laneRead | detach =>
      obtain rfl := Option.some.inj actor
      simp [step, assign, allocate, reply, releaseOrphan, quotaRelease, attach, laneRead, detach, reached] at taken
  | _ => cases actor

theorem step_holders (action : Action) (taken : step env st action = some next) (acquires : ∀ conn now, action ≠ .acquire conn now)
    (ref : SessionRef) (free : ∀ entry ∈ st.conns, entry.point.holds ref = false) :
    ∀ entry ∈ next.conns, entry.point.holds ref = false := by
  have pointed : ∀ (before : MCState) (conn : Nat) (point : ConnPoint), before.conns = st.conns → point.holds ref = false →
      ∀ entry ∈ (before.setPoint conn point).conns, entry.point.holds ref = false := by
    intro before conn point conns quiet entry member
    rcases set_point_mem before conn point entry member with earlier | ⟨old, _, rfl⟩
    · exact free entry (conns ▸ earlier)
    · exact quiet
  cases step_effect env st next action taken with
  | accepted input =>
      intro entry member
      rcases List.mem_append.mp member with earlier | fresh
      · exact free entry earlier
      · rw [List.mem_singleton.mp fresh]
        rfl
  | moved _ conn entry point actor found moves =>
      apply pointed st conn point rfl
      generalize located : entry.point = old at moves
      cases moves with
      | joined ident target live =>
          obtain ⟨now, same⟩ := admitted_acquires env st _ action conn entry ident taken actor found located
          exact absurd same (acquires conn now)
      | _ => rfl
  | allocated conn entry family => cases family <;> exact pointed _ conn _ rfl rfl
  | released _ conn entry clientID => exact pointed (st.releaseAll clientID) conn .closed rfl rfl
  | opened conn now => exact absurd rfl (acquires conn now)
  | laned _ conn entry target s change _ found stored changed =>
      have mine := free entry (List.mem_of_getElem? found)
      generalize entry.point = old at changed mine
      cases changed with
      | attach now =>
          apply pointed (st.setSession target (Session.laneJoined now)) conn _ rfl
          simpa [ConnPoint.holds, ConnPoint.joins, ConnPoint.runs] using mine
      | laneRead => exact free
      | detach now => exact pointed (st.setSession target (Session.laneLeft now)) conn .closed rfl rfl
  | collected | cleared | tornAgain | torn | reloaded | unreloaded | ignored | matched | queued | dropped => exact free

end Steps

end MCState

-- One pass of collect. It keeps m.mu throughout and takes the lock of each
-- session only to look at it, so the steps that do not need m.mu interleave.
-- The map is read in any order.
structure Sweep where
  now : Nat
  todo : List (ClientID × SessionRef)
  marked : Option (ClientID × SessionRef)
  victims : List SessionRef
deriving DecidableEq

structure ReaperState where
  server : MCState
  sweep : Option Sweep

inductive ReaperAction where
  | server (action : Action)
  | lock (now : Nat)
  | examine (row : ClientID × SessionRef)
  | remove
  | unlock
deriving DecidableEq

def Action.locks : Action → Bool
  | .acquire _ _ | .releaseOrphan _ | .tearDownAll | .tunRead _ _ => true
  | _ => false

def Action.collects : Action → Bool
  | .collect _ => true
  | _ => false

namespace MCState

def unlist (st : MCState) (row : ClientID × SessionRef) : MCState :=
  { st with sessions := st.sessions.erase row.1, ipIndex := Table.dropAll st.ipIndex (st.indexedAddrs row.2) }

def await (st : MCState) (victims : List SessionRef) : MCState := { st with pending := st.pending ++ victims }

end MCState

namespace ReaperState

def start (server : MCState) : ReaperState := ⟨server, none⟩

def begin (q : ReaperState) (now : Nat) : Option ReaperState :=
  if q.sweep.isSome then none else some { q with sweep := some ⟨now, Table.rows q.server.sessions, none, []⟩ }

def examine (q : ReaperState) (row : ClientID × SessionRef) : Option ReaperState :=
  match q.sweep with
  | some ⟨now, todo, none, victims⟩ =>
      if row ∈ todo then
        some { q with sweep := some ⟨now, todo.erase row, if q.server.stale now row.2 then some row else none, victims⟩ }
      else none
  | _ => none

def remove (q : ReaperState) : Option ReaperState :=
  match q.sweep with
  | some ⟨now, todo, some row, victims⟩ => some ⟨q.server.unlist row, some ⟨now, todo, none, victims ++ [row.2]⟩⟩
  | _ => none

def unlock (q : ReaperState) : Option ReaperState :=
  match q.sweep with
  | some ⟨_, [], none, victims⟩ => some ⟨q.server.await victims, none⟩
  | _ => none

def step (env : Env) (q : ReaperState) : ReaperAction → Option ReaperState
  | .server action =>
      if action.collects ∨ (action.locks ∧ q.sweep.isSome) then none
      else (q.server.step env action).map fun next => { q with server := next }
  | .lock now => q.begin now
  | .examine row => q.examine row
  | .remove => q.remove
  | .unlock => q.unlock

-- When collect finds a session stale, no connection has it from acquireSession
-- without having counted itself yet.
def Unclaimed (q : ReaperState) : ReaperAction → Prop
  | .examine row =>
      match q.sweep with
      | some sweep => q.server.stale sweep.now row.2 = true → ∀ entry ∈ q.server.conns, entry.point.joins row.2 = false
      | none => True
  | _ => True

instance (q : ReaperState) (action : ReaperAction) : Decidable (q.Unclaimed action) := by
  unfold Unclaimed
  split
  · split <;> infer_instance
  · infer_instance

structure Safe (q : ReaperState) : Prop where
  joined : q.server.Joined
  todo : ∀ sweep, q.sweep = some sweep → ∀ row ∈ sweep.todo ++ sweep.marked.toList, ∀ ref,
    q.server.sessions.lookup row.1 = some ref → ref = row.2
  marked : ∀ sweep row, q.sweep = some sweep → sweep.marked = some row →
    ∀ entry ∈ q.server.conns, entry.point.holds row.2 = false

theorem stale_idle (st : MCState) (joined : st.Joined) (now : Nat) (ref : SessionRef) (stale : st.stale now ref = true)
    (unclaimed : ∀ entry ∈ st.conns, entry.point.joins ref = false) : ∀ entry ∈ st.conns, entry.point.holds ref = false := by
  intro entry member
  rw [ConnPoint.holds, unclaimed entry member, Bool.false_or]
  by_contra running
  rw [Bool.not_eq_false] at running
  obtain ⟨clientID, count, figures, _⟩ := joined.held entry member ref (by rw [ConnPoint.holds, running, Bool.or_true])
  obtain ⟨s, stored, same⟩ := Option.map_eq_some_iff.mp figures
  simp only [MCState.stale, stored, Bool.and_eq_true, beq_iff_eq] at stale
  have counted := joined.counted ref clientID count figures
  obtain ⟨_, rfl⟩ := Prod.mk.inj same
  rw [stale.1] at counted
  have none := List.countP_eq_zero.mp (Int.ofNat_eq_zero.mp counted.symm) entry member
  exact none running

theorem unlist_joined (st : MCState) (row : ClientID × SessionRef) (joined : st.Joined)
    (same : ∀ ref, st.sessions.lookup row.1 = some ref → ref = row.2)
    (free : ∀ entry ∈ st.conns, entry.point.holds row.2 = false) : (st.unlist row).Joined := by
  have remains : ∀ clientID ref, (st.unlist row).sessions.lookup clientID = some ref → st.sessions.lookup clientID = some ref := by
    intro clientID ref live
    rw [MCState.unlist, Table.lookup_drop] at live
    split_ifs at live
    exact live
  refine ⟨fun clientID ref live => joined.owners clientID ref (remains clientID ref live), joined.counted, ?_⟩
  intro entry member ref holding
  obtain ⟨clientID, count, figures, live⟩ := joined.held entry member ref holding
  refine ⟨clientID, count, figures, ?_⟩
  rw [MCState.unlist, Table.lookup_drop, if_neg _, live]
  rintro rfl
  have clear := free entry member
  rw [← same ref live, holding] at clear
  cases clear

section Steps

variable (env : Env) (q next : ReaperState)

theorem safe_server (action : Action) (safe : q.Safe) (serving : action ≠ .tearDownAll)
    (taken : q.step env (.server action) = some next) : next.Safe := by
  rw [step] at taken
  split_ifs at taken with blocked
  obtain ⟨server, moved, rfl⟩ := Option.map_eq_some_iff.mp taken
  rw [not_or, not_and] at blocked
  have effect := MCState.step_effect env q.server server action moved
  have acquires : ∀ sweep, q.sweep = some sweep → ∀ conn now, action ≠ .acquire conn now := by
    rintro sweep sweeping conn now rfl
    exact blocked.2 rfl (by rw [sweeping]; rfl)
  refine ⟨MCState.effect_joined env q.server server action effect safe.joined ?_ serving, ?_, ?_⟩
  · rintro now rfl
    exact blocked.1 rfl
  · intro sweep sweeping row member ref live
    rcases MCState.effect_sessions env q.server server action effect with
      ⟨shrunk, _⟩ | ⟨conn, now, entry, ident, db, acquire, _⟩
    · exact safe.todo sweep sweeping row member ref (shrunk row.1 ref live)
    · exact absurd acquire (acquires sweep sweeping conn now)
  · intro sweep row sweeping marked
    exact MCState.step_holders env q.server server action moved (acquires sweep sweeping) row.2
      (safe.marked sweep row sweeping marked)

theorem safe_begin (now : Nat) (safe : q.Safe) (taken : q.begin now = some next) : next.Safe := by
  unfold begin at taken
  split_ifs at taken
  cases taken
  refine ⟨safe.joined, ?_, ?_⟩
  · rintro sweep ⟨⟩ row member ref live
    rw [Option.toList_none, List.append_nil] at member
    exact Option.some.inj (live.symm.trans ((Table.mem_rows q.server.sessions row.1 row.2).mp member))
  · rintro sweep row ⟨⟩ marked
    cases marked

theorem safe_examine (row : ClientID × SessionRef) (safe : q.Safe) (unclaimed : q.Unclaimed (.examine row))
    (taken : q.examine row = some next) : next.Safe := by
  unfold examine at taken
  split at taken
  · rename_i now todo victims sweeping
    have mine : ∀ other ∈ todo, ∀ ref, q.server.sessions.lookup other.1 = some ref → ref = other.2 := fun other inside =>
      safe.todo _ sweeping other (List.mem_append_left _ inside)
    simp only [Unclaimed, sweeping] at unclaimed
    split_ifs at taken with member stale
    · cases taken
      refine ⟨safe.joined, ?_, ?_⟩
      · rintro sweep ⟨⟩ other inside
        rcases List.mem_append.mp inside with later | here
        · exact mine other (List.mem_of_mem_erase later)
        · exact List.mem_singleton.mp here ▸ mine row member
      · rintro sweep other ⟨⟩ ⟨⟩
        exact stale_idle q.server safe.joined now row.2 stale (unclaimed stale)
    · cases taken
      refine ⟨safe.joined, ?_, ?_⟩
      · rintro sweep ⟨⟩ other inside
        rw [Option.toList_none, List.append_nil] at inside
        exact mine other (List.mem_of_mem_erase inside)
      · rintro sweep other ⟨⟩ marked
        cases marked
  · cases taken

theorem safe_remove (safe : q.Safe) (taken : q.remove = some next) : next.Safe := by
  unfold remove at taken
  split at taken
  · rename_i now todo row victims sweeping
    cases taken
    refine ⟨unlist_joined q.server row safe.joined (safe.todo _ sweeping row (by simp)) (safe.marked _ row sweeping rfl), ?_, ?_⟩
    · rintro sweep ⟨⟩ other inside ref live
      rw [Option.toList_none, List.append_nil] at inside
      apply safe.todo _ sweeping other (List.mem_append_left _ inside) ref
      rw [MCState.unlist, Table.lookup_drop] at live
      split_ifs at live
      exact live
    · rintro sweep other ⟨⟩ marked
      cases marked
  · cases taken

theorem safe_unlock (safe : q.Safe) (taken : q.unlock = some next) : next.Safe := by
  unfold unlock at taken
  split at taken
  · cases taken
    refine ⟨MCState.joined_quiet q.server _ safe.joined rfl rfl rfl safe.joined.owners, ?_, ?_⟩
    · exact fun sweep sweeping => by cases sweeping
    · exact fun sweep row sweeping => by cases sweeping
  · cases taken

end Steps

theorem safe_step (env : Env) : Runs.Preserved (step env)
    (fun q action => action ≠ .server .tearDownAll ∧ q.Unclaimed action) Safe := by
  intro q action next safe ⟨serving, unclaimed⟩ taken
  cases action with
  | server action => exact safe_server env q next action safe (fun same => serving (by rw [same])) taken
  | lock now => exact safe_begin q next now safe taken
  | examine row => exact safe_examine q next row safe unclaimed taken
  | remove => exact safe_remove q next safe taken
  | unlock => exact safe_unlock q next safe taken

theorem safe_start (pool4 pool6 : Option IPPool) (userDB : Option UserDB) (queues : Nat) :
    (start (MCState.start pool4 pool6 userDB queues)).Safe := by
  refine ⟨⟨?_, ?_, ?_⟩, ?_, ?_⟩
  · exact fun clientID ref live => absurd live (by simp [start, MCState.start])
  · exact fun ref clientID count figures => absurd figures (by simp [start, MCState.start, MCState.tally])
  · exact fun entry member => absurd member (by simp [start, MCState.start])
  · exact fun sweep sweeping => by cases sweeping
  · exact fun sweep row sweeping => by cases sweeping

theorem sweep_finishes (env : Env) (st : MCState) (now : Nat) (todo : List (ClientID × SessionRef)) (victims : List SessionRef) :
    ∃ trace, Runs.Run (step env) ⟨st, some ⟨now, todo, none, victims⟩⟩ trace
      (start { st with
        sessions := Table.dropAll st.sessions ((todo.filter fun row => st.stale now row.2).map Prod.fst)
        ipIndex := Table.dropAll st.ipIndex ((todo.filter fun row => st.stale now row.2).flatMap fun row => st.indexedAddrs row.2)
        pending := st.pending ++ (victims ++ (todo.filter fun row => st.stale now row.2).map Prod.snd) }) := by
  induction todo generalizing st victims with
  | nil => exact ⟨_, .cons _ _ _ .unlock [] (by simp [step, unlock, MCState.await, start, Table.dropAll]) (.nil _)⟩
  | cons row rest ih =>
      by_cases stale : st.stale now row.2 = true
      · obtain ⟨trace, run⟩ := ih (st.unlist row) (victims ++ [row.2])
        refine ⟨_, .cons _ ⟨st, some ⟨now, rest, some row, victims⟩⟩ _ (.examine row) _ (by simp [step, examine, stale])
          (.cons _ ⟨st.unlist row, some ⟨now, rest, none, victims ++ [row.2]⟩⟩ _ .remove trace rfl ?_)⟩
        have kept : (st.unlist row).stale now = st.stale now := rfl
        have addresses : (st.unlist row).indexedAddrs = st.indexedAddrs := rfl
        rw [kept, addresses] at run
        simpa [stale, Table.dropAll, MCState.unlist, List.foldl_append] using run
      · obtain ⟨trace, run⟩ := ih st victims
        refine ⟨_, .cons _ ⟨st, some ⟨now, rest, none, victims⟩⟩ _ (.examine row) trace (by simp [step, examine, stale]) ?_⟩
        simpa [stale] using run

theorem sweep_collects (env : Env) (st : MCState) (now : Nat) :
    ∃ trace, Runs.Run (step env) (start st) trace (start (st.collect now)) := by
  obtain ⟨trace, run⟩ := sweep_finishes env st now (Table.rows st.sessions) []
  exact ⟨_, .cons _ _ _ (.lock now) trace rfl run⟩

-- Until shutdown. The session of every lane is in m.sessions under its own id,
-- and what collect has marked for removal no lane holds.
theorem lanes_keep_sessions (env : Env) (pool4 pool6 : Option IPPool) (userDB : Option UserDB) (queues : Nat)
    (trace : List (ReaperState × ReaperAction)) (final q : ReaperState)
    (run : Runs.Run (step env) (start (MCState.start pool4 pool6 userDB queues)) trace final)
    (serving : Runs.Allowed (fun _ action => action ≠ .server .tearDownAll) trace)
    (unclaimed : Runs.Allowed Unclaimed trace) (visited : Runs.Visited trace final q) :
    (∀ conn point ref, q.server.pointOf conn = some point → point.holds ref = true →
      ∃ s, q.server.heap[ref]? = some s ∧ q.server.sessions.lookup s.id = some ref) ∧
    (∀ next, q.step env .remove = some next → ∀ clientID ref,
      q.server.sessions.lookup clientID = some ref → next.server.sessions.lookup clientID = none →
      ∀ conn point, q.server.pointOf conn = some point → point.holds ref = false) := by
  have allowed : Runs.Allowed (fun q action => action ≠ .server .tearDownAll ∧ q.Unclaimed action) trace :=
    fun entry member => ⟨serving entry member, unclaimed entry member⟩
  have safe := Runs.visited_invariant (safe_step env) run allowed (safe_start pool4 pool6 userDB queues) visited
  constructor
  · intro conn point ref reached holding
    obtain ⟨entry, found, rfl⟩ := MCState.point_of_some q.server conn point reached
    obtain ⟨clientID, count, figures, live⟩ := safe.joined.held entry (List.mem_of_getElem? found) ref holding
    obtain ⟨s, stored, same⟩ := Option.map_eq_some_iff.mp figures
    obtain ⟨rfl, _⟩ := Prod.mk.inj same
    exact ⟨s, stored, live⟩
  · intro next taken clientID ref live gone conn point reached
    obtain ⟨entry, found, rfl⟩ := MCState.point_of_some q.server conn point reached
    rw [step, remove] at taken
    split at taken
    · rename_i now todo row victims sweeping
      cases taken
      rw [MCState.unlist, Table.lookup_drop] at gone
      split_ifs at gone with same
      · subst same
        rw [safe.todo _ sweeping row (by simp) ref live]
        exact safe.marked _ row sweeping rfl entry (List.mem_of_getElem? found)
      · rw [live] at gone
        cases gone
    · cases taken

end ReaperState

def sweptSteps : List ReaperAction :=
  ([Action.accept (helloBytes 0xAA), .accept (helloBytes 0xBB), .accept (helloBytes 0xAA)] ++ handshakeSteps 0 true ++
    handshakeSteps 1 true ++ handshakeSteps 2 true ++
    [Action.acquire 0 0, .attach 0 0, .acquire 1 0, .attach 1 0, .detach 1 0, .acquire 2 0]).map ReaperAction.server ++
  [.lock (idleTimeout + 1), .examine (clientA, 0), .server (.attach 2 0), .examine (clientB, 1), .remove, .unlock]

theorem lanes_keep_sessions_swept :
    ∃ q s, Runs.Reach (ReaperState.step pairEnv) ReaperState.Unclaimed (.start pairStart) q ∧
      q.server.sessions.lookup clientB = none ∧ (q.server.pointOf 2).any (ConnPoint.runs 0) = true ∧
      q.server.heap[0]? = some s ∧ q.server.sessions.lookup s.id = some 0 := by
  have observed : (Runs.execute (ReaperState.step pairEnv)
      (fun q action => action ≠ .server .tearDownAll ∧ q.Unclaimed action) (.start pairStart) sweptSteps).map
      (fun q => (q.server.sessions.lookup clientB, (q.server.pointOf 2).any (ConnPoint.runs 0))) = some (none, true) := by
    decide +kernel
  obtain ⟨trace, q, run, allowed, _, view⟩ := Runs.execute_seen _ _ _ _ observed
  obtain ⟨gone, running⟩ := Prod.mk.inj view
  have unclaimed : Runs.Allowed ReaperState.Unclaimed trace := fun entry member => (allowed entry member).2
  obtain ⟨point, reached, runs⟩ := (Option.any_eq_true (ConnPoint.runs 0) _).mp running
  obtain ⟨s, stored, live⟩ := (ReaperState.lanes_keep_sessions pairEnv (some pairPool) none (some pairDB) 1 trace q q run
    (fun entry member => (allowed entry member).1) unclaimed (.inl rfl)).1 2 point 0 reached
    (by rw [ConnPoint.holds, runs, Bool.or_true])
  exact ⟨q, s, ⟨trace, run, unclaimed⟩, gone, running, stored, live⟩

-- Ann's first lane has ended long ago, and the second has just found the
-- session when collect looks at it.
def staleJoinSteps : List ReaperAction :=
  ([Action.accept (helloBytes 0xAA)] ++ handshakeSteps 0 true ++
    [Action.acquire 0 0, .attach 0 0, .detach 0 0, .accept (helloBytes 0xAA)] ++ handshakeSteps 1 true ++
    [Action.acquire 1 (idleTimeout + 1)]).map ReaperAction.server ++
  [.lock (idleTimeout + 1), .examine (clientA, 0), .remove, .unlock, .server (.attach 1 (idleTimeout + 1))]

theorem running_lane_reaped :
    ∃ q s, Runs.Reach (ReaperState.step pairEnv) (fun _ action => action ≠ .server .tearDownAll) (.start pairStart) q ∧
      (q.server.pointOf 1).any (ConnPoint.runs 0) = true ∧ q.server.heap[0]? = some s ∧
      q.server.sessions.lookup s.id = none := by
  have observed : (Runs.execute (ReaperState.step pairEnv) (fun _ action => action ≠ .server .tearDownAll) (.start pairStart)
      staleJoinSteps).map (fun q => ((q.server.pointOf 1).any (ConnPoint.runs 0), (q.server.heap[0]?).map Session.id,
        q.server.sessions.lookup clientA)) = some (true, some clientA, none) := by
    decide +kernel
  obtain ⟨q, completed, view⟩ := Option.map_eq_some_iff.mp observed
  simp only [Prod.mk.injEq] at view
  obtain ⟨running, named, gone⟩ := view
  obtain ⟨s, stored, id⟩ := Option.map_eq_some_iff.mp named
  exact ⟨q, s, Runs.execute_reach _ _ _ completed, running, stored, by rw [id]; exact gone⟩

end Packethose
