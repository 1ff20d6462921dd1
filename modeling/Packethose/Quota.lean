import Packethose.Lib.Counting
import Packethose.Lib.Outcomes
import Packethose.SessionEffects

set_option autoImplicit false

namespace Packethose

-- tearDown marks the session closed under its own mutex and gives the slot
-- back some time later, with nothing held in between. The server with the
-- two halves of tearDown as separate steps: finishing are the sessions whose
-- tearDown stands between them. The last three fields are histories: how
-- many reloads took effect, the reload count each session's slot was taken
-- at (none where no slot was needed), and the sessions ReleaseSlot was
-- called for.
structure QuotaState where
  server : MCState
  finishing : List SessionRef
  generation : Nat
  slots : List (Option Nat)
  released : List SessionRef

inductive QuotaAction where
  | server (action : Action)
  | beginTearDown (ref : SessionRef)
  | finishTearDown (ref : SessionRef)
deriving DecidableEq

def Action.tearsDown : Action → Bool
  | .tearDown _ => true
  | _ => false

def Action.reloads : Action → Bool
  | .reload users => (UserDB.newUserDB users).isOk
  | _ => false

def Session.badge (s : Session) : String × Bool := (s.userName, s.isClosed)

namespace MCState

def badge (st : MCState) (ref : SessionRef) : Option (String × Bool) := (st.heap[ref]?).map Session.badge

def keepsSlots (st : MCState) : Bool :=
  match st.userDB with
  | some db => !db.isEmpty
  | none => false

end MCState

namespace QuotaState

def origin (q : QuotaState) : Option Nat := if q.server.keepsSlots then some q.generation else none

def follow (q : QuotaState) (action : Action) (next : MCState) : QuotaState :=
  { q with
    server := next
    generation := if action.reloads then q.generation + 1 else q.generation
    slots := if q.server.heap.length < next.heap.length then q.slots ++ [q.origin] else q.slots }

def enroll (q : QuotaState) (next : MCState) : QuotaState := { q with server := next, slots := q.slots ++ [q.origin] }

def markClosed (q : QuotaState) (ref : SessionRef) : QuotaState :=
  { q with
    server := (q.server.forget ref).setSession ref Session.tornDown
    finishing := q.finishing ++ [ref] }

def beginTearDown (q : QuotaState) (ref : SessionRef) : Option QuotaState :=
  (q.server.heap[ref]?).bind fun s =>
    if s.isClosed then some { q with server := q.server.forget ref }
    else if ref ∈ q.server.pending then some (q.markClosed ref)
    else none

def giveBack (q : QuotaState) (ref : SessionRef) (s : Session) : QuotaState :=
  { q with
    server := (q.server.releaseAll s.id).setUserDB
      (if s.userName ≠ "" then q.server.userDB.map (fun users => users.releaseSlot s.userName) else q.server.userDB)
    finishing := q.finishing.erase ref
    released := if s.userName ≠ "" ∧ q.server.userDB.isSome then q.released ++ [ref] else q.released }

def finishTearDown (q : QuotaState) (ref : SessionRef) : Option QuotaState :=
  if ref ∈ q.finishing then (q.server.heap[ref]?).map (q.giveBack ref) else none

def step (env : Env) (q : QuotaState) : QuotaAction → Option QuotaState
  | .server action => if action.tearsDown then none else (q.server.step env action).map (q.follow action)
  | .beginTearDown ref => q.beginTearDown ref
  | .finishTearDown ref => q.finishTearDown ref

def start (pool4 pool6 : Option IPPool) (userDB : Option UserDB) (queues : Nat) : QuotaState :=
  ⟨.start pool4 pool6 userDB queues, [], 0, [], []⟩

theorem tear_down_in_two (env : Env) (q : QuotaState) (ref : SessionRef) (next : MCState)
    (taken : q.server.tearDown ref = some next) :
    ∃ middle, q.step env (.beginTearDown ref) = some middle ∧
      (middle.server = next ∨ ∃ last, middle.step env (.finishTearDown ref) = some last ∧ last.server = next) := by
  unfold MCState.tearDown at taken
  split_ifs at taken with waiting
  obtain ⟨s, stored, same⟩ := Option.map_eq_some_iff.mp taken
  cases closed : s.isClosed with
  | true =>
      simp only [closed, if_true] at same
      exact ⟨{ q with server := q.server.forget ref }, by simp [step, beginTearDown, stored, closed], .inl same⟩
  | false =>
      refine ⟨q.markClosed ref, by simp [step, beginTearDown, stored, closed, waiting], .inr ?_⟩
      refine ⟨(q.markClosed ref).giveBack ref s.tornDown, ?_, ?_⟩
      · simp [step, finishTearDown, markClosed, MCState.setSession, MCState.forget, stored]
      · rw [← same]
        by_cases named : s.userName = ""
        · simp [closed, giveBack, markClosed, named, Session.tornDown, MCState.setUserDB, MCState.releaseAll]
        · simp [closed, giveBack, markClosed, named, Session.tornDown]
          rfl

inductive Change (q : QuotaState) : QuotaAction → QuotaState → Prop where
  | quiet (action : Action) (next : MCState) (badges : next.badge = q.server.badge)
      (length : next.heap.length = q.server.heap.length) (userDB : next.userDB = q.server.userDB) :
      Change q (.server action) { q with server := next }
  | opened (conn now : Nat) (name : String) (next : MCState) (db : Option UserDB)
      (slot : MCState.takeSlot q.server.userDB name = .ok db)
      (badges : ∀ ref, next.badge ref = if ref = q.server.heap.length then some (name, false) else q.server.badge ref)
      (length : next.heap.length = q.server.heap.length + 1) (userDB : next.userDB = db) :
      Change q (.server (.acquire conn now)) (q.enroll next)
  | reloaded (users : List User) (db : UserDB) (made : UserDB.newUserDB users = .ok db) :
      Change q (.server (.reload users)) { q with server := q.server.setUserDB (some db), generation := q.generation + 1 }
  | again (ref : SessionRef) : Change q (.beginTearDown ref) { q with server := q.server.forget ref }
  | begun (ref : SessionRef) (s : Session) (waiting : ref ∈ q.server.pending) (stored : q.server.heap[ref]? = some s)
      (unclosed : s.isClosed = false) :
      Change q (.beginTearDown ref) (q.markClosed ref)
  | finished (ref : SessionRef) (s : Session) (underway : ref ∈ q.finishing) (stored : q.server.heap[ref]? = some s) :
      Change q (.finishTearDown ref) (q.giveBack ref s)

theorem set_session_badge (st : MCState) (ref : SessionRef) (change : Session → Session)
    (same : ∀ s, (change s).badge = s.badge) : (st.setSession ref change).badge = st.badge := by
  funext other
  simp only [MCState.badge, MCState.setSession, List.getElem?_modify]
  cases st.heap[other]? with
  | none => rfl
  | some s => by_cases here : ref = other <;> simp [here, same]

theorem lane_change_badge (st : MCState) (conn : Nat) (ref : SessionRef) (s : Session) (action : Action) (point : ConnPoint)
    (change : Session → Session) (next : MCState) (changed : MCState.LaneChange st conn ref s action point change next) :
    action.reloads = false ∧ next.badge = st.badge ∧ next.heap.length = st.heap.length ∧ next.userDB = st.userDB := by
  cases changed <;>
    exact ⟨rfl, set_session_badge st ref _ fun _ => rfl, by simp [MCState.setSession, MCState.setPoint], rfl⟩

theorem follow_quiet (q : QuotaState) (action : Action) (next : MCState) (unchanged : action.reloads = false)
    (badges : next.badge = q.server.badge) (length : next.heap.length = q.server.heap.length)
    (userDB : next.userDB = q.server.userDB) : Change q (.server action) (q.follow action next) := by
  have same : q.follow action next = { q with server := next } := by simp [follow, unchanged, length]
  rw [same]
  exact .quiet action next badges length userDB

end QuotaState

theorem MCState.open_session_badge (st : MCState) (ident : LaneIdentity) (db : Option UserDB) (now : Nat) (ref : SessionRef) :
    (st.openSession ident db now).badge ref =
      if ref = st.heap.length then some (ident.userName, false) else st.badge ref := by
  rw [badge, (open_session_frame st ident db now).1]
  split_ifs with same
  · simp [same, newSession, Session.badge]
  · rcases Nat.lt_or_gt_of_ne same with before | behind
    · rw [List.getElem?_append_left before, badge]
    · rw [badge, List.getElem?_eq_none (by simp; omega), List.getElem?_eq_none (by omega)]

theorem MCState.open_session_db (st : MCState) (ident : LaneIdentity) (db : Option UserDB) (now : Nat) :
    (st.openSession ident db now).userDB = db ∧ (st.openSession ident db now).pending = st.pending := by
  have kept : ∀ (st : MCState) ref family, (st.register ident ref family).userDB = st.userDB ∧
      (st.register ident ref family).pending = st.pending := by
    intro st ref family
    unfold register
    split_ifs
    · cases family <;> exact ⟨rfl, rfl⟩
    · exact ⟨rfl, rfl⟩
  unfold openSession
  rw [(kept _ _ .v6).1, (kept _ _ .v4).1, (kept _ _ .v6).2, (kept _ _ .v4).2]
  exact ⟨rfl, rfl⟩

namespace QuotaState

theorem server_change (env : Env) (q : QuotaState) (action : Action) (next : MCState) (whole : action.tearsDown = false)
    (effect : MCState.Effect env q.server action next) : Change q (.server action) (q.follow action next) := by
  cases effect with
  | opened conn now entry ident db found admitted absent slot =>
      have length : ((q.server.openSession ident db now).setPoint conn (.joining q.server.heap.length)).heap.length =
          q.server.heap.length + 1 := by
        simp [MCState.setPoint, (MCState.open_session_frame q.server ident db now).1]
      have same : q.follow (.acquire conn now) ((q.server.openSession ident db now).setPoint conn (.joining q.server.heap.length)) =
          q.enroll ((q.server.openSession ident db now).setPoint conn (.joining q.server.heap.length)) := by
        simp [follow, enroll, Action.reloads, length]
      rw [same]
      exact .opened conn now ident.userName _ db slot (MCState.open_session_badge q.server ident db now) length
        (MCState.open_session_db q.server ident db now).1
  | reloaded users db made =>
      have same : q.follow (.reload users) (q.server.setUserDB (some db)) =
          { q with server := q.server.setUserDB (some db), generation := q.generation + 1 } := by
        simp [follow, Action.reloads, made, Except.isOk, Except.toBool, MCState.setUserDB]
      rw [same]
      exact .reloaded users db made
  | unreloaded users problem refused =>
      exact follow_quiet q _ _ (by simp [Action.reloads, refused, Except.isOk, Except.toBool]) rfl rfl rfl
  | tornAgain | torn => cases whole
  | moved _ conn entry point actor =>
      exact follow_quiet q action _ (by cases action <;> first | rfl | cases actor) rfl rfl rfl
  | released _ conn entry clientID actor =>
      exact follow_quiet q action _ (by cases action <;> first | rfl | cases actor) rfl rfl rfl
  | allocated _ _ family => cases family <;> exact follow_quiet q _ _ rfl rfl rfl rfl
  | laned _ conn entry ref s change _ found stored changed =>
      obtain ⟨unchanged, badges, length, userDB⟩ :=
        lane_change_badge q.server conn ref s action entry.point change next changed
      exact follow_quiet q action next unchanged badges length userDB
  | accepted | collected | cleared | ignored | matched | dropped => exact follow_quiet q _ _ rfl rfl rfl rfl
  | queued reader packet ref =>
      exact follow_quiet q _ _ rfl (set_session_badge (q.server.setReader reader none) ref _ fun _ => rfl)
        (by simp [MCState.noteDispatch, MCState.setSession, MCState.setReader]) rfl

theorem step_change (env : Env) (q next : QuotaState) (action : QuotaAction) (taken : q.step env action = some next) :
    Change q action next := by
  cases action with
  | server action =>
      simp only [step] at taken
      split_ifs at taken with tears
      obtain ⟨after, stepped, same⟩ := Option.map_eq_some_iff.mp taken
      exact same ▸ server_change env q action after (Bool.not_eq_true _ ▸ tears)
        (MCState.step_effect env q.server after action stepped)
  | beginTearDown ref =>
      simp only [step, beginTearDown] at taken
      obtain ⟨s, stored, same⟩ := Option.bind_eq_some_iff.mp taken
      split_ifs at same with closed waiting
      · exact Option.some.inj same ▸ .again ref
      · exact Option.some.inj same ▸ .begun ref s waiting stored (Bool.not_eq_true _ ▸ closed)
  | finishTearDown ref =>
      simp only [step, finishTearDown] at taken
      split_ifs at taken with underway
      obtain ⟨s, stored, same⟩ := Option.map_eq_some_iff.mp taken
      exact same ▸ .finished ref s underway stored

def unfinished (q : QuotaState) (name : String) (ref : SessionRef) : Bool :=
  match q.server.badge ref with
  | some (user, closed) => user == name && (!closed || q.finishing.contains ref)
  | none => false

def holds (q : QuotaState) (name : String) (ref : SessionRef) : Bool :=
  q.unfinished name ref && q.slots[ref]? == some (some q.generation)

structure Entered (q : QuotaState) (db : UserDB) (name : String) (entry : UserEntry) : Prop where
  named : name ≠ ""
  kept : db.isEmpty = false
  counted : entry.active = Counting.below q.server.heap.length (q.holds name)
  bounded : entry.u.maxConcurrent > 0 → (entry.active : Int) ≤ entry.u.maxConcurrent

structure Accounted (q : QuotaState) : Prop where
  length : q.slots.length = q.server.heap.length
  dated : ∀ (ref : SessionRef) (generation : Nat), q.slots[ref]? = some (some generation) → generation ≤ q.generation
  distinct : q.finishing.Nodup
  closed : ∀ ref ∈ q.finishing, ∃ name, q.server.badge ref = some (name, true)
  entered : ∀ db name entry, q.server.userDB = some db → db.byName.lookup name = some entry → Entered q db name entry

-- The steps of tearDown that give a slot back into the database it was taken
-- from, or into one that has none to lose.
def ReleasesOwn (q : QuotaState) : QuotaAction → Prop
  | .finishTearDown ref =>
      match q.server.heap[ref]? with
      | some s =>
          s.userName = "" ∨ q.slots[ref]? = some (some q.generation) ∨
            ((q.server.userDB.bind fun db => db.byName.lookup s.userName).map UserEntry.active).getD 0 = 0
      | none => True
  | _ => True

instance (q : QuotaState) (action : QuotaAction) : Decidable (ReleasesOwn q action) := by
  unfold ReleasesOwn
  split
  · split <;> infer_instance
  · infer_instance

theorem new_entered (users : List User) (db : UserDB) (made : UserDB.newUserDB users = .ok db) (name : String)
    (entry : UserEntry) (found : db.byName.lookup name = some entry) :
    name ≠ "" ∧ db.isEmpty = false ∧ entry.active = 0 := by
  obtain ⟨member, _, unused⟩ := (UserDB.new_user_db_names users db made name entry).mp found
  refine ⟨((UserDB.new_user_db_consistent users db made).named name entry found).2, ?_, unused⟩
  rw [← Bool.not_eq_true, UserDB.new_user_db_empty users db made]
  exact List.ne_nil_of_mem member

theorem start_accounted (pool4 pool6 : Option IPPool) (userDB : Option UserDB) (queues : Nat)
    (accepted : ∀ db, userDB = some db → ∃ users, UserDB.newUserDB users = .ok db) :
    Accounted (start pool4 pool6 userDB queues) := by
  refine ⟨rfl, ?_, .nil, ?_, ?_⟩
  · intro ref generation slot
    simp [start] at slot
  · intro ref member
    cases member
  · intro db name entry inForce found
    obtain ⟨users, made⟩ := accepted db inForce
    obtain ⟨named, kept, unused⟩ := new_entered users db made name entry found
    exact ⟨named, kept, by simp [unused, start, MCState.start, Counting.below], fun positive => by rw [unused]; omega⟩

theorem unfinished_congr (q next : QuotaState) (name : String) (ref : SessionRef)
    (badge : next.server.badge ref = q.server.badge ref) (underway : ref ∈ next.finishing ↔ ref ∈ q.finishing) :
    next.unfinished name ref = q.unfinished name ref := by
  have listed : next.finishing.contains ref = q.finishing.contains ref := by simp [underway]
  rw [unfinished, unfinished, badge, listed]

theorem holds_congr (q next : QuotaState) (name : String) (ref : SessionRef)
    (badge : next.server.badge ref = q.server.badge ref) (underway : ref ∈ next.finishing ↔ ref ∈ q.finishing)
    (slots : next.slots[ref]? = q.slots[ref]?) (generation : next.generation = q.generation) :
    next.holds name ref = q.holds name ref := by
  rw [holds, holds, unfinished_congr q next name ref badge underway, slots, generation]

theorem unfinished_iff (q : QuotaState) (name : String) (ref : SessionRef) :
    q.unfinished name ref = true ↔
      ∃ closed, q.server.badge ref = some (name, closed) ∧ (closed = false ∨ ref ∈ q.finishing) := by
  unfold unfinished
  cases badge : q.server.badge ref with
  | none => simp
  | some pair =>
      cases pair
      simp only [Bool.and_eq_true, beq_iff_eq, Bool.or_eq_true, Bool.not_eq_true', List.contains_iff_mem,
        Option.some.injEq, Prod.mk.injEq]
      grind

theorem holds_iff (q : QuotaState) (name : String) (ref : SessionRef) :
    q.holds name ref = true ↔ q.unfinished name ref = true ∧ q.slots[ref]? = some (some q.generation) := by
  simp [holds]

theorem quiet_accounted (q : QuotaState) (next : MCState) (badges : next.badge = q.server.badge)
    (length : next.heap.length = q.server.heap.length) (userDB : next.userDB = q.server.userDB) (good : Accounted q) :
    Accounted { q with server := next } := by
  refine ⟨by rw [length]; exact good.length, good.dated, good.distinct, by rw [badges]; exact good.closed, ?_⟩
  intro db name entry inForce found
  obtain ⟨named, kept, counted, bounded⟩ := good.entered db name entry (userDB ▸ inForce) found
  refine ⟨named, kept, ?_, bounded⟩
  rw [counted, length]
  refine Counting.below_congr _ _ _ fun ref _ => ?_
  exact (holds_congr q { q with server := next } name ref (congrFun badges ref) Iff.rfl rfl rfl).symm

theorem reloaded_accounted (q : QuotaState) (users : List User) (db : UserDB) (made : UserDB.newUserDB users = .ok db)
    (good : Accounted q) :
    Accounted { q with server := q.server.setUserDB (some db), generation := q.generation + 1 } := by
  refine ⟨good.length, fun ref generation slot => (good.dated ref generation slot).trans (Nat.le_succ _), good.distinct,
    good.closed, ?_⟩
  intro current name entry inForce found
  obtain rfl : db = current := Option.some.inj inForce
  obtain ⟨named, kept, unused⟩ := new_entered users db made name entry found
  refine ⟨named, kept, ?_, fun positive => by rw [unused]; omega⟩
  rw [unused, Counting.below_none]
  -- No slot can have been taken from a database that has only just come.
  intro ref
  have older : q.slots[ref]? ≠ some (some (q.generation + 1)) := fun slot =>
    absurd (good.dated ref _ slot) (by omega)
  simp [holds, older]

theorem mark_closed_badge (q : QuotaState) (ref other : SessionRef) :
    (q.markClosed ref).server.badge other =
      (q.server.badge other).map fun badge => if other = ref then (badge.1, true) else badge := by
  simp only [markClosed, MCState.badge, MCState.setSession, MCState.forget, List.getElem?_modify]
  cases q.server.heap[other]? with
  | none => rfl
  | some s => by_cases same : other = ref <;> simp [same, Ne.symm, Session.badge, Session.tornDown]

theorem mark_closed_length (q : QuotaState) (ref : SessionRef) :
    (q.markClosed ref).server.heap.length = q.server.heap.length := by
  simp [markClosed, MCState.setSession, MCState.forget]

theorem begun_accounted (q : QuotaState) (ref : SessionRef) (s : Session) (stored : q.server.heap[ref]? = some s)
    (unclosed : s.isClosed = false) (good : Accounted q) : Accounted (q.markClosed ref) := by
  have badge : q.server.badge ref = some (s.userName, false) := by simp [MCState.badge, stored, Session.badge, unclosed]
  have marked : (q.markClosed ref).server.badge ref = some (s.userName, true) := by
    rw [mark_closed_badge, badge]
    simp
  have others : ∀ other, other ≠ ref → (q.markClosed ref).server.badge other = q.server.badge other := by
    intro other different
    simp [mark_closed_badge, different]
  have fresh : ref ∉ q.finishing := by
    intro underway
    obtain ⟨name, closed⟩ := good.closed ref underway
    rw [badge] at closed
    cases closed
  refine ⟨?_, good.dated, ?_, ?_, ?_⟩
  · rw [mark_closed_length]
    exact good.length
  · simpa [markClosed, List.nodup_append, good.distinct] using fun other member => (ne_of_mem_of_not_mem member fresh)
  · intro other member
    by_cases same : other = ref
    · exact ⟨s.userName, same ▸ marked⟩
    · rw [others other same]
      exact good.closed other (by simpa [markClosed, same] using member)
  · intro db name entry inForce found
    obtain ⟨named, kept, counted, bounded⟩ := good.entered db name entry inForce found
    refine ⟨named, kept, ?_, bounded⟩
    rw [counted, mark_closed_length]
    refine Counting.below_congr _ _ _ fun other _ => ?_
    by_cases same : other = ref
    · subst same
      rw [Bool.eq_iff_iff, holds_iff, holds_iff, unfinished_iff, unfinished_iff, badge, marked]
      simp [markClosed]
    · exact (holds_congr q _ name other (others other same) (by simp [markClosed, same]) rfl rfl).symm

theorem admitted_count (q : QuotaState) (name other : String) (next : MCState)
    (badges : ∀ ref, next.badge ref = if ref = q.server.heap.length then some (name, false) else q.server.badge ref)
    (length : next.heap.length = q.server.heap.length + 1) (aligned : q.slots.length = q.server.heap.length) :
    Counting.below (q.enroll next).server.heap.length ((q.enroll next).holds other) =
      Counting.below q.server.heap.length (q.holds other) + if name = other ∧ q.server.keepsSlots = true then 1 else 0 := by
  have grown : (q.enroll next).server.heap.length = q.server.heap.length + 1 := length
  rw [grown, Counting.below_succ]
  congr 1
  · refine Counting.below_congr _ _ _ fun ref before => holds_congr q _ other ref ?_ Iff.rfl ?_ rfl
    · exact (badges ref).trans (if_neg (Nat.ne_of_lt before))
    · exact List.getElem?_append_left (aligned ▸ before)
  · have last : (q.enroll next).server.badge q.server.heap.length = some (name, false) := (badges _).trans (if_pos rfl)
    have slot : (q.enroll next).slots[q.server.heap.length]? = some q.origin := by
      rw [← aligned]
      exact List.getElem?_concat_length
    refine if_congr ?_ rfl rfl
    rw [holds_iff, unfinished_iff, last, slot]
    simp [origin, enroll]

theorem take_slot_cases (db changed : Option UserDB) (name : String) (slot : MCState.takeSlot db name = .ok changed) :
    (changed = db ∧ ∀ users, db = some users → users.isEmpty = true) ∨
      ∃ users after, db = some users ∧ changed = some after ∧ users.isEmpty = false ∧ users.acquireSlot name = .ok after := by
  cases db with
  | none =>
      obtain rfl := Except.ok.inj slot
      exact .inl ⟨rfl, fun users absent => by cases absent⟩
  | some users =>
      rw [MCState.takeSlot] at slot
      split_ifs at slot with unused
      · obtain rfl := Except.ok.inj slot
        exact .inl ⟨rfl, fun other same => Option.some.inj same ▸ unused⟩
      · obtain ⟨after, taken, same⟩ := Outcomes.map_ok slot
        exact .inr ⟨users, after, rfl, same.symm, by simpa using unused, taken⟩

theorem opened_accounted (q : QuotaState) (name : String) (next : MCState) (db : Option UserDB)
    (slot : MCState.takeSlot q.server.userDB name = .ok db)
    (badges : ∀ ref, next.badge ref = if ref = q.server.heap.length then some (name, false) else q.server.badge ref)
    (length : next.heap.length = q.server.heap.length + 1) (userDB : next.userDB = db) (good : Accounted q) :
    Accounted (q.enroll next) := by
  refine ⟨?_, ?_, good.distinct, ?_, ?_⟩
  · simp [enroll, length, good.length]
  · intro ref generation taken
    rw [enroll, List.getElem?_append] at taken
    split_ifs at taken with before
    · exact good.dated ref generation taken
    · obtain ⟨_, same⟩ := List.getElem?_eq_some_iff.mp taken
      simp only [List.getElem_singleton, origin] at same
      split_ifs at same
      exact (Option.some.inj same).ge
  · intro ref underway
    obtain ⟨user, closed⟩ := good.closed ref underway
    refine ⟨user, ?_⟩
    have before : ref ≠ q.server.heap.length := by
      rintro rfl
      simp [MCState.badge] at closed
    exact (badges ref).trans ((if_neg before).trans closed)
  · intro current other entry inForce found
    have count := admitted_count q name other next badges length good.length
    obtain rfl : db = some current := userDB.symm.trans inForce
    obtain ⟨same, idle⟩ | ⟨users, changed, before, same, unused, taken⟩ := take_slot_cases _ _ name slot
    · -- An empty database has no entry to account for.
      have kept := (good.entered current other entry same.symm found).kept
      rw [idle current same.symm] at kept
      cases kept
    · obtain rfl := Option.some.inj same
      obtain ⟨old, known, room, keys, lookups⟩ := UserDB.acquire_slot_result users current name taken
      have keeps : q.server.keepsSlots = true := by simp [MCState.keepsSlots, before, unused]
      have stillKept : current.isEmpty = false := by simpa [UserDB.isEmpty, keys] using unused
      rw [lookups] at found
      split_ifs at found with same
      · obtain rfl := Option.some.inj found
        subst same
        obtain ⟨named, _, counted, _⟩ := good.entered users other old before known
        refine ⟨named, stillKept, ?_, fun positive => ?_⟩
        · rw [count, if_pos ⟨rfl, keeps⟩, counted]
        · have below := fun full => room ⟨positive, full⟩
          dsimp only at positive ⊢
          push_cast
          omega
      · obtain ⟨named, _, counted, bounded⟩ := good.entered users other entry before found
        refine ⟨named, stillKept, ?_, bounded⟩
        rw [count, if_neg fun both => same both.1.symm, counted]
        rfl

theorem finished_count (q : QuotaState) (ref : SessionRef) (s : Session) (name : String) (underway : ref ∈ q.finishing)
    (stored : q.server.heap[ref]? = some s) (good : Accounted q) :
    Counting.below (q.giveBack ref s).server.heap.length ((q.giveBack ref s).holds name) +
        (if s.userName = name ∧ q.slots[ref]? = some (some q.generation) then 1 else 0) =
      Counting.below q.server.heap.length (q.holds name) := by
  have kept : ∀ other, other ≠ ref → (q.giveBack ref s).holds name other = q.holds name other := fun other different =>
    holds_congr q _ name other rfl (List.mem_erase_of_ne different) rfl rfl
  have badge : q.server.badge ref = some (s.userName, true) := by
    obtain ⟨user, closed⟩ := good.closed ref underway
    rw [closed]
    simp only [MCState.badge, stored, Option.map_some, Session.badge, Option.some.injEq, Prod.mk.injEq] at closed
    rw [closed.1]
  have freed : (q.giveBack ref s).holds name ref = false := by
    have gone : ref ∉ (q.giveBack ref s).finishing := good.distinct.not_mem_erase
    have same : (q.giveBack ref s).server.badge ref = some (s.userName, true) := badge
    rw [← Bool.not_eq_true, holds_iff, unfinished_iff, same]
    simp [gone]
  have held : q.holds name ref = true ↔ s.userName = name ∧ q.slots[ref]? = some (some q.generation) := by
    rw [holds_iff, unfinished_iff, badge]
    simp [underway]
  have bound : (q.giveBack ref s).server.heap.length = q.server.heap.length := rfl
  rw [bound]
  split_ifs with own
  · have inside : ref < q.server.heap.length := (List.getElem?_eq_some_iff.mp stored).1
    exact (Counting.below_flip q.server.heap.length ref (q.holds name) ((q.giveBack ref s).holds name) inside (held.mpr own) freed
      fun other different => (kept other different).symm).symm
  · refine Counting.below_congr _ _ _ fun other _ => ?_
    by_cases same : other = ref
    · rw [same, freed, eq_comm, ← Bool.not_eq_true, held]
      exact own
    · exact kept other same

theorem finished_accounted (q : QuotaState) (ref : SessionRef) (s : Session) (underway : ref ∈ q.finishing)
    (stored : q.server.heap[ref]? = some s) (own : ReleasesOwn q (.finishTearDown ref)) (good : Accounted q) :
    Accounted (q.giveBack ref s) := by
  refine ⟨good.length, good.dated, good.distinct.erase ref, fun other member => good.closed other (List.mem_of_mem_erase member), ?_⟩
  intro db name entry inForce found
  have count := finished_count q ref s name underway stored good
  by_cases nameless : s.userName = ""
  · have current : q.server.userDB = some db := by simpa [giveBack, nameless, MCState.setUserDB] using inForce
    obtain ⟨named, nonempty, counted, bounded⟩ := good.entered db name entry current found
    rw [if_neg fun both => named (both.1.symm.trans nameless)] at count
    exact ⟨named, nonempty, counted.trans count.symm, bounded⟩
  · have mapped : q.server.userDB.map (fun users => users.releaseSlot s.userName) = some db := by
      simpa [giveBack, nameless, MCState.setUserDB] using inForce
    obtain ⟨users, before, rfl⟩ := Option.map_eq_some_iff.mp mapped
    rw [UserDB.release_slot_result] at found
    obtain ⟨old, known, changed⟩ := Option.map_eq_some_iff.mp found
    obtain ⟨named, nonempty, counted, bounded⟩ := good.entered users name old before known
    have stillKept : (users.releaseSlot s.userName).isEmpty = false := by
      rw [UserDB.isEmpty, UserDB.release_slot_keys]
      exact nonempty
    split_ifs at changed with same
    · subst same changed
      refine ⟨named, stillKept, ?_, fun positive => ?_⟩
      · by_cases taken : q.slots[ref]? = some (some q.generation)
        · rw [if_pos ⟨rfl, taken⟩] at count
          dsimp only
          omega
        · have unused : old.active = 0 := by
            simpa [ReleasesOwn, stored, nameless, taken, before, known] using own
          rw [if_neg fun both => taken both.2] at count
          dsimp only
          omega
      · have limit := bounded positive
        dsimp only at limit ⊢
        omega
    · subst changed
      rw [if_neg fun both => same both.1.symm] at count
      exact ⟨named, stillKept, counted.trans count.symm, bounded⟩

theorem accounted_step (env : Env) :
    Runs.Preserved (step env) ReleasesOwn Accounted := by
  intro q action next good own taken
  cases step_change env q next action taken with
  | quiet action after badges length userDB => exact quiet_accounted q after badges length userDB good
  | opened conn now name after db slot badges length userDB =>
      exact opened_accounted q name after db slot badges length userDB good
  | reloaded users db made => exact reloaded_accounted q users db made good
  | again ref => exact quiet_accounted q (q.server.forget ref) rfl rfl rfl good
  | begun ref s waiting stored unclosed => exact begun_accounted q ref s stored unclosed good
  | finished ref s underway stored => exact finished_accounted q ref s underway stored own good

end QuotaState

end Packethose
