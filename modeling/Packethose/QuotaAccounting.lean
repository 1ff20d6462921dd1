import Packethose.Quota
import Packethose.SessionPools

set_option autoImplicit false

namespace Packethose

namespace UserDB

def roster (db : UserDB) (name : String) : Option User := (db.byName.lookup name).map UserEntry.u

theorem acquire_slot_roster (db next : UserDB) (name : String) (taken : db.acquireSlot name = .ok next) :
    next.roster = db.roster ∧ next.isEmpty = db.isEmpty ∧ (db.roster name).isSome := by
  obtain ⟨entry, known, _, keys, lookups⟩ := acquire_slot_result db next name taken
  refine ⟨?_, by rw [isEmpty, isEmpty, keys], by simp [roster, known]⟩
  funext other
  rw [roster, roster, lookups]
  split_ifs with same
  · rw [same, known]
    rfl
  · rfl

theorem release_slot_roster (db : UserDB) (name : String) :
    (db.releaseSlot name).roster = db.roster ∧ (db.releaseSlot name).isEmpty = db.isEmpty := by
  refine ⟨?_, by rw [isEmpty, isEmpty, release_slot_keys]⟩
  funext other
  rw [roster, roster, release_slot_result, Option.map_map]
  congr 1
  funext entry
  by_cases same : other = name <;> simp [same]

theorem take_slot_roster (db : UserDB) (name : String) (next : Option UserDB)
    (taken : MCState.takeSlot (some db) name = .ok next) :
    ∃ changed, next = some changed ∧ changed.roster = db.roster ∧ changed.isEmpty = db.isEmpty ∧
      (db.isEmpty = false → (db.roster name).isSome) := by
  obtain ⟨same, idle⟩ | ⟨users, changed, before, same, _, acquired⟩ := QuotaState.take_slot_cases _ _ name taken
  · exact ⟨db, same, rfl, rfl, fun nonempty => absurd (idle db rfl) (by simp [nonempty])⟩
  · obtain rfl := Option.some.inj before
    obtain ⟨roster, sameSize, known⟩ := acquire_slot_roster db changed name acquired
    exact ⟨changed, same, roster, sameSize, fun _ => known⟩

end UserDB

namespace QuotaState

def KeepsUsers (_ : QuotaState) : QuotaAction → Prop
  | .server action => action.reloads = false
  | _ => True

instance (q : QuotaState) (action : QuotaAction) : Decidable (KeepsUsers q action) := by
  unfold KeepsUsers
  split <;> infer_instance

def returned (q : QuotaState) (ref : SessionRef) (closed : Bool) : Nat := if closed = true ∧ ref ∉ q.finishing then 1 else 0

structure FirstUsers (db : UserDB) (q : QuotaState) : Prop where
  generation : q.generation = 0
  inForce : ∃ current, q.server.userDB = some current ∧ current.roster = db.roster ∧ current.isEmpty = db.isEmpty
  slotted : db.isEmpty = false → ∀ ref name closed, q.server.badge ref = some (name, closed) →
    q.slots[ref]? = some (some 0) ∧ (db.roster name).isSome
  aligned : q.slots.length = q.server.heap.length
  known : ∀ ref ∈ q.released, ref < q.server.heap.length
  once : ∀ ref name closed, q.server.badge ref = some (name, closed) → name ≠ "" →
    q.released.count ref = q.returned ref closed

theorem badge_inside (st : MCState) (ref : SessionRef) (badge : String × Bool) (found : st.badge ref = some badge) :
    ref < st.heap.length := by
  obtain ⟨s, stored, _⟩ := Option.map_eq_some_iff.mp found
  exact (List.getElem?_eq_some_iff.mp stored).1

theorem start_first_users (pool4 pool6 : Option IPPool) (db : UserDB) (queues : Nat) :
    FirstUsers db (start pool4 pool6 (some db) queues) := by
  have bare : ∀ ref badge, (start pool4 pool6 (some db) queues).server.badge ref ≠ some badge := by
    intro ref badge found
    simp [start, MCState.start, MCState.badge] at found
  refine ⟨rfl, ⟨db, rfl, rfl, rfl⟩, ?_, rfl, ?_, ?_⟩
  · exact fun _ ref name closed found => absurd found (bare ref _)
  · intro ref member
    cases member
  · exact fun ref name closed found => absurd found (bare ref _)

theorem quiet_first_users (db : UserDB) (q : QuotaState) (next : MCState) (badges : next.badge = q.server.badge)
    (length : next.heap.length = q.server.heap.length) (userDB : next.userDB = q.server.userDB) (first : FirstUsers db q) :
    FirstUsers db { q with server := next } := by
  refine ⟨first.generation, by rw [userDB]; exact first.inForce, ?_, by rw [length]; exact first.aligned, ?_, ?_⟩
  · rw [badges]
    exact first.slotted
  · rw [length]
    exact first.known
  · rw [badges]
    exact first.once

theorem admitted_first_users (db : UserDB) (q : QuotaState) (name : String) (next : MCState) (changed : Option UserDB)
    (slot : MCState.takeSlot q.server.userDB name = .ok changed)
    (badges : ∀ ref, next.badge ref = if ref = q.server.heap.length then some (name, false) else q.server.badge ref)
    (length : next.heap.length = q.server.heap.length + 1) (userDB : next.userDB = changed) (first : FirstUsers db q) :
    FirstUsers db (q.enroll next) := by
  obtain ⟨current, inForce, roster, nonempty⟩ := first.inForce
  rw [inForce] at slot
  obtain ⟨after, rfl, sameRoster, sameSize, listed⟩ := UserDB.take_slot_roster current name changed slot
  have entering : ∀ ref user closed, next.badge ref = some (user, closed) →
      (ref = q.server.heap.length ∧ user = name ∧ closed = false) ∨
        (ref < q.server.heap.length ∧ q.server.badge ref = some (user, closed)) := by
    intro ref user closed found
    rw [badges] at found
    split_ifs at found with same
    · cases found
      exact .inl ⟨same, rfl, rfl⟩
    · exact .inr ⟨badge_inside q.server ref _ found, found⟩
  refine ⟨first.generation, ⟨after, userDB, sameRoster.trans roster, sameSize.trans nonempty⟩, ?_, ?_, ?_, ?_⟩
  · intro kept ref user closed found
    rcases entering ref user closed found with ⟨rfl, rfl, _⟩ | ⟨before, old⟩
    · have origin : q.origin = some 0 := by
        simp [origin, MCState.keepsSlots, inForce, nonempty, kept, first.generation]
      refine ⟨?_, roster ▸ listed (nonempty.trans kept)⟩
      rw [← first.aligned, ← origin]
      exact List.getElem?_concat_length
    · obtain ⟨taken, known⟩ := first.slotted kept ref user closed old
      exact ⟨(List.getElem?_append_left (first.aligned ▸ before)).trans taken, known⟩
  · simp [enroll, length, first.aligned]
  · intro ref member
    have grown : (q.enroll next).server.heap.length = q.server.heap.length + 1 := length
    rw [grown]
    exact Nat.lt_succ_of_lt (first.known ref member)
  · intro ref user closed found named
    rcases entering ref user closed found with ⟨rfl, rfl, rfl⟩ | ⟨_, old⟩
    · have absent : q.server.heap.length ∉ q.released := fun member => Nat.lt_irrefl _ (first.known _ member)
      simpa [returned, enroll] using List.count_eq_zero.mpr absent
    · exact first.once ref user closed old named

theorem begun_first_users (db : UserDB) (q : QuotaState) (ref : SessionRef) (s : Session)
    (stored : q.server.heap[ref]? = some s) (unclosed : s.isClosed = false) (first : FirstUsers db q) :
    FirstUsers db (q.markClosed ref) := by
  have badges : ∀ other user closed, (q.markClosed ref).server.badge other = some (user, closed) →
      ∃ before, q.server.badge other = some (user, before) ∧
        (other = ref ∧ before = false ∨ other ≠ ref ∧ before = closed) := by
    intro other user closed found
    rw [mark_closed_badge] at found
    obtain ⟨⟨name, before⟩, old, changed⟩ := Option.map_eq_some_iff.mp found
    split_ifs at changed with same
    · cases changed
      subst same
      simp only [MCState.badge, stored, Option.map_some, Session.badge, Option.some.injEq, Prod.mk.injEq] at old
      exact ⟨false, by simp [MCState.badge, stored, Session.badge, unclosed, old.1], .inl ⟨rfl, rfl⟩⟩
    · cases changed
      exact ⟨closed, old, .inr ⟨same, rfl⟩⟩
  have length := mark_closed_length q ref
  refine ⟨first.generation, first.inForce, ?_, by rw [length]; exact first.aligned, by rw [length]; exact first.known, ?_⟩
  · intro kept other user closed found
    obtain ⟨before, old, _⟩ := badges other user closed found
    exact first.slotted kept other user before old
  · intro other user closed found named
    obtain ⟨before, old, cases⟩ := badges other user closed found
    refine (first.once other user before old named).trans ?_
    rcases cases with ⟨rfl, rfl⟩ | ⟨different, rfl⟩
    · simp [returned, markClosed]
    · simp [returned, markClosed, different]

theorem finished_first_users (db : UserDB) (q : QuotaState) (ref : SessionRef) (s : Session) (underway : ref ∈ q.finishing)
    (stored : q.server.heap[ref]? = some s) (good : Accounted q) (first : FirstUsers db q) :
    FirstUsers db (q.giveBack ref s) := by
  obtain ⟨current, inForce, roster, nonempty⟩ := first.inForce
  refine ⟨first.generation, ?_, first.slotted, first.aligned, ?_, ?_⟩
  · by_cases nameless : s.userName = ""
    · exact ⟨current, by simp [giveBack, MCState.setUserDB, nameless, inForce], roster, nonempty⟩
    · obtain ⟨sameRoster, sameSize⟩ := UserDB.release_slot_roster current s.userName
      exact ⟨current.releaseSlot s.userName, by simp [giveBack, MCState.setUserDB, nameless, inForce],
        sameRoster.trans roster, sameSize.trans nonempty⟩
  · intro other member
    have inside : ref < q.server.heap.length := (List.getElem?_eq_some_iff.mp stored).1
    simp only [giveBack] at member
    split_ifs at member with named
    · rcases List.mem_append.mp member with earlier | last
      · exact first.known other earlier
      · exact List.mem_singleton.mp last ▸ inside
    · exact first.known other member
  · intro other user closed found named
    have before := first.once other user closed found named
    by_cases same : other = ref
    · subst same
      obtain ⟨name, marked⟩ := good.closed other underway
      obtain ⟨rfl, rfl⟩ : user = name ∧ closed = true := by
        have both := Option.some.inj ((show q.server.badge other = some (user, closed) from found).symm.trans marked)
        exact Prod.mk.inj both
      have owner : s.userName = user := by
        simp only [MCState.badge, stored, Option.map_some, Session.badge, Option.some.injEq, Prod.mk.injEq] at marked
        exact marked.1
      have unreleased : q.released.count other = 0 := by simpa [returned, underway] using before
      have gone : other ∉ q.finishing.erase other := good.distinct.not_mem_erase
      simp [giveBack, returned, owner, named, inForce, unreleased, gone]
    · have kept : other ∈ q.finishing.erase ref ↔ other ∈ q.finishing := List.mem_erase_of_ne same
      simp only [giveBack, returned, kept] at before ⊢
      rw [← before]
      split_ifs <;> simp [Ne.symm same]

theorem first_users_own (db : UserDB) (q : QuotaState) (action : QuotaAction) (good : Accounted q)
    (first : FirstUsers db q) : ReleasesOwn q action := by
  cases action with
  | finishTearDown ref =>
      simp only [ReleasesOwn]
      cases stored : q.server.heap[ref]? with
      | none => trivial
      | some s =>
          obtain ⟨current, inForce, _, nonempty⟩ := first.inForce
          by_cases kept : db.isEmpty = false
          · have badge : q.server.badge ref = some (s.userName, s.isClosed) := by simp [MCState.badge, stored, Session.badge]
            exact .inr (.inl (first.generation ▸ (first.slotted kept ref s.userName s.isClosed badge).1))
          · cases found : current.byName.lookup s.userName with
            | none => exact .inr (.inr (by simp [inForce, found]))
            | some entry =>
                exact absurd (nonempty.symm.trans (good.entered current s.userName entry inForce found).kept) kept
  | server | beginTearDown => trivial

theorem first_users_step (env : Env) (db : UserDB) :
    Runs.Preserved (step env) KeepsUsers (fun q => Accounted q ∧ FirstUsers db q) := by
  intro q action next both keeps taken
  obtain ⟨good, first⟩ := both
  refine ⟨accounted_step env q action next good (first_users_own db q action good first) taken, ?_⟩
  cases step_change env q next action taken with
  | quiet action after badges length userDB => exact quiet_first_users db q after badges length userDB first
  | opened conn now name after changed slot badges length userDB =>
      exact admitted_first_users db q name after changed slot badges length userDB first
  | reloaded users new made => simp [KeepsUsers, Action.reloads, made, Except.isOk, Except.toBool] at keeps
  | again ref => exact quiet_first_users db q (q.server.forget ref) rfl rfl rfl first
  | begun ref s waiting stored unclosed => exact begun_first_users db q ref s stored unclosed first
  | finished ref s underway stored => exact finished_first_users db q ref s underway stored good first

theorem first_users_holds (db current : UserDB) (q : QuotaState) (good : Accounted q) (first : FirstUsers db q)
    (inForce : q.server.userDB = some current) (name : String) (entry : UserEntry)
    (found : current.byName.lookup name = some entry) (ref : SessionRef) : q.holds name ref = q.unfinished name ref := by
  obtain ⟨same, inForce', _, nonempty⟩ := first.inForce
  obtain rfl : same = current := Option.some.inj (inForce'.symm.trans inForce)
  have kept := (good.entered same name entry inForce found).kept
  rw [Bool.eq_iff_iff, holds_iff]
  refine ⟨fun both => both.1, fun open_ => ⟨open_, ?_⟩⟩
  obtain ⟨closed, badge, _⟩ := (unfinished_iff q name ref).mp open_
  rw [first.generation]
  exact (first.slotted (nonempty.symm.trans kept) ref name closed badge).1

theorem quota_exact (env : Env) (users : List User) (db : UserDB) (pool4 pool6 : Option IPPool) (queues : Nat)
    (accepted : UserDB.newUserDB users = .ok db) (trace : List (QuotaState × QuotaAction)) (final q : QuotaState)
    (run : Runs.Run (step env) (start pool4 pool6 (some db) queues) trace final) (fixed : Runs.Allowed KeepsUsers trace)
    (visited : Runs.Visited trace final q) :
    ∃ current, q.server.userDB = some current ∧
      (∀ u ∈ users, ∃ active, current.byName.lookup u.name = some ⟨u, active⟩ ∧
        active = Counting.below q.server.heap.length (q.unfinished u.name) ∧
        (u.maxConcurrent > 0 → (active : Int) ≤ u.maxConcurrent)) ∧
      (users ≠ [] → ∀ (ref : SessionRef) (s : Session), q.server.heap[ref]? = some s → ∃ u ∈ users, u.name = s.userName) ∧
      (∀ (ref : SessionRef) (s : Session), q.server.heap[ref]? = some s → s.userName ≠ "" →
        q.released.count ref = if s.isClosed = true ∧ ref ∉ q.finishing then 1 else 0) ∧
      (∀ ref ∈ q.finishing, ∀ (s : Session) (entry : UserEntry), q.server.heap[ref]? = some s →
        current.byName.lookup s.userName = some entry → entry.active > 0) := by
  have begins : Accounted (start pool4 pool6 (some db) queues) := by
    apply start_accounted
    intro first same
    exact ⟨users, Option.some.inj same ▸ accepted⟩
  obtain ⟨good, first⟩ := Runs.visited_invariant (first_users_step env db) run fixed
    ⟨begins, start_first_users pool4 pool6 db queues⟩ visited
  obtain ⟨current, inForce, roster, nonempty⟩ := first.inForce
  refine ⟨current, inForce, ?_, ?_, ?_, ?_⟩
  · intro u member
    have listed := (UserDB.new_user_db_names users db accepted u.name ⟨u, 0⟩).mpr ⟨member, rfl, rfl⟩
    have enrolled : current.roster u.name = some u := by rw [roster, UserDB.roster, listed]; rfl
    obtain ⟨⟨_, active⟩, found, rfl⟩ := Option.map_eq_some_iff.mp enrolled
    obtain ⟨_, _, counted, bounded⟩ := good.entered current _ _ inForce found
    refine ⟨active, found, ?_, bounded⟩
    rw [show active = _ from counted]
    exact Counting.below_congr _ _ _ fun ref _ => first_users_holds db current q good first inForce _ _ found ref
  · intro populated ref s stored
    have badge : q.server.badge ref = some (s.userName, s.isClosed) := by simp [MCState.badge, stored, Session.badge]
    have kept : db.isEmpty = false := by rwa [← Bool.not_eq_true, UserDB.new_user_db_empty users db accepted]
    obtain ⟨_, known⟩ := first.slotted kept ref s.userName s.isClosed badge
    obtain ⟨u, enrolled⟩ := Option.isSome_iff_exists.mp known
    obtain ⟨entry, found, _⟩ := Option.map_eq_some_iff.mp enrolled
    obtain ⟨member, named, _⟩ := (UserDB.new_user_db_names users db accepted s.userName entry).mp found
    exact ⟨entry.u, member, named⟩
  · intro ref s stored named
    exact first.once ref s.userName s.isClosed (by simp [MCState.badge, stored, Session.badge]) named
  · intro ref underway s entry stored found
    rw [(good.entered current s.userName entry inForce found).counted]
    apply Counting.below_pos _ ref _ (List.getElem?_eq_some_iff.mp stored).1
    rw [first_users_holds db current q good first inForce s.userName entry found, unfinished_iff]
    exact ⟨s.isClosed, by simp [MCState.badge, stored, Session.badge], .inr underway⟩

end QuotaState

def annOnce : User := { annUser with maxConcurrent := 1 }

def quotaStart (users : List User) : QuotaState := .start (some pairPool) none (UserDB.newUserDB users).toOption 1

def serve (actions : List Action) : List QuotaAction := actions.map .server

def reapedSession (conn : Nat) : List QuotaAction :=
  serve (handshakeSteps conn true ++ [.acquire conn 0, .attach conn 0, .detach conn 0, .collect (idleTimeout + 1)])

def reconnectSteps : List QuotaAction :=
  serve (List.replicate 3 (.accept (helloBytes 0xAA))) ++ reapedSession 0 ++ [.beginTearDown 0] ++
    serve (handshakeSteps 1 true ++ [.acquire 1 0, .quotaRelease 1]) ++ [.finishTearDown 0, .beginTearDown 0] ++
    serve (handshakeSteps 2 true ++ [.acquire 2 0])

theorem quota_exact_reconnect :
    ∃ db q current, UserDB.newUserDB [annOnce, benUser] = .ok db ∧
      Runs.Reach (QuotaState.step pairEnv) QuotaState.KeepsUsers (.start (some pairPool) none (some db) 1) q ∧
      q.server.heap.length = 2 ∧ q.server.userDB = some current ∧ current.byName.lookup "ann" = some ⟨annOnce, 1⟩ ∧
      q.released.count 0 = 1 ∧ q.released.count 1 = 0 := by
  have valid : (UserDB.newUserDB [annOnce, benUser]).isOk = true := by decide +kernel
  have observed : (Runs.execute (QuotaState.step pairEnv) QuotaState.KeepsUsers (quotaStart [annOnce, benUser]) reconnectSteps).map
      (fun q => (q.server.heap.map Session.badge, q.finishing)) = some ([("ann", true), ("ann", false)], []) := by
    decide +kernel
  cases made : UserDB.newUserDB [annOnce, benUser] with
  | error problem => simp [made, Except.isOk, Except.toBool] at valid
  | ok db =>
      obtain ⟨q, completed, view⟩ := Option.map_eq_some_iff.mp observed
      rw [quotaStart, made] at completed
      obtain ⟨trace, run, allowed⟩ := Runs.execute_reach _ _ reconnectSteps completed
      simp only [Prod.mk.injEq] at view
      obtain ⟨current, inForce, exact_, _, once, _⟩ := QuotaState.quota_exact pairEnv [annOnce, benUser] db (some pairPool) none 1
        made trace q q run allowed (.inl rfl)
      have length : q.server.heap.length = 2 := by rw [← List.length_map Session.badge, view.1]; rfl
      have badge : ∀ ref, q.server.badge ref = ([("ann", true), ("ann", false)] : List (String × Bool))[ref]? := by
        intro ref
        rw [MCState.badge, ← List.getElem?_map, view.1]
      have session : ∀ ref, (q.server.heap[ref]?).map Session.badge = [("ann", true), ("ann", false)][ref]? := badge
      obtain ⟨active, found, counted, _⟩ := exact_ annOnce (by simp)
      have one : active = 1 := by
        rw [counted, length]
        simp [Counting.below, List.range_succ, QuotaState.unfinished, badge, view.2, annOnce, annUser]
      obtain ⟨first, storedFirst, badgeFirst⟩ := Option.map_eq_some_iff.mp (session 0)
      obtain ⟨second, storedSecond, badgeSecond⟩ := Option.map_eq_some_iff.mp (session 1)
      simp only [Session.badge, Prod.mk.injEq] at badgeFirst badgeSecond
      have gone := once 0 first storedFirst (by simp [badgeFirst])
      have held := once 1 second storedSecond (by simp [badgeSecond])
      rw [if_pos ⟨badgeFirst.2, by simp [view.2]⟩] at gone
      rw [if_neg fun both => by simp [badgeSecond.2] at both] at held
      exact ⟨db, q, current, rfl, ⟨trace, run, allowed⟩, length, inForce, one ▸ found, gone, held⟩

end Packethose
