import Packethose.Lib.Outcomes
import Packethose.QuotaAccounting

set_option autoImplicit false

namespace Packethose

namespace MCState

structure Parted (st : MCState) : Prop where
  live : ∀ clientID ref, st.sessions.lookup clientID = some ref →
    ref ∉ st.pending ∧ ∃ name, st.badge ref = some (name, false)
  bound : ∀ ref ∈ st.pending, ref < st.heap.length

theorem parted_same (st next : MCState) (parted : Parted st)
    (sessions : ∀ clientID ref, next.sessions.lookup clientID = some ref → st.sessions.lookup clientID = some ref)
    (pending : ∀ ref ∈ next.pending, ref ∈ st.pending) (badges : next.badge = st.badge)
    (length : next.heap.length = st.heap.length) : Parted next := by
  constructor
  · intro clientID ref found
    obtain ⟨waiting, name, badge⟩ := parted.live clientID ref (sessions clientID ref found)
    exact ⟨fun later => waiting (pending ref later), name, badges ▸ badge⟩
  · intro ref member
    rw [length]
    exact parted.bound ref (pending ref member)

theorem live_injective (st : MCState) (owners : LiveOwners st) (first second : ClientID) (ref : SessionRef)
    (one : st.sessions.lookup first = some ref) (two : st.sessions.lookup second = some ref) : first = second := by
  obtain ⟨o, owned, rfl⟩ := owners first ref one
  obtain ⟨o', owned', rfl⟩ := owners second ref two
  rw [owned] at owned'
  rw [Option.some.inj owned']

theorem live_inside (st : MCState) (parted : Parted st) (clientID : ClientID) (ref : SessionRef)
    (found : st.sessions.lookup clientID = some ref) : ref < st.heap.length := by
  obtain ⟨_, name, badge⟩ := parted.live clientID ref found
  exact QuotaState.badge_inside st ref _ badge

theorem collect_parted (st : MCState) (now : Nat) (owners : LiveOwners st) (parted : Parted st) : Parted (st.collect now) := by
  constructor
  · intro clientID ref found
    rw [collect, Table.lookup_drop_all] at found
    split_ifs at found with victim
    obtain ⟨waiting, name, badge⟩ := parted.live clientID ref found
    refine ⟨fun member => ?_, name, badge⟩
    rcases List.mem_append.mp member with earlier | taken
    · exact waiting earlier
    · obtain ⟨row, chosen, rfl⟩ := List.mem_map.mp taken
      have listed := (Table.mem_rows st.sessions row.1 row.2).mp (List.mem_filter.mp chosen).1
      exact victim (List.mem_map.mpr ⟨row, chosen, live_injective st owners row.1 clientID row.2 listed found⟩)
  · intro ref member
    rcases List.mem_append.mp member with earlier | taken
    · exact parted.bound ref earlier
    · obtain ⟨row, chosen, rfl⟩ := List.mem_map.mp taken
      have listed := (Table.mem_rows st.sessions row.1 row.2).mp (List.mem_filter.mp chosen).1
      exact live_inside st parted row.1 row.2 listed

theorem tear_down_all_parted (st : MCState) (parted : Parted st) : Parted st.tearDownAll := by
  constructor
  · intro clientID ref found
    simp [tearDownAll] at found
  · intro ref member
    rcases List.mem_append.mp member with earlier | taken
    · exact parted.bound ref earlier
    · obtain ⟨row, listed, rfl⟩ := List.mem_map.mp taken
      exact live_inside st parted row.1 row.2 ((Table.mem_rows st.sessions row.1 row.2).mp listed)

theorem open_session_parted (st : MCState) (ident : LaneIdentity) (db : Option UserDB) (now conn : Nat) (point : ConnPoint)
    (parted : Parted st) : Parted ((st.openSession ident db now).setPoint conn point) := by
  have pending := (open_session_db st ident db now).2
  obtain ⟨heap, sessions, _⟩ := open_session_frame st ident db now
  constructor
  · intro clientID ref found
    change (st.openSession ident db now).sessions.lookup clientID = some ref at found
    change ref ∉ (st.openSession ident db now).pending ∧ ∃ name, (st.openSession ident db now).badge ref = some (name, false)
    rw [sessions, Table.lookup_put] at found
    rw [pending, open_session_badge]
    split_ifs at found with same
    · obtain rfl := Option.some.inj found
      exact ⟨fun member => Nat.lt_irrefl _ (parted.bound _ member), ident.userName, if_pos rfl⟩
    · obtain ⟨waiting, name, badge⟩ := parted.live clientID ref found
      exact ⟨waiting, name, (if_neg (Nat.ne_of_lt (live_inside st parted clientID ref found))).trans badge⟩
  · intro ref member
    change ref ∈ (st.openSession ident db now).pending at member
    change ref < (st.openSession ident db now).heap.length
    rw [pending] at member
    rw [heap, List.length_append]
    exact Nat.lt_add_right 1 (parted.bound ref member)

theorem effect_parted (env : Env) (st next : MCState) (action : Action) (whole : action.tearsDown = false)
    (effect : Effect env st action next) (owners : LiveOwners st) (parted : Parted st) : Parted next := by
  cases effect with
  | opened conn now entry ident db => exact open_session_parted st ident db now conn _ parted
  | collected now => exact collect_parted st now owners parted
  | cleared => exact tear_down_all_parted st parted
  | tornAgain | torn => cases whole
  | laned _ conn entry ref s change _ found stored changed =>
      obtain ⟨_, badges, length, _⟩ := QuotaState.lane_change_badge st conn ref s action entry.point change next changed
      have sessions := (lane_change_frame st conn ref s action entry.point change next changed).2.2.1
      have pending : next.pending = st.pending := by
        generalize entry.point = point at changed
        cases changed <;> rfl
      exact parted_same st next parted (fun _ _ found => sessions ▸ found) (fun _ member => pending ▸ member) badges length
  | queued reader packet ref =>
      exact parted_same st _ parted (fun _ _ found => found) (fun _ member => member)
        (QuotaState.set_session_badge (st.setReader reader none) ref _ fun _ => rfl)
        (by simp [noteDispatch, setSession, setReader])
  | allocated _ _ family =>
      cases family <;> exact parted_same st _ parted (fun _ _ found => found) (fun _ member => member) rfl rfl
  | accepted | moved | released | reloaded | unreloaded | ignored | matched | dropped =>
      exact parted_same st _ parted (fun _ _ found => found) (fun _ member => member) rfl rfl

end MCState

namespace QuotaState

def slotted (q : QuotaState) (name : String) (ref : SessionRef) : Bool :=
  match q.server.heap[ref]? with
  | some s => s.userName == name && q.slots[ref]? == some (some q.generation)
  | none => false

structure Kept (q : QuotaState) : Prop where
  accounted : Accounted q
  owners : q.server.LiveOwners
  parted : q.server.Parted

theorem start_kept (pool4 pool6 : Option IPPool) (userDB : Option UserDB) (queues : Nat)
    (accepted : ∀ db, userDB = some db → ∃ users, UserDB.newUserDB users = .ok db) :
    Kept (start pool4 pool6 userDB queues) := by
  refine ⟨start_accounted pool4 pool6 userDB queues accepted, ?_, ?_, ?_⟩
  · intro clientID ref found
    simp [start, MCState.start] at found
  · intro clientID ref found
    simp [start, MCState.start] at found
  · intro ref member
    cases member

theorem mark_closed_parted (q : QuotaState) (ref : SessionRef) (waiting : ref ∈ q.server.pending)
    (parted : q.server.Parted) : (q.markClosed ref).server.Parted := by
  constructor
  · intro clientID other found
    obtain ⟨apart, name, badge⟩ := parted.live clientID other found
    have different : other ≠ ref := fun same => apart (same ▸ waiting)
    exact ⟨fun later => apart (List.mem_of_mem_erase later), name, by simp [mark_closed_badge, badge, different]⟩
  · intro other member
    rw [mark_closed_length]
    exact parted.bound other (List.mem_of_mem_erase member)

theorem kept_step (env : Env) : Runs.Preserved (step env) ReleasesOwn Kept := by
  intro q action next kept own taken
  suffices rest : next.server.LiveOwners ∧ next.server.Parted from
    ⟨accounted_step env q action next kept.accounted own taken, rest.1, rest.2⟩
  cases action with
  | server action =>
      simp only [step] at taken
      split_ifs at taken with tears
      obtain ⟨after, stepped, rfl⟩ := Option.map_eq_some_iff.mp taken
      have effect := MCState.step_effect env q.server after action stepped
      exact ⟨MCState.effect_live_owners env q.server after action effect kept.owners,
        MCState.effect_parted env q.server after action (Bool.not_eq_true _ ▸ tears) effect kept.owners kept.parted⟩
  | beginTearDown ref =>
      cases step_change env q next _ taken with
      | again =>
          exact ⟨kept.owners, MCState.parted_same q.server _ kept.parted (fun _ _ found => found)
            (fun _ member => List.mem_of_mem_erase member) rfl rfl⟩
      | begun _ s waiting stored unclosed =>
          refine ⟨fun clientID other found => ?_, mark_closed_parted q ref waiting kept.parted⟩
          obtain ⟨o, owned, named⟩ := kept.owners clientID other found
          have same := MCState.set_session_owner (q.server.forget ref) ref Session.tornDown fun _ => rfl
          exact ⟨o, (congrFun same other).trans owned, named⟩
  | finishTearDown ref =>
      cases step_change env q next _ taken with
      | finished s underway stored =>
          exact ⟨kept.owners, MCState.parted_same q.server _ kept.parted (fun _ _ found => found) (fun _ member => member) rfl rfl⟩

theorem live_slotted_holds (q : QuotaState) (kept : Kept q) (clientID : ClientID) (ref : SessionRef) (name : String)
    (live : q.server.sessions.lookup clientID = some ref) (slot : q.slotted name ref = true) : q.holds name ref = true := by
  obtain ⟨_, user, badge⟩ := kept.parted.live clientID ref live
  obtain ⟨s, stored, same⟩ := Option.map_eq_some_iff.mp badge
  simp only [slotted, stored, Bool.and_eq_true, beq_iff_eq] at slot
  obtain ⟨named, taken⟩ := slot
  have owner : user = name := (Prod.mk.inj same).1.symm.trans named
  exact (holds_iff q name ref).mpr ⟨(unfinished_iff q name ref).mpr ⟨false, owner ▸ badge, .inl rfl⟩, taken⟩

theorem reload_keeps_slots (env : Env) (pool4 pool6 : Option IPPool) (userDB : Option UserDB) (queues : Nat)
    (accepted : ∀ db, userDB = some db → ∃ users, UserDB.newUserDB users = .ok db)
    (trace : List (QuotaState × QuotaAction)) (final q : QuotaState)
    (run : Runs.Run (step env) (start pool4 pool6 userDB queues) trace final) (own : Runs.Allowed ReleasesOwn trace)
    (visited : Runs.Visited trace final q) (db : UserDB) (inForce : q.server.userDB = some db) (name : String)
    (entry : UserEntry) (found : db.byName.lookup name = some entry) :
    (Table.rows q.server.sessions).countP (fun row => q.slotted name row.2) ≤ entry.active := by
  have kept := Runs.visited_invariant (kept_step env) run own (start_kept pool4 pool6 userDB queues accepted) visited
  rw [(kept.accounted.entered db name entry inForce found).counted, List.countP_eq_length_filter,
    ← List.length_map Prod.snd]
  apply Counting.listed_le_below
  · apply List.Nodup.map_on _ ((Table.rows_nodup q.server.sessions).filter _)
    intro first memberFirst second memberSecond same
    have liveFirst := (Table.mem_rows q.server.sessions first.1 first.2).mp (List.mem_filter.mp memberFirst).1
    have liveSecond := (Table.mem_rows q.server.sessions second.1 second.2).mp (List.mem_filter.mp memberSecond).1
    exact Prod.ext (MCState.live_injective q.server kept.owners first.1 second.1 first.2 liveFirst (same ▸ liveSecond)) same
  · intro ref member
    obtain ⟨row, chosen, rfl⟩ := List.mem_map.mp member
    obtain ⟨listed, slot⟩ := List.mem_filter.mp chosen
    have live := (Table.mem_rows q.server.sessions row.1 row.2).mp listed
    exact ⟨MCState.live_inside q.server kept.parted row.1 row.2 live, live_slotted_holds q kept row.1 row.2 name live slot⟩

end QuotaState

def apartReloadSteps : List QuotaAction :=
  serve [.accept (helloBytes 0xAA)] ++ reapedSession 0 ++
    serve ([Action.reload [annOnce, benUser], .accept (helloBytes 0xBB)] ++ handshakeSteps 1 true ++ [Action.acquire 1 0]) ++
    [QuotaAction.beginTearDown 0, .finishTearDown 0]

theorem reload_keeps_slots_apart :
    ∃ q db, Runs.Reach (QuotaState.step pairEnv) QuotaState.ReleasesOwn (quotaStart [annOnce, benUser]) q ∧
      q.generation = 1 ∧ q.released = [0] ∧ q.server.userDB = some db ∧
      (Table.rows q.server.sessions).countP (fun row => q.slotted "ben" row.2) = 1 ∧
      ∃ entry, db.byName.lookup "ben" = some entry ∧ 1 ≤ entry.active := by
  have observed : (Runs.execute (QuotaState.step pairEnv) QuotaState.ReleasesOwn (quotaStart [annOnce, benUser]) apartReloadSteps).map
      (fun q => (q.generation, q.released, (Table.rows q.server.sessions).countP (fun row => q.slotted "ben" row.2),
        q.server.userDB.map fun db => (db.byName.lookup "ben").isSome)) = some (1, [0], 1, some true) := by
    decide +kernel
  obtain ⟨q, completed, view⟩ := Option.map_eq_some_iff.mp observed
  simp only [Prod.mk.injEq] at view
  obtain ⟨generation, released, live, known⟩ := view
  obtain ⟨db, inForce, listed⟩ := Option.map_eq_some_iff.mp known
  obtain ⟨entry, found⟩ := Option.isSome_iff_exists.mp listed
  obtain ⟨trace, run, allowed⟩ := Runs.execute_reach _ _ apartReloadSteps completed
  have bound := QuotaState.reload_keeps_slots pairEnv (some pairPool) none _ 1
    (fun db same => ⟨[annOnce, benUser], Outcomes.to_option_some same⟩) trace q q run allowed (.inl rfl) db inForce "ben" entry found
  exact ⟨q, db, ⟨trace, run, allowed⟩, generation, released, inForce, live, entry, found, live ▸ bound⟩

def annRotated : User := { annOnce with publicKey := List.replicate 32 0xCC }

-- The second list gives Ann a new key. When the session of the old key idles
-- out, its tearDown takes the slot of the session Ann holds under the new one.
def driftSteps : List QuotaAction :=
  serve ([Action.accept (helloBytes 0xAA)] ++ handshakeSteps 0 true ++
      [Action.acquire 0 0, .attach 0 0, .detach 0 0, .reload [annRotated, benUser], .accept (helloBytes 0xCC)] ++
      handshakeSteps 1 true ++ [Action.acquire 1 idleTimeout, .attach 1 idleTimeout, .collect (idleTimeout + 1)]) ++
    [QuotaAction.beginTearDown 0, .finishTearDown 0]

theorem reload_drifts :
    ∃ q db entry, Runs.Reach (QuotaState.step pairEnv) (fun _ _ => True) (quotaStart [annOnce, benUser]) q ∧
      q.server.userDB = some db ∧ db.byName.lookup "ann" = some entry ∧ entry.active = 0 ∧
      (Table.rows q.server.sessions).countP (fun row => q.slotted "ann" row.2) = 1 := by
  have observed : (Runs.execute (QuotaState.step pairEnv) (fun _ _ => True) (quotaStart [annOnce, benUser]) driftSteps).map
      (fun q => ((Table.rows q.server.sessions).countP (fun row => q.slotted "ann" row.2),
        q.server.userDB.map fun db => (db.byName.lookup "ann").map UserEntry.active)) = some (1, some (some 0)) := by
    decide +kernel
  obtain ⟨q, completed, view⟩ := Option.map_eq_some_iff.mp observed
  simp only [Prod.mk.injEq] at view
  obtain ⟨live, known⟩ := view
  obtain ⟨db, inForce, listed⟩ := Option.map_eq_some_iff.mp known
  obtain ⟨entry, found, unused⟩ := Option.map_eq_some_iff.mp listed
  exact ⟨q, db, entry, Runs.execute_reach _ _ driftSteps completed, inForce, found, unused, live⟩

end Packethose
