import Packethose.SessionPools
import Packethose.Quota

set_option autoImplicit false

namespace Packethose

namespace MCState

def attending (st : MCState) : List SessionRef := (Table.rows st.sessions).map Prod.snd ++ st.pending

def unclosed (st : MCState) (ref : SessionRef) : Bool := ((st.badge ref).map fun badge => !badge.2).getD false

structure Census (st : MCState) : Prop where
  once : st.attending.Nodup
  listed : ∀ ref, ref ∈ st.attending ↔ st.unclosed ref = true
  size : st.attending.length + st.heap.countP Session.isClosed = st.heap.length

section Rows

variable (st : MCState)

theorem collect_attending (now : Nat) : (st.collect now).attending.Perm st.attending := by
  have kept : ((Table.rows st.sessions).filter fun row => !st.stale now row.2).Perm (Table.rows (st.collect now).sessions) := by
    refine Table.perm_rows _ _ ((Table.rows_nodup st.sessions).filter _) fun clientID ref => ?_
    rw [List.mem_filter, Table.mem_rows, collect, Table.lookup_drop_all]
    split_ifs with victim
    · obtain ⟨⟨_, other⟩, found, rfl⟩ := List.mem_map.mp victim
      obtain ⟨listed, idle⟩ := List.mem_filter.mp found
      have held := (Table.mem_rows st.sessions _ other).mp listed
      simp only [held, Option.some.injEq, iff_false, not_and]
      rintro rfl
      simpa using idle
    · refine ⟨fun present => present.1, fun held => ⟨held, ?_⟩⟩
      cases idle : st.stale now ref with
      | false => rfl
      | true =>
          refine absurd (List.mem_map.mpr ⟨(clientID, ref), List.mem_filter.mpr ⟨?_, idle⟩, rfl⟩) victim
          exact (Table.mem_rows st.sessions clientID ref).mpr held
  have split := List.filter_append_perm (fun row => st.stale now row.2) (Table.rows st.sessions)
  have moved : (st.collect now).pending = st.pending ++ ((Table.rows st.sessions).filter fun row => st.stale now row.2).map Prod.snd := rfl
  rw [attending, attending, moved]
  refine ((kept.symm.map Prod.snd).append_right _).trans ?_
  rw [← List.append_assoc]
  refine List.perm_append_comm.trans ?_
  rw [← List.append_assoc, ← List.map_append]
  exact (split.map Prod.snd).append_right _

theorem clear_attending : st.tearDownAll.attending.Perm st.attending := by
  have moved : st.tearDownAll.attending = st.pending ++ (Table.rows st.sessions).map Prod.snd := rfl
  rw [moved]
  exact List.perm_append_comm

end Rows

inductive Turnover (st : MCState) : Action → MCState → Prop where
  | kept (action : Action) (next : MCState) (other : action.tearsDown = false) (places : next.attending.Perm st.attending)
      (badges : next.badge = st.badge) (length : next.heap.length = st.heap.length) : Turnover st action next
  | opened (conn now : Nat) (s : Session) (next : MCState) (places : next.attending.Perm (st.heap.length :: st.attending))
      (fresh : s.isClosed = false) (heap : next.heap = st.heap ++ [s]) : Turnover st (.acquire conn now) next
  | again (ref : SessionRef) (s : Session) (waiting : ref ∈ st.pending) (stored : st.heap[ref]? = some s)
      (done : s.isClosed = true) : Turnover st (.tearDown ref) (st.forget ref)
  | closed (ref : SessionRef) (s : Session) (next : MCState) (waiting : ref ∈ st.pending) (stored : st.heap[ref]? = some s)
      (first : s.isClosed = false) (places : next.attending = (st.forget ref).attending)
      (heap : next.heap = st.heap.modify ref Session.tornDown) : Turnover st (.tearDown ref) next

theorem effect_turnover (env : Env) (st next : MCState) (action : Action) (effect : Effect env st action next) :
    Turnover st action next := by
  cases effect with
  | opened conn now entry ident db found admitted absent slot =>
      obtain ⟨heap, sessions, _⟩ := open_session_frame st ident db now
      refine .opened conn now (newSession ident now) _ ?_ rfl heap
      have joined := ((Table.rows_put_absent st.sessions ident.clientID st.heap.length absent).map Prod.snd).append_right st.pending
      rw [attending]
      simp only [setPoint, sessions, (open_session_db st ident db now).2]
      exact joined.symm
  | tornAgain ref s waiting stored done => exact .again ref s waiting stored done
  | torn ref s db waiting stored first slot => exact .closed ref s _ waiting stored first rfl rfl
  | collected now => exact .kept _ _ rfl (st.collect_attending now) rfl rfl
  | cleared => exact .kept _ _ rfl st.clear_attending rfl rfl
  | allocated _ _ family => cases family <;> exact .kept _ _ rfl (.refl _) rfl rfl
  | laned _ conn entry ref s change _ found stored changed =>
      obtain ⟨_, badges, length, _⟩ := QuotaState.lane_change_badge st conn ref s action entry.point change next changed
      obtain ⟨other, places⟩ : action.tearsDown = false ∧ next.attending = st.attending := by
        generalize entry.point = point at changed
        cases changed <;> exact ⟨rfl, rfl⟩
      exact .kept _ _ other (places ▸ .refl _) badges length
  | queued reader packet ref =>
      refine .kept _ _ rfl (.refl _) (QuotaState.set_session_badge (st.setReader reader none) ref _ fun _ => rfl) ?_
      simp [noteDispatch, setSession, setReader]
  | moved _ conn entry point actor | released _ conn entry clientID actor =>
      exact .kept _ _ (by cases action <;> first | rfl | cases actor) (.refl _) rfl rfl
  | accepted | reloaded | unreloaded | ignored | matched | dropped => exact .kept _ _ rfl (.refl _) rfl rfl

section Steps

variable {st next : MCState} {action : Action}

theorem opened_badge (s : Session) (heap : next.heap = st.heap ++ [s]) (ref : SessionRef) :
    next.badge ref = if ref = st.heap.length then some s.badge else st.badge ref := by
  rw [badge, heap]
  split_ifs with same
  · simp [same]
  · rcases Nat.lt_or_gt_of_ne same with before | behind
    · rw [List.getElem?_append_left before, badge]
    · rw [badge, List.getElem?_eq_none (by simp; omega), List.getElem?_eq_none (by omega)]

theorem torn_badge (ref : SessionRef) (heap : next.heap = st.heap.modify ref Session.tornDown) (other : SessionRef) :
    next.badge other = if other = ref then (st.badge ref).map fun badge => (badge.1, true) else st.badge other := by
  rw [badge, heap, List.getElem?_modify]
  by_cases same : other = ref
  · subst same
    rw [if_pos rfl, badge]
    cases st.heap[other]? <;> simp [Session.badge, Session.tornDown]
  · rw [if_neg same, badge]
    simp [Ne.symm same]

theorem waiting_attends (ref : SessionRef) (waiting : ref ∈ st.pending) : ref ∈ st.attending :=
  List.mem_append_right _ waiting

theorem forget_attending (census : st.Census) (ref : SessionRef) (waiting : ref ∈ st.pending) :
    (st.forget ref).attending = st.attending.erase ref := by
  have apart : ref ∉ (Table.rows st.sessions).map Prod.snd := fun listed =>
    (List.nodup_append.mp census.once).2.2 ref listed ref waiting rfl
  exact (List.erase_append_right _ apart).symm

theorem closed_badges (st next : MCState) (badges : next.badge = st.badge) :
    next.heap.countP Session.isClosed = st.heap.countP Session.isClosed := by
  have same : next.heap.map Session.badge = st.heap.map Session.badge := by
    apply List.ext_getElem?
    intro ref
    rw [List.getElem?_map, List.getElem?_map]
    exact congrFun badges ref
  have counted : ∀ heap : List Session, heap.countP Session.isClosed = (heap.map Session.badge).countP Prod.snd := by
    intro heap
    rw [List.countP_map]
    rfl
  rw [counted, counted, same]

theorem turnover_census (census : st.Census) (turnover : Turnover st action next) : next.Census := by
  cases turnover with
  | kept _ _ _ places badges length =>
      refine ⟨places.nodup_iff.mpr census.once, fun ref => ?_, ?_⟩
      · rw [places.mem_iff, census.listed, unclosed, unclosed, badges]
      · rw [places.length_eq, closed_badges st next badges, length]
        exact census.size
  | opened conn now s _ places fresh heap =>
      have older : st.heap.length ∉ st.attending := by
        rw [census.listed, unclosed, badge, List.getElem?_eq_none (Nat.le_refl _)]
        exact Bool.false_ne_true
      refine ⟨places.nodup_iff.mpr (List.nodup_cons.mpr ⟨older, census.once⟩), fun ref => ?_, ?_⟩
      · rw [places.mem_iff, List.mem_cons, census.listed, unclosed, unclosed, opened_badge s heap]
        by_cases same : ref = st.heap.length <;> simp [same, Session.badge, fresh]
      · have size := census.size
        rw [places.length_eq, heap]
        simp [fresh]
        omega
  | again ref s waiting stored done =>
      have running := (census.listed ref).mp (waiting_attends ref waiting)
      simp [unclosed, badge, stored, Session.badge, done] at running
  | closed ref s _ waiting stored first places heap =>
      rw [forget_attending census ref waiting] at places
      refine ⟨places ▸ census.once.erase ref, fun other => ?_, ?_⟩
      · rw [places, census.once.mem_erase_iff, census.listed, unclosed, unclosed, torn_badge ref heap]
        by_cases same : other = ref
        · cases st.badge ref <;> simp [same]
        · simp [same]
      · have size := census.size
        have fewer := List.length_erase_of_mem (waiting_attends ref waiting)
        have some := List.length_pos_of_mem (waiting_attends ref waiting)
        have changed := Counting.count_modify st.heap ref Session.tornDown Session.isClosed s stored
        simp only [first, Session.tornDown, Bool.false_eq_true, if_false, if_true, Nat.add_zero] at changed
        rw [places, heap, List.length_modify]
        omega

end Steps

theorem census_preserved (env : Env) : Runs.Preserved (step env) (fun _ _ => True) Census :=
  fun st action next census _ taken => turnover_census census (effect_turnover env st next action (step_effect env st next action taken))

theorem start_census (pool4 pool6 : Option IPPool) (userDB : Option UserDB) (queues : Nat) :
    (start pool4 pool6 userDB queues).Census :=
  ⟨by simp [attending, start, Table.rows], fun ref => by simp [attending, start, Table.rows, unclosed, badge], rfl⟩

theorem unclosed_session (st : MCState) (ref : SessionRef) (running : st.unclosed ref = true) :
    ∃ s, st.heap[ref]? = some s ∧ s.isClosed = false := by
  rw [unclosed, badge] at running
  cases stored : st.heap[ref]? with
  | none => simp [stored] at running
  | some s => exact ⟨s, rfl, by simpa [stored, Session.badge] using running⟩

theorem sessions_accounted (env : Env) (pool4 pool6 : Option IPPool) (userDB : Option UserDB) (queues : Nat) (st : MCState)
    (reached : Runs.Reach (step env) (fun _ _ => True) (start pool4 pool6 userDB queues) st) :
    (∀ ref s, st.heap[ref]? = some s →
      ((Table.rows st.sessions).map Prod.snd).count ref + st.pending.count ref = if s.isClosed then 0 else 1) ∧
    (∀ ref ∈ st.pending, ∃ s, st.heap[ref]? = some s ∧ s.isClosed = false) ∧
    (∀ clientID ref, st.sessions.lookup clientID = some ref →
      ∃ s, st.heap[ref]? = some s ∧ s.id = clientID ∧ s.isClosed = false) ∧
    (st.sessions = ∅ → st.pending = [] → ∀ s ∈ st.heap, s.isClosed = true) := by
  have census := Runs.reach_invariant (census_preserved env) reached (start_census pool4 pool6 userDB queues)
  have owners : st.LiveOwners := Runs.reach_invariant
    (fun before action after held _ taken => effect_live_owners env before after action (step_effect env before after action taken) held)
    reached (by simp [LiveOwners, start])
  have counted : ∀ ref s, st.heap[ref]? = some s →
      ((Table.rows st.sessions).map Prod.snd).count ref + st.pending.count ref = if s.isClosed then 0 else 1 := by
    intro ref s stored
    have running : st.unclosed ref = !s.isClosed := by simp [unclosed, badge, stored, Session.badge]
    rw [← List.count_append, ← attending]
    cases closed : s.isClosed with
    | true =>
        refine List.count_eq_zero.mpr fun listed => ?_
        rw [census.listed, running, closed] at listed
        cases listed
    | false => exact List.count_eq_one_of_mem census.once ((census.listed ref).mpr (by rw [running, closed]; rfl))
  refine ⟨counted, fun ref waiting => ?_, fun clientID ref live => ?_, fun emptied done s member => ?_⟩
  · exact unclosed_session st ref ((census.listed ref).mp (waiting_attends ref waiting))
  · have listed : ref ∈ st.attending :=
      List.mem_append_left _ (List.mem_map.mpr ⟨_, (Table.mem_rows st.sessions clientID ref).mpr live, rfl⟩)
    obtain ⟨s, stored, running⟩ := unclosed_session st ref ((census.listed ref).mp listed)
    obtain ⟨o, owned, named⟩ := owners clientID ref live
    obtain ⟨other, same, id, _⟩ := owner_session st ref o owned
    obtain rfl := Option.some.inj (stored.symm.trans same)
    exact ⟨s, stored, id.trans named, running⟩
  · obtain ⟨ref, stored⟩ := List.mem_iff_getElem?.mp member
    have nowhere := counted ref s stored
    rw [emptied, done] at nowhere
    cases closed : s.isClosed with
    | true => rfl
    | false => simp [closed, Table.rows] at nowhere

end MCState

theorem sessions_accounted_reaped :
    ∃ st s, Runs.Reach (MCState.step pairEnv) (fun _ _ => True) pairStart st ∧ st.sessions.lookup clientA = some 1 ∧
      st.pending = [] ∧ st.heap[1]? = some s ∧ s.id = clientA ∧ s.isClosed = false := by
  have observed : (Runs.execute (MCState.step pairEnv) (fun _ _ => True) pairStart reapSteps).map
      (fun st => (st.sessions.lookup clientA, st.pending)) = some (some 1, []) := by
    decide +kernel
  obtain ⟨st, completed, view⟩ := Option.map_eq_some_iff.mp observed
  obtain ⟨live, done⟩ := Prod.mk.inj view
  have reached := Runs.execute_reach _ _ reapSteps completed
  obtain ⟨_, _, joined, _⟩ := MCState.sessions_accounted pairEnv (some pairPool) none (some pairDB) 1 st reached
  obtain ⟨s, stored, named, running⟩ := joined clientA 1 live
  exact ⟨st, s, reached, live, done, stored, named, running⟩

end Packethose
