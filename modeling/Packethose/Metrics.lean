import Packethose.Permits
import Packethose.SessionCensus

set_option autoImplicit false

namespace Packethose

inductive Counter where
  | accepts
  | hsOK
  | hsFail
  | rateLimited
  | slotsFull
  | sessOpened
  | sessClosed
deriving DecidableEq

structure Metrics where
  count : Counter → Nat

namespace Metrics

def newMetrics : Metrics := ⟨fun _ => 0⟩

def inc (counter : Counter) (m : Option Metrics) : Option Metrics :=
  m.map fun metrics => ⟨Function.update metrics.count counter (metrics.count counter + 1)⟩

def incAccept : Option Metrics → Option Metrics := inc .accepts

def incHandshakeOK : Option Metrics → Option Metrics := inc .hsOK

def incHandshakeFail : Option Metrics → Option Metrics := inc .hsFail

def incRateLimited : Option Metrics → Option Metrics := inc .rateLimited

def incSlotsFull : Option Metrics → Option Metrics := inc .slotsFull

def incSessionOpened : Option Metrics → Option Metrics := inc .sessOpened

def incSessionClosed : Option Metrics → Option Metrics := inc .sessClosed

def sessionsActive (m : Metrics) : Int := m.count .sessOpened - m.count .sessClosed

end Metrics

def Counter.call : Counter → Option Metrics → Option Metrics
  | .accepts => Metrics.incAccept
  | .hsOK => Metrics.incHandshakeOK
  | .hsFail => Metrics.incHandshakeFail
  | .rateLimited => Metrics.incRateLimited
  | .slotsFull => Metrics.incSlotsFull
  | .sessOpened => Metrics.incSessionOpened
  | .sessClosed => Metrics.incSessionClosed

inductive HandshakeEnd where
  | admitted
  | unassigned
  | failed
deriving DecidableEq

def HandshakeEnd.counter : HandshakeEnd → Option Counter
  | .admitted => some .hsOK
  | .unassigned => none
  | .failed => some .hsFail

def Intake.counter : Intake → Option Counter
  | .rateLimited => some .rateLimited
  | .slotsFull => some .slotsFull
  | .rejected | .granted => none

def ConnPoint.handshaking : ConnPoint → Bool
  | .greeting | .authorized _ | .assigning4 _ _ | .assigning6 _ _ _ | .replying _ _ => true
  | _ => false

inductive Debtor where
  | loop
  | handler (conn : Nat)
  | gc
  | bystander
deriving DecidableEq

def Action.debtor : Action → Debtor
  | .handshake conn | .assign conn | .allocate conn | .reply conn _ | .releaseOrphan conn | .acquire conn _
  | .quotaRelease conn | .attach conn _ | .laneRead conn | .detach conn _ => .handler conn
  | .collect _ | .tearDownAll | .tearDown _ => .gc
  | .accept _ | .reload _ | .tunRead _ _ | .tunSend _ _ => .bystander

namespace MCState

def verdict (env : Env) (st : MCState) : Action → Option HandshakeEnd
  | .handshake conn =>
      match st.conns[conn]? with
      | some ⟨input, users, .greeting⟩ =>
          match readClientHello env (env.authorizer users) input with
          | .ok _ => none
          | .error _ => some .failed
      | _ => none
  | .reply conn sent =>
      match st.pointOf conn with
      | some (.replying hello asg) =>
          some (if sent then if (hello.identity asg).hasAssignment then .admitted else .unassigned else .failed)
      | _ => none
  | _ => none

def stages (st : MCState) : Nat := st.conns.countP fun entry => entry.point.handshaking

def dues (env : Env) (st next : MCState) : Action → List Counter
  | .acquire _ _ => if st.heap.length < next.heap.length then [.sessOpened] else []
  | .tearDown ref => if st.unclosed ref then [.sessClosed] else []
  | action => ((st.verdict env action).bind HandshakeEnd.counter).toList

end MCState

-- The server with its counters. A goroutine that has just done what is to be
-- counted owes the increment and does nothing else before; the loop counts a
-- connection it then has in hand. The last two fields are histories.
structure MeteredState where
  intake : IntakeState
  metrics : Option Metrics
  hand : Bool
  owed : List (Debtor × Counter)
  turns : List Intake
  ended : List HandshakeEnd

inductive MeterAction where
  | accepted
  | gate (call : LimiterCall) (input : Bytes)
  | handler (action : Action)
  | free (conn : Nat)
  | finish (conn : Nat)
  | count (debtor : Debtor) (counter : Counter)

namespace MeteredState

def owes (st : MeteredState) (debtor : Debtor) : Bool := st.owed.any fun entry => entry.1 = debtor

def gate (allow : String) (st : MeteredState) (call : LimiterCall) (input : Bytes) : MeteredState :=
  let (intake, result) := st.intake.turn allow call input
  { st with
    intake := intake
    hand := false
    owed := st.owed ++ result.counter.toList.map fun counter => (.loop, counter)
    turns := st.turns ++ [result] }

def handled (env : Env) (st : MeteredState) (action : Action) (intake : IntakeState) : MeteredState :=
  { st with
    intake := intake
    owed := st.owed ++ (st.intake.mc.dues env intake.mc action).map fun counter => (action.debtor, counter)
    ended := st.ended ++ (st.intake.mc.verdict env action).toList }

def step (env : Env) (allow : String) (st : MeteredState) : MeterAction → Option MeteredState
  | .accepted =>
      if st.hand || st.owes .loop then none else some { st with hand := true, metrics := Metrics.incAccept st.metrics }
  | .gate call input => if st.hand then some (st.gate allow call input) else none
  | .handler action =>
      if st.owes action.debtor then none else (st.intake.step env allow (.handler action)).map (st.handled env action)
  | .free conn =>
      if st.owes (.handler conn) then none
      else (st.intake.step env allow (.free conn)).map fun intake => { st with intake := intake }
  | .finish conn =>
      if st.owes (.handler conn) then none
      else (st.intake.step env allow (.finish conn)).map fun intake => { st with intake := intake }
  | .count debtor counter =>
      if (debtor, counter) ∈ st.owed then
        some { st with metrics := counter.call st.metrics, owed := st.owed.erase (debtor, counter) }
      else none

def start (cfg : RateLimitConfig) (mc : MCState) (metrics : Option Metrics) : MeteredState :=
  ⟨.start cfg mc, metrics, false, [], [], []⟩

def unpaid (st : MeteredState) (counter : Counter) : Nat := (st.owed.map Prod.snd).count counter

def noted (st : MeteredState) : Counter → Nat
  | .accepts => st.turns.length + if st.hand then 1 else 0
  | .rateLimited => st.turns.count .rateLimited
  | .slotsFull => st.turns.count .slotsFull
  | .hsOK => st.ended.count .admitted
  | .hsFail => st.ended.count .failed
  | .sessOpened => st.intake.mc.heap.length
  | .sessClosed => st.intake.mc.heap.countP Session.isClosed

end MeteredState

theorem Counter.call_inc (counter : Counter) : counter.call = Metrics.inc counter := by
  cases counter <;> rfl

theorem Metrics.inc_count (counter other : Counter) (m next : Metrics) (called : Metrics.inc counter (some m) = some next) :
    next.count other = m.count other + if counter = other then 1 else 0 := by
  obtain rfl := Option.some.inj called
  by_cases same : counter = other
  · subst same
    simp
  · simp [same, Function.update_of_ne (Ne.symm same)]

namespace MCState

section Stages

variable (env : Env) (st : MCState)

theorem accept_stages (input : Bytes) : (st.accept input).stages = st.stages + 1 := by
  rw [stages, accept, List.countP_append]
  rfl

theorem set_point_stages (middle : MCState) (conn : Nat) (old new : ConnPoint) (same : middle.conns = st.conns)
    (reached : st.pointOf conn = some old) :
    (middle.setPoint conn new).stages + (if old.handshaking then 1 else 0) = st.stages + (if new.handshaking then 1 else 0) ∧
      (middle.setPoint conn new).conns.length = st.conns.length := by
  obtain ⟨entry, found, rfl⟩ := point_of_some st conn old reached
  have changed := Counting.count_modify st.conns conn (fun entry => { entry with point := new })
    (fun entry => entry.point.handshaking) entry found
  rw [stages, setPoint, same]
  exact ⟨changed, List.length_modify ..⟩

theorem point_kept (middle : MCState) (conn : Nat) (old new : ConnPoint) (same : middle.conns = st.conns)
    (reached : st.pointOf conn = some old) (alike : new.handshaking = old.handshaking) :
    (middle.setPoint conn new).stages = st.stages ∧ (middle.setPoint conn new).conns.length = st.conns.length := by
  obtain ⟨counted, length⟩ := st.set_point_stages middle conn old new same reached
  rw [alike] at counted
  exact ⟨Nat.add_right_cancel counted, length⟩

theorem handshake_stages (next : MCState) (conn : Nat) (taken : st.handshake env conn = some next) :
    next.stages + (st.verdict env (.handshake conn)).toList.length = st.stages ∧ next.conns.length = st.conns.length := by
  unfold handshake at taken
  unfold verdict
  split at taken
  · rename_i input users found
    have reached : st.pointOf conn = some .greeting := by rw [pointOf, found]; rfl
    simp only [found]
    cases read : readClientHello env (env.authorizer users) input with
    | ok hello =>
        simp only [read, Option.some.injEq] at taken
        exact taken ▸ st.point_kept st conn _ (.authorized hello) rfl reached rfl
    | error failure =>
        simp only [read] at taken
        split_ifs at taken with known
        · exact Option.some.inj taken ▸ st.set_point_stages st conn _ (.failed _) rfl reached
        · exact Option.some.inj taken ▸ st.set_point_stages st conn _ .closed rfl reached
  · cases taken

theorem reply_stages (next : MCState) (conn : Nat) (sent : Bool) (taken : st.reply conn sent = some next) :
    next.stages + (st.verdict env (.reply conn sent)).toList.length = st.stages ∧ next.conns.length = st.conns.length := by
  unfold reply at taken
  unfold verdict
  split at taken
  · rename_i hello asg reached
    simp only [reached]
    split_ifs at taken with written assigned known
    · exact Option.some.inj taken ▸ st.set_point_stages st conn _ (.admitted _) rfl reached
    · exact Option.some.inj taken ▸ st.set_point_stages st conn _ .closed rfl reached
    · exact Option.some.inj taken ▸ st.set_point_stages st conn _ (.failed _) rfl reached
    · exact Option.some.inj taken ▸ st.set_point_stages st conn _ .closed rfl reached
  · cases taken

theorem allocate_stages (next : MCState) (conn : Nat) (taken : st.allocate env conn = some next) :
    next.stages = st.stages ∧ next.conns.length = st.conns.length := by
  have kept : ∀ family hello db asg middle after, st.assignFamily env conn family hello db asg = some (middle, after) →
      middle.conns = st.conns := by
    intro family hello db asg middle after assigned
    rcases assign_family_effect env st conn family hello db asg middle after assigned with
      ⟨_, rfl, _⟩ | ⟨_, _, _, _, _, rfl, _⟩
    · rfl
    · cases family <;> rfl
  unfold allocate at taken
  split at taken
  · rename_i hello db reached
    obtain ⟨⟨middle, after⟩, assigned, rfl⟩ := Option.map_eq_some_iff.mp taken
    exact st.point_kept middle conn _ (.assigning6 hello db after) (kept .v4 _ _ _ _ _ assigned) reached rfl
  · rename_i hello db asg reached
    obtain ⟨⟨middle, after⟩, assigned, rfl⟩ := Option.map_eq_some_iff.mp taken
    exact st.point_kept middle conn _ (.replying hello after) (kept .v6 _ _ _ _ _ assigned) reached rfl
  · cases taken

theorem acquire_stages (next : MCState) (conn now : Nat) (taken : st.acquire conn now = some next) :
    next.stages = st.stages ∧ next.conns.length = st.conns.length := by
  unfold acquire at taken
  split at taken
  · rename_i ident reached
    split at taken
    · rename_i ref live
      exact Option.some.inj taken ▸ st.point_kept st conn _ (.joining ref) rfl reached rfl
    · split at taken
      · exact Option.some.inj taken ▸ st.point_kept st conn _ (.overQuota _) rfl reached rfl
      · rename_i db slot
        exact Option.some.inj taken ▸ st.point_kept _ conn _ (.joining _) (open_session_frame st ident db now).2.2.1 reached rfl
  · cases taken

theorem release_stages (next : MCState) (conn : Nat) (taken : st.releaseOrphan conn = some next ∨ st.quotaRelease conn = some next) :
    next.stages = st.stages ∧ next.conns.length = st.conns.length := by
  rcases taken with orphan | quota
  · unfold releaseOrphan at orphan
    split at orphan
    · rename_i clientID reached
      split_ifs at orphan
      · exact Option.some.inj orphan ▸ st.point_kept st conn _ .closed rfl reached rfl
      · exact Option.some.inj orphan ▸ st.point_kept (st.releaseAll clientID) conn _ .closed rfl reached rfl
    · cases orphan
  · unfold quotaRelease at quota
    split at quota
    · rename_i clientID reached
      exact Option.some.inj quota ▸ st.point_kept (st.releaseAll clientID) conn _ .closed rfl reached rfl
    · cases quota

theorem lane_stages (next : MCState) (conn now : Nat)
    (taken : st.attach conn now = some next ∨ st.laneRead conn = some next ∨ st.detach conn now = some next) :
    next.stages = st.stages ∧ next.conns.length = st.conns.length := by
  rcases taken with joins | reads | leaves
  · unfold attach at joins
    split at joins
    · rename_i ref reached
      obtain ⟨s, _, rfl⟩ := Option.map_eq_some_iff.mp joins
      exact st.point_kept (st.setSession ref _) conn _ (.attached ref _) rfl reached rfl
    · cases joins
  · unfold laneRead at reads
    split at reads
    · obtain ⟨s, _, same⟩ := Option.bind_eq_some_iff.mp reads
      split_ifs at same
      exact Option.some.inj same ▸ ⟨rfl, rfl⟩
    · cases reads
  · unfold detach at leaves
    split at leaves
    · rename_i ref queue reached
      obtain ⟨s, _, rfl⟩ := Option.map_eq_some_iff.mp leaves
      exact st.point_kept (st.setSession ref _) conn _ .closed rfl reached rfl
    · cases leaves

theorem shared_conns (next : MCState) (action : Action) (apart : action.conn = none) (inside : ∀ input, action ≠ .accept input)
    (effect : Effect env st action next) : next.conns = st.conns := by
  cases effect with
  | accepted input => exact absurd rfl (inside input)
  | moved _ conn entry point actor | released _ conn entry point actor =>
      rw [apart] at actor
      cases actor
  | allocated | opened => cases apart
  | laned _ conn entry ref s change _ found stored changed =>
      generalize entry.point = point at changed
      cases changed <;> cases apart
  | collected | cleared | tornAgain | torn | reloaded | unreloaded | ignored | matched | queued | dropped => rfl

theorem step_stages (next : MCState) (action : Action) (inside : ∀ input, action ≠ .accept input)
    (taken : st.step env action = some next) :
    next.stages + (st.verdict env action).toList.length = st.stages ∧ next.conns.length = st.conns.length := by
  cases action with
  | accept input => exact absurd rfl (inside input)
  | handshake conn => exact st.handshake_stages env next conn taken
  | reply conn sent => exact st.reply_stages env next conn sent taken
  | allocate conn => exact st.allocate_stages env next conn taken
  | acquire conn now => exact st.acquire_stages next conn now taken
  | releaseOrphan conn => exact st.release_stages next conn (.inl taken)
  | quotaRelease conn => exact st.release_stages next conn (.inr taken)
  | assign conn =>
      simp only [step, assign] at taken
      split at taken
      · rename_i hello reached
        exact Option.some.inj taken ▸ st.point_kept st conn _ (.assigning4 hello st.userDB) rfl reached rfl
      · cases taken
  | attach conn now => exact st.lane_stages next conn now (.inl taken)
  | laneRead conn => exact st.lane_stages next conn 0 (.inr (.inl taken))
  | detach conn now => exact st.lane_stages next conn now (.inr (.inr taken))
  | collect | tearDownAll | tearDown | reload | tunRead | tunSend =>
      have same := st.shared_conns env next _ rfl inside (step_effect env st next _ taken)
      exact ⟨congrArg (fun conns => conns.countP fun entry => entry.point.handshaking) same, congrArg List.length same⟩

end Stages

theorem turnover_dues (env : Env) (st next : MCState) (action : Action) (turnover : Turnover st action next) :
    next.heap.length = st.heap.length + (st.dues env next action).count .sessOpened ∧
      next.heap.countP Session.isClosed = st.heap.countP Session.isClosed + (st.dues env next action).count .sessClosed := by
  have verdicts : ∀ verdict : Option HandshakeEnd, (verdict.bind HandshakeEnd.counter).toList.count .sessOpened = 0 ∧
      (verdict.bind HandshakeEnd.counter).toList.count .sessClosed = 0 := by
    intro verdict
    rcases verdict with _ | _ | _ | _ <;> exact ⟨rfl, rfl⟩
  cases turnover with
  | kept _ _ other places badges length =>
      rw [closed_badges st next badges, length]
      cases action with
      | acquire => simp [dues, length]
      | tearDown => cases other
      | _ => simp [dues, verdicts]
  | opened conn now s _ places fresh heap => simp [dues, heap, fresh]
  | again ref s waiting stored done => simp [dues, forget, unclosed, badge, stored, Session.badge, done]
  | closed ref s _ waiting stored first places heap =>
      have changed := Counting.count_modify st.heap ref Session.tornDown Session.isClosed s stored
      have due : st.dues env next (.tearDown ref) = [.sessClosed] := by
        simp [dues, unclosed, badge, stored, Session.badge, first]
      rw [due, heap, List.length_modify]
      simp [first, Session.tornDown] at changed
      exact ⟨rfl, changed⟩

theorem verdict_dues (env : Env) (st next : MCState) (action : Action) :
    (st.dues env next action).count .hsOK = (st.verdict env action).toList.count .admitted ∧
      (st.dues env next action).count .hsFail = (st.verdict env action).toList.count .failed ∧
      (st.dues env next action).count .accepts = 0 ∧ (st.dues env next action).count .rateLimited = 0 ∧
      (st.dues env next action).count .slotsFull = 0 := by
  have verdicts : ∀ verdict : Option HandshakeEnd,
      (verdict.bind HandshakeEnd.counter).toList.count .hsOK = verdict.toList.count .admitted ∧
      (verdict.bind HandshakeEnd.counter).toList.count .hsFail = verdict.toList.count .failed ∧
      (verdict.bind HandshakeEnd.counter).toList.count .accepts = 0 ∧ (verdict.bind HandshakeEnd.counter).toList.count .rateLimited = 0 ∧
      (verdict.bind HandshakeEnd.counter).toList.count .slotsFull = 0 := by
    intro verdict
    rcases verdict with _ | _ | _ | _ <;> exact ⟨rfl, rfl, rfl, rfl, rfl⟩
  cases action with
  | acquire conn now =>
      simp only [dues, verdict]
      split_ifs <;> exact ⟨rfl, rfl, rfl, rfl, rfl⟩
  | tearDown ref =>
      simp only [dues, verdict]
      split_ifs <;> exact ⟨rfl, rfl, rfl, rfl, rfl⟩
  | _ => simp [dues, verdicts]

end MCState

namespace IntakeState

theorem turn_mc (allow : String) (st : IntakeState) (call : LimiterCall) (input : Bytes) :
    (st.turn allow call input).1.mc = if (st.turn allow call input).2 = .granted then st.mc.accept input else st.mc := by
  simp only [turn]
  split_ifs <;> simp_all

theorem release_mc (st next : IntakeState) (conn : Nat) (called : st.callRelease conn = some next) : next.mc = st.mc := by
  obtain ⟨g, _, after⟩ := Option.bind_eq_some_iff.mp called
  obtain ⟨_, _, rfl⟩ := Option.map_eq_some_iff.mp after
  rfl

theorem permit_mc (env : Env) (allow : String) (st next : IntakeState) (conn : Nat)
    (taken : st.step env allow (.free conn) = some next ∨ st.step env allow (.finish conn) = some next) : next.mc = st.mc := by
  rcases taken with freed | finished
  · rw [step] at freed
    split_ifs at freed
    obtain ⟨called, release, rfl⟩ := Option.map_eq_some_iff.mp freed
    exact st.release_mc called conn release
  · rw [step] at finished
    split_ifs at finished
    obtain ⟨called, release, rfl⟩ := Option.map_eq_some_iff.mp finished
    exact st.release_mc called conn release

theorem handler_mc (env : Env) (allow : String) (st next : IntakeState) (action : Action)
    (taken : st.step env allow (.handler action) = some next) :
    (∀ input, action ≠ .accept input) ∧ st.mc.step env action = some next.mc := by
  rw [step] at taken
  split_ifs at taken with runs
  obtain ⟨mc, stepped, rfl⟩ := Option.map_eq_some_iff.mp taken
  refine ⟨?_, stepped⟩
  rintro input rfl
  cases runs

end IntakeState

namespace MeteredState

structure Metered (st : MeteredState) : Prop where
  tallied : ∀ m, st.metrics = some m → ∀ counter, m.count counter + st.unpaid counter = st.noted counter
  granted : st.turns.count .granted = st.intake.mc.conns.length
  staged : st.intake.mc.stages + st.ended.length = st.intake.mc.conns.length
  census : st.intake.mc.Census
  upfront : st.unpaid .accepts = 0

section Steps

variable (env : Env) (allow : String) (st : MeteredState)

theorem unpaid_owed (next : MeteredState) (fresh : List (Debtor × Counter)) (owed : next.owed = st.owed ++ fresh) (counter : Counter) :
    next.unpaid counter = st.unpaid counter + (fresh.map Prod.snd).count counter := by
  rw [unpaid, owed, List.map_append, List.count_append, unpaid]

theorem owed_tallied (next : MeteredState) (fresh : List (Debtor × Counter)) (same : next.metrics = st.metrics)
    (owed : next.owed = st.owed ++ fresh) (noted : ∀ counter, next.noted counter = st.noted counter + (fresh.map Prod.snd).count counter)
    (tallied : ∀ m, st.metrics = some m → ∀ counter, m.count counter + st.unpaid counter = st.noted counter) :
    ∀ m, next.metrics = some m → ∀ counter, m.count counter + next.unpaid counter = next.noted counter := by
  intro m counted counter
  rw [noted, ← tallied m (same ▸ counted), st.unpaid_owed next fresh owed, Nat.add_assoc]

theorem handled_noted (action : Action) (intake : IntakeState) (turnover : st.intake.mc.Turnover action intake.mc) (counter : Counter) :
    (st.handled env action intake).noted counter = st.noted counter + (st.intake.mc.dues env intake.mc action).count counter := by
  obtain ⟨ok, fail, accepts, limited, full⟩ := st.intake.mc.verdict_dues env intake.mc action
  obtain ⟨opened, closed⟩ := st.intake.mc.turnover_dues env intake.mc action turnover
  cases counter with
  | accepts => rw [accepts]; rfl
  | rateLimited => rw [limited]; rfl
  | slotsFull => rw [full]; rfl
  | hsOK => rw [ok]; exact List.count_append
  | hsFail => rw [fail]; exact List.count_append
  | sessOpened => exact opened
  | sessClosed => exact closed

theorem gate_noted (call : LimiterCall) (input : Bytes) (holding : st.hand = true) (counter : Counter) :
    (st.gate allow call input).noted counter =
      st.noted counter + ((st.intake.turn allow call input).2.counter.toList).count counter := by
  have heap : (st.intake.turn allow call input).1.mc.heap = st.intake.mc.heap := by
    rw [st.intake.turn_mc allow call input]
    split_ifs <;> rfl
  simp only [gate, noted]
  generalize st.intake.turn allow call input = answer at heap
  obtain ⟨intake, result⟩ := answer
  dsimp only at heap
  cases counter <;> cases result <;> simp [Intake.counter, holding, heap, List.count_append]

theorem gate_metered (call : LimiterCall) (input : Bytes) (holding : st.hand = true) (metered : st.Metered) :
    (st.gate allow call input).Metered := by
  have mc := st.intake.turn_mc allow call input
  have turned : (st.gate allow call input).turns = st.turns ++ [(st.intake.turn allow call input).2] := rfl
  have ended : (st.gate allow call input).ended = st.ended := rfl
  have intake : (st.gate allow call input).intake = (st.intake.turn allow call input).1 := rfl
  refine ⟨?_, ?_, ?_, ?_, ?_⟩
  · refine st.owed_tallied _ ((st.intake.turn allow call input).2.counter.toList.map fun counter => (.loop, counter)) rfl rfl
      (fun counter => ?_) metered.tallied
    rw [st.gate_noted allow call input holding, List.map_map]
    simp [Function.comp_def]
  · rw [turned, List.count_append, metered.granted, intake, mc]
    split_ifs with granted <;> simp [granted, MCState.accept]
  · have staged := metered.staged
    rw [ended, intake, mc]
    split_ifs with granted
    · rw [MCState.accept_stages, MCState.accept, List.length_append, List.length_singleton]
      omega
    · exact staged
  · rw [intake, mc]
    split_ifs
    · exact ⟨metered.census.once, metered.census.listed, metered.census.size⟩
    · exact metered.census
  · refine (st.unpaid_owed _ ((st.intake.turn allow call input).2.counter.toList.map fun counter => (.loop, counter)) rfl .accepts).trans ?_
    rw [metered.upfront]
    cases (st.intake.turn allow call input).2 <;> rfl

theorem handled_metered (action : Action) (intake : IntakeState) (taken : st.intake.step env allow (.handler action) = some intake)
    (metered : st.Metered) : (st.handled env action intake).Metered := by
  obtain ⟨inside, stepped⟩ := st.intake.handler_mc env allow intake action taken
  have turnover := MCState.effect_turnover env st.intake.mc intake.mc action (MCState.step_effect env _ _ action stepped)
  obtain ⟨stages, length⟩ := st.intake.mc.step_stages env intake.mc action inside stepped
  refine ⟨?_, metered.granted.trans length.symm, ?_, MCState.turnover_census metered.census turnover, ?_⟩
  · refine st.owed_tallied _ ((st.intake.mc.dues env intake.mc action).map fun counter => (action.debtor, counter)) rfl rfl
      (fun counter => ?_) metered.tallied
    rw [st.handled_noted env action intake turnover, List.map_map]
    simp [Function.comp_def]
  · have staged := metered.staged
    have ended : (st.handled env action intake).ended.length = st.ended.length + (st.intake.mc.verdict env action).toList.length :=
      List.length_append
    rw [ended]
    change intake.mc.stages + _ = intake.mc.conns.length
    omega
  · refine (st.unpaid_owed _ _ rfl .accepts).trans ?_
    rw [metered.upfront, List.map_map]
    simpa [Function.comp_def] using (st.intake.mc.verdict_dues env intake.mc action).2.2.1

theorem permit_metered (intake : IntakeState) (same : intake.mc = st.intake.mc) (metered : st.Metered) :
    ({ st with intake := intake } : MeteredState).Metered := by
  have noted : ∀ counter, ({ st with intake := intake } : MeteredState).noted counter = st.noted counter := by
    intro counter
    cases counter <;> simp [noted, same]
  refine ⟨fun m counted counter => ?_, ?_, ?_, ?_, metered.upfront⟩
  · rw [noted]
    exact metered.tallied m counted counter
  · rw [metered.granted, same]
  · have staged := metered.staged
    rw [← same] at staged
    exact staged
  · rw [same]
    exact metered.census

theorem count_metered (debtor : Debtor) (counter : Counter) (owed : (debtor, counter) ∈ st.owed) (metered : st.Metered) :
    ({ st with metrics := counter.call st.metrics, owed := st.owed.erase (debtor, counter) } : MeteredState).Metered := by
  have paid : ∀ other, st.unpaid other =
      ((st.owed.erase (debtor, counter)).map Prod.snd).count other + if counter = other then 1 else 0 := by
    intro other
    rw [unpaid, ((List.perm_cons_erase owed).map Prod.snd).count_eq, List.map_cons, List.count_cons]
    simp
  refine ⟨fun m counted other => ?_, metered.granted, metered.staged, metered.census,
    Nat.eq_zero_of_add_eq_zero_right ((paid .accepts).symm.trans metered.upfront)⟩
  rw [Counter.call_inc] at counted
  cases held : st.metrics with
  | none =>
      rw [held] at counted
      cases counted
  | some before =>
      rw [held] at counted
      have fewer := paid other
      have whole := metered.tallied before held other
      change m.count other + ((st.owed.erase (debtor, counter)).map Prod.snd).count other = st.noted other
      rw [Metrics.inc_count counter other before m counted]
      omega

theorem accepted_metered (free : st.hand = false) (metered : st.Metered) :
    ({ st with hand := true, metrics := Metrics.incAccept st.metrics } : MeteredState).Metered := by
  refine ⟨fun m counted other => ?_, metered.granted, metered.staged, metered.census, metered.upfront⟩
  cases held : st.metrics with
  | none =>
      rw [held] at counted
      cases counted
  | some before =>
      rw [held] at counted
      have whole := metered.tallied before held other
      change m.count other + st.unpaid other = _
      rw [Metrics.inc_count .accepts other before m counted]
      cases other <;> simp [noted, free] at whole ⊢ <;> omega

end Steps

theorem metered_preserved (env : Env) (allow : String) : Runs.Preserved (step env allow) (fun _ _ => True) Metered := by
  intro st action next metered _ taken
  cases action with
  | accepted =>
      rw [step] at taken
      split_ifs at taken with busy
      simp only [Bool.or_eq_true, not_or, Bool.not_eq_true] at busy
      exact Option.some.inj taken ▸ st.accepted_metered busy.1 metered
  | gate call input =>
      rw [step] at taken
      split_ifs at taken with holding
      exact Option.some.inj taken ▸ st.gate_metered allow call input holding metered
  | handler action =>
      rw [step] at taken
      split_ifs at taken
      obtain ⟨intake, stepped, rfl⟩ := Option.map_eq_some_iff.mp taken
      exact st.handled_metered env allow action intake stepped metered
  | free conn =>
      rw [step] at taken
      split_ifs at taken
      obtain ⟨intake, stepped, rfl⟩ := Option.map_eq_some_iff.mp taken
      exact st.permit_metered intake (st.intake.permit_mc env allow intake conn (.inl stepped)) metered
  | finish conn =>
      rw [step] at taken
      split_ifs at taken
      obtain ⟨intake, stepped, rfl⟩ := Option.map_eq_some_iff.mp taken
      exact st.permit_metered intake (st.intake.permit_mc env allow intake conn (.inr stepped)) metered
  | count debtor counter =>
      rw [step] at taken
      split_ifs at taken with owed
      exact Option.some.inj taken ▸ st.count_metered debtor counter owed metered

theorem start_metered (cfg : RateLimitConfig) (pool4 pool6 : Option IPPool) (userDB : Option UserDB) (queues : Nat) :
    (start cfg (.start pool4 pool6 userDB queues) (some .newMetrics)).Metered := by
  refine ⟨fun m counted counter => ?_, rfl, rfl, MCState.start_census pool4 pool6 userDB queues, rfl⟩
  obtain rfl := Option.some.inj counted
  cases counter <;> rfl

theorem turns_parted (turns : List Intake) :
    turns.length = turns.count .rejected + turns.count .rateLimited + turns.count .slotsFull + turns.count .granted := by
  induction turns with
  | nil => rfl
  | cons first rest ih => cases first <;> simp [ih] <;> omega

theorem ended_parted (ended : List HandshakeEnd) :
    ended.length = ended.count .admitted + ended.count .unassigned + ended.count .failed := by
  induction ended with
  | nil => rfl
  | cons first rest ih => cases first <;> simp [ih] <;> omega

-- Every counter is exact but for what some goroutine is about to add, so the
-- outcomes never outnumber the connections, and the gauge is the number of
-- sessions that have not been torn down.
theorem metrics_conserved (env : Env) (allow : String) (cfg : RateLimitConfig) (pool4 pool6 : Option IPPool) (userDB : Option UserDB)
    (queues : Nat) (st : MeteredState) (m : Metrics) (counted : st.metrics = some m)
    (reached : Runs.Reach (step env allow) (fun _ _ => True) (start cfg (.start pool4 pool6 userDB queues) (some .newMetrics)) st) :
    (∀ counter, m.count counter + st.unpaid counter = st.noted counter) ∧
    m.count .hsOK + m.count .hsFail + m.count .rateLimited + m.count .slotsFull ≤ m.count .accepts ∧
    (st.hand = false → st.owed = [] → st.intake.mc.stages = 0 →
      m.count .accepts = m.count .hsOK + m.count .hsFail + m.count .rateLimited + m.count .slotsFull +
        st.turns.count .rejected + st.ended.count .unassigned) ∧
    m.sessionsActive + st.unpaid .sessOpened = st.intake.mc.attending.length + st.unpaid .sessClosed ∧
    (st.owed = [] → m.sessionsActive = Table.size st.intake.mc.sessions + st.intake.mc.pending.length) := by
  have metered := Runs.reach_invariant (metered_preserved env allow) reached (start_metered cfg pool4 pool6 userDB queues)
  have tallied := metered.tallied m counted
  have turns := turns_parted st.turns
  have ended := ended_parted st.ended
  have granted := metered.granted
  have staged := metered.staged
  have size := metered.census.size
  have upfront := metered.upfront
  have accepts : m.count .accepts + st.unpaid .accepts = st.turns.length + if st.hand then 1 else 0 := tallied .accepts
  have ok : m.count .hsOK + st.unpaid .hsOK = st.ended.count .admitted := tallied .hsOK
  have fail : m.count .hsFail + st.unpaid .hsFail = st.ended.count .failed := tallied .hsFail
  have limited : m.count .rateLimited + st.unpaid .rateLimited = st.turns.count .rateLimited := tallied .rateLimited
  have full : m.count .slotsFull + st.unpaid .slotsFull = st.turns.count .slotsFull := tallied .slotsFull
  have opened : m.count .sessOpened + st.unpaid .sessOpened = st.intake.mc.heap.length := tallied .sessOpened
  have closed : m.count .sessClosed + st.unpaid .sessClosed = st.intake.mc.heap.countP Session.isClosed := tallied .sessClosed
  have gauge : m.sessionsActive + st.unpaid .sessOpened = st.intake.mc.attending.length + st.unpaid .sessClosed := by
    rw [Metrics.sessionsActive]
    omega
  refine ⟨tallied, by omega, fun idle settled quiet => ?_, gauge, fun settled => ?_⟩
  · have paid : ∀ counter, st.unpaid counter = 0 := fun counter => by rw [unpaid, settled]; rfl
    rw [idle, if_neg Bool.false_ne_true] at accepts
    rw [paid] at ok fail limited full
    omega
  · have paid : ∀ counter, st.unpaid counter = 0 := fun counter => by rw [unpaid, settled]; rfl
    have rows : st.intake.mc.attending.length = Table.size st.intake.mc.sessions + st.intake.mc.pending.length := by
      simp [MCState.attending, Table.rows, Table.size]
    rw [paid, paid, rows] at gauge
    push_cast at gauge
    omega

end MeteredState

def meteredSteps : List MeterAction :=
  [MeterAction.accepted, .gate ⟨"10.0.0.9", 0, [], []⟩ (helloBytes 0xAA), .accepted, .gate ⟨"10.0.0.9", 0, [], []⟩ [],
      .count .loop .slotsFull] ++
    (handshakeSteps 0 true).map MeterAction.handler ++
    [MeterAction.count (.handler 0) .hsOK, .free 0, .accepted, .gate ⟨"10.0.0.9", 0, [], []⟩ [], .handler (.acquire 0 0),
      .handler (.handshake 1), .count (.handler 1) .hsFail, .count (.handler 0) .sessOpened, .handler (.attach 0 0)]

theorem metrics_conserved_single :
    ∃ st m, Runs.Reach (MeteredState.step pairEnv "") (fun _ _ => True)
        (.start ⟨false, 0, 0, 1, 0⟩ pairStart (some .newMetrics)) st ∧ st.metrics = some m ∧
      [m.count .accepts, m.count .hsOK, m.count .hsFail, m.count .slotsFull] = [3, 1, 1, 1] ∧ m.sessionsActive = 1 := by
  have observed : (Runs.execute (MeteredState.step pairEnv "") (fun _ _ => True)
      (.start ⟨false, 0, 0, 1, 0⟩ pairStart (some .newMetrics)) meteredSteps).map
      (fun st => (st.metrics.map (fun m => [m.count .accepts, m.count .hsOK, m.count .hsFail, m.count .slotsFull]),
        [st.owed.length, Table.size st.intake.mc.sessions, st.intake.mc.pending.length])) = some (some [3, 1, 1, 1], [0, 1, 0]) := by
    decide +kernel
  obtain ⟨st, completed, view⟩ := Option.map_eq_some_iff.mp observed
  simp only [Prod.mk.injEq, List.cons.injEq, List.length_eq_zero_iff, and_true] at view
  obtain ⟨counts, settled, size, pending⟩ := view
  obtain ⟨m, counted, same⟩ := Option.map_eq_some_iff.mp counts
  have reached := Runs.execute_reach _ _ meteredSteps completed
  obtain ⟨_, _, _, _, gauge⟩ := MeteredState.metrics_conserved pairEnv "" ⟨false, 0, 0, 1, 0⟩ (some pairPool) none (some pairDB) 1 st m
    counted reached
  refine ⟨st, m, reached, counted, same, ?_⟩
  rw [gauge settled, size, pending]
  rfl

end Packethose
