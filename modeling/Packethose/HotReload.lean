import Packethose.FileConfig
import Packethose.ServerReload

set_option autoImplicit false

namespace Packethose

def FileConfig.blank : FileConfig where
  listen := ""
  lanes := 0
  mptcp := false
  cipher := ""
  vnetHdr := none
  allowIP := ""
  tunName := ""
  serverKey := ""
  peerPubKey := ""
  pool := ⟨"", "", "", ""⟩
  users := []
  rateLimit := ⟨false, 0, 0, 0, 0⟩
  forward := ⟨false, false, false, false, 0, 0, 0, "", ""⟩
  nft := ⟨none, "", ""⟩
  tproxy := ⟨none, "", 0, 0, none⟩

abbrev FileText := Except String String

abbrev YamlDecoder := String → Except String FileConfig

def loadFile (yaml : YamlDecoder) (path : String) (disk : FileText) : Except String FileConfig :=
  if path = "" then .ok .blank else (disk.bind yaml).mapError fun problem => "config " ++ path ++ ": " ++ problem

inductive HangupPoint where
  | waiting
  | loading
  | converting (fc : FileConfig)
  | applying (users : List User)
  | returned

-- runServer behind NewServer; without a configuration path it starts no such
-- goroutine. hup is the buffered channel of one signal. The last three fields are
-- histories: whether the file is as it was at the last signal, whether it was
-- read since then, and what was read each time.
structure HangupState where
  disk : FileText
  hup : Bool
  cancelled : Bool
  point : HangupPoint
  server : ServerRun
  unedited : Bool
  heard : Bool
  loads : List FileText

inductive HangupAction where
  | edit (text : FileText)
  | signal
  | cancel
  | take
  | leave
  | load
  | convert
  | apply
  | server (action : ServerAction)

namespace HangupState

variable (go : GoLib) (yaml : YamlDecoder) (path : String) (cfg : ServerConfig)

def start (disk : FileText) (server : ServerRun) : HangupState :=
  { disk, server
    hup := false
    cancelled := false
    point := if path = "" then .returned else .waiting
    unedited := false
    heard := true
    loads := [] }

def setPoint (st : HangupState) (point : HangupPoint) : HangupState := { st with point := point }

def load (st : HangupState) : Option HangupState :=
  match st.point with
  | .loading =>
      let read := { st with heard := true, loads := st.loads ++ [st.disk] }
      match loadFile yaml path st.disk with
      | .ok fc => some (read.setPoint (.converting fc))
      | .error _ => some (read.setPoint .waiting)
  | _ => none

def convert (st : HangupState) : Option HangupState :=
  match st.point with
  | .converting fc =>
      match fc.toUsers go with
      | .ok users => some (st.setPoint (.applying users))
      | .error _ => some (st.setPoint .waiting)
  | _ => none

def apply (st : HangupState) : Option HangupState :=
  match st.point with
  | .applying users =>
      match st.server.reloadUsers users with
      | .ok server => some { st with point := .waiting, server := server }
      | .error _ => some (st.setPoint .waiting)
  | _ => none

-- signal.Notify drops a signal for which the channel has no room.
def step (st : HangupState) : HangupAction → Option HangupState
  | .edit text => some { st with disk := text, unedited := false }
  | .signal => if path = "" then none else some { st with hup := true, unedited := true, heard := false }
  | .cancel => some { st with cancelled := true }
  | .take =>
      match st.point with
      | .waiting => if st.hup then some { st with hup := false, point := .loading } else none
      | _ => none
  | .leave =>
      match st.point with
      | .waiting => if st.cancelled then some (st.setPoint .returned) else none
      | _ => none
  | .load => st.load yaml path
  | .convert => st.convert go
  | .apply => st.apply
  | .server (.reload _) => none
  | .server action => (st.server.step cfg action).map fun server => { st with server := server }

def usersOf (text : FileText) : Option (List User) :=
  (loadFile yaml path text).toOption.bind fun fc =>
    (fc.toUsers go).toOption.bind fun users => if (UserDB.newUserDB users).isOk then some users else none

def Pending (st : HangupState) : Prop :=
  match st.point with
  | .converting fc => ∃ text, st.loads.getLast? = some text ∧ loadFile yaml path text = .ok fc
  | .applying users => ∃ text fc, st.loads.getLast? = some text ∧ loadFile yaml path text = .ok fc ∧ fc.toUsers go = .ok users
  | .waiting | .loading | .returned =>
      ∀ text users, st.loads.getLast? = some text → usersOf go yaml path text = some users → st.server.inForce = users

def Own : HangupAction → Prop
  | .take | .load | .convert | .apply => True
  | _ => False

def stepsLeft (st : HangupState) : Nat :=
  (match st.point with
    | .waiting | .returned => 0
    | .applying _ => 1
    | .converting _ => 2
    | .loading => 3) + 4 * st.hup.toNat

structure Followed (initial : List User) (st : HangupState) : Prop where
  holder : ServerRun.Holds st.server.userDB st.server.inForce
  origin : st.server.inForce = initial ∨ ∃ text ∈ st.loads, usersOf go yaml path text = some st.server.inForce
  latest : st.unedited = true → st.heard = true → st.loads.getLast? = some st.disk
  signalled : st.heard = false → st.hup = true ∨ st.point = .loading
  pending : st.Pending go yaml path

section Steps

variable {go yaml path cfg} {initial : List User} {st next : HangupState}

theorem users_of_some (text : FileText) (users : List User) (given : usersOf go yaml path text = some users) :
    ∃ fc, loadFile yaml path text = .ok fc ∧ fc.toUsers go = .ok users ∧ (UserDB.newUserDB users).isOk = true := by
  obtain ⟨fc, loaded, rest⟩ := Option.bind_eq_some_iff.mp given
  obtain ⟨list, converted, valid⟩ := Option.bind_eq_some_iff.mp rest
  split_ifs at valid with accepted
  cases valid
  exact ⟨fc, Outcomes.to_option_some loaded, Outcomes.to_option_some converted, accepted⟩

theorem last_load (loads : List FileText) (disk text : FileText) (last : (loads ++ [disk]).getLast? = some text) : disk = text := by
  rw [List.getLast?_append_of_ne_nil _ (List.cons_ne_nil _ _)] at last
  exact Option.some.inj last

theorem load_followed (followed : st.Followed go yaml path initial) (taken : st.load yaml path = some next) :
    next.Followed go yaml path initial := by
  have origin : st.server.inForce = initial ∨ ∃ text ∈ st.loads ++ [st.disk], usersOf go yaml path text = some st.server.inForce :=
    followed.origin.imp_right fun ⟨text, member, given⟩ => ⟨text, List.mem_append_left _ member, given⟩
  have last : (st.loads ++ [st.disk]).getLast? = some st.disk := List.getLast?_concat
  unfold load at taken
  split at taken
  · cases loaded : loadFile yaml path st.disk with
    | ok fc =>
        simp only [loaded, Option.some.injEq] at taken
        subst taken
        exact ⟨followed.holder, origin, fun _ _ => last, fun unheard => (Bool.noConfusion unheard), st.disk, last, loaded⟩
    | error problem =>
        simp only [loaded, Option.some.injEq] at taken
        subst taken
        refine ⟨followed.holder, origin, fun _ _ => last, fun unheard => (Bool.noConfusion unheard), fun text users latest given => ?_⟩
        obtain rfl := last_load st.loads st.disk text latest
        obtain ⟨fc, good, _⟩ := users_of_some st.disk users given
        rw [loaded] at good
        cases good
  · cases taken

theorem convert_followed (followed : st.Followed go yaml path initial) (taken : st.convert go = some next) :
    next.Followed go yaml path initial := by
  have pending := followed.pending
  unfold convert at taken
  split at taken
  · rename_i fc point
    simp only [Pending, point] at pending
    obtain ⟨text, last, loaded⟩ := pending
    have moved : ∀ heardPoint : HangupPoint, st.heard = false → st.hup = true ∨ heardPoint = .loading := by
      intro heardPoint unheard
      rcases followed.signalled unheard with waiting | reading
      · exact .inl waiting
      · rw [point] at reading
        cases reading
    cases converted : fc.toUsers go with
    | ok users =>
        simp only [converted, Option.some.injEq] at taken
        subst taken
        exact ⟨followed.holder, followed.origin, followed.latest, moved _, text, fc, last, loaded, converted⟩
    | error problem =>
        simp only [converted, Option.some.injEq] at taken
        subst taken
        refine ⟨followed.holder, followed.origin, followed.latest, moved _, fun other users latest given => ?_⟩
        obtain rfl := Option.some.inj (last.symm.trans latest)
        obtain ⟨again, same, good, _⟩ := users_of_some text users given
        obtain rfl := Except.ok.inj (loaded.symm.trans same)
        rw [converted] at good
        cases good
  · cases taken

theorem apply_followed (followed : st.Followed go yaml path initial) (taken : st.apply = some next) :
    next.Followed go yaml path initial := by
  have pending := followed.pending
  unfold apply at taken
  split at taken
  · rename_i users point
    simp only [Pending, point] at pending
    obtain ⟨text, fc, last, loaded, converted⟩ := pending
    have moved : st.heard = false → st.hup = true ∨ HangupPoint.waiting = .loading := by
      intro unheard
      rcases followed.signalled unheard with waiting | reading
      · exact .inl waiting
      · rw [point] at reading
        cases reading
    have only : ∀ other list, st.loads.getLast? = some other → usersOf go yaml path other = some list → list = users := by
      intro other list latest given
      obtain rfl := Option.some.inj (last.symm.trans latest)
      obtain ⟨again, same, good, _⟩ := users_of_some text list given
      obtain rfl := Except.ok.inj (loaded.symm.trans same)
      exact Except.ok.inj (good.symm.trans converted)
    unfold ServerRun.reloadUsers at taken
    cases made : UserDB.newUserDB users with
    | ok db =>
        simp only [made, Except.map, Option.some.injEq] at taken
        subst taken
        have given : usersOf go yaml path text = some users := by
          simp [usersOf, loaded, converted, made, Except.toOption, Except.isOk, Except.toBool]
        exact ⟨.inr ⟨db, rfl, made⟩, .inr ⟨text, List.mem_of_getLast? last, given⟩, followed.latest, moved,
          fun other list latest good => (only other list latest good).symm⟩
    | error problem =>
        simp only [made, Except.map, Option.some.injEq] at taken
        subst taken
        refine ⟨followed.holder, followed.origin, followed.latest, moved, fun other list latest good => ?_⟩
        obtain rfl := only other list latest good
        obtain ⟨_, _, _, valid⟩ := users_of_some other list good
        simp [made, Except.isOk, Except.toBool] at valid
  · cases taken

theorem server_kept (server after : ServerRun) (action : ServerAction) (taken : server.step cfg action = some after)
    (other : ∀ users, action ≠ .reload users) : after.userDB = server.userDB ∧ after.inForce = server.inForce := by
  cases ServerRun.step_change cfg server after action taken with
  | reloaded users db made => exact absurd rfl (other users)
  | refused users => exact ⟨rfl, rfl⟩
  | listened quiet => exact ⟨rfl, rfl⟩
  | accepted running => exact ⟨rfl, rfl⟩
  | built conn listed found => exact ⟨rfl, rfl⟩

theorem server_followed (followed : st.Followed go yaml path initial) (after : ServerRun)
    (kept : after.userDB = st.server.userDB ∧ after.inForce = st.server.inForce) :
    ({ st with server := after } : HangupState).Followed go yaml path initial := by
  obtain ⟨holder, origin, latest, signalled, pending⟩ := followed
  refine ⟨by rwa [kept.1, kept.2], by rwa [kept.2], latest, signalled, ?_⟩
  unfold Pending at pending ⊢
  rwa [kept.2]

theorem followed_preserved :
    Runs.Preserved (step go yaml path cfg) (fun _ _ => True) (Followed go yaml path initial) := by
  intro st action next followed _ taken
  cases action with
  | edit text =>
      cases taken
      exact ⟨followed.holder, followed.origin, fun same => Bool.noConfusion same, followed.signalled, followed.pending⟩
  | signal =>
      simp only [step] at taken
      split_ifs at taken
      cases taken
      exact ⟨followed.holder, followed.origin, fun _ read => Bool.noConfusion read, fun _ => .inl rfl, followed.pending⟩
  | cancel =>
      cases taken
      exact ⟨followed.holder, followed.origin, followed.latest, followed.signalled, followed.pending⟩
  | take =>
      simp only [step] at taken
      split at taken
      · rename_i point
        have pending := followed.pending
        simp only [Pending, point] at pending
        split_ifs at taken
        cases taken
        exact ⟨followed.holder, followed.origin, followed.latest, fun _ => .inr rfl, pending⟩
      · cases taken
  | leave =>
      simp only [step] at taken
      split at taken
      · rename_i point
        have pending := followed.pending
        have signalled := followed.signalled
        simp only [Pending, point] at pending signalled
        split_ifs at taken
        cases taken
        refine ⟨followed.holder, followed.origin, followed.latest, fun unheard => .inl ?_, pending⟩
        exact (signalled unheard).resolve_right (fun reading => by cases reading)
      · cases taken
  | load => exact load_followed followed taken
  | convert => exact convert_followed followed taken
  | apply => exact apply_followed followed taken
  | server action =>
      cases action with
      | reload users => cases taken
      | listen | accept | authorize =>
          obtain ⟨after, moved, rfl⟩ := Option.map_eq_some_iff.mp taken
          exact server_followed followed after (server_kept st.server after _ moved (by simp))

theorem new_server_users (server : ServerRun) (made : ServerRun.newServer cfg = .ok server) : server.inForce = cfg.users := by
  obtain ⟨_, _, built⟩ := Outcomes.bind_ok made
  split_ifs at built with populated
  · cases outcome : UserDB.newUserDB cfg.users with
    | error problem => simp [outcome, Except.mapError, Except.map] at built
    | ok db =>
        simp only [outcome, Except.mapError, Except.map, Except.ok.injEq] at built
        exact built ▸ rfl
  · cases built
    rfl

theorem start_followed (disk : FileText) (server : ServerRun) (made : ServerRun.newServer cfg = .ok server) :
    (start path disk server).Followed go yaml path cfg.users := by
  refine ⟨(ServerRun.new_server_idle cfg server made).2.2.2, .inl (new_server_users server made), fun same => Bool.noConfusion same,
    fun unheard => Bool.noConfusion unheard, ?_⟩
  simp only [Pending, start]
  split_ifs <;> simp

theorem own_enabled (running : st.point ≠ .returned) (busy : ¬ (st.point = .waiting ∧ st.hup = false)) :
    ∃ action next, Own action ∧ step go yaml path cfg st action = some next := by
  cases point : st.point with
  | waiting =>
      have signalled : st.hup = true := by simpa [point] using busy
      exact ⟨.take, { st with hup := false, point := .loading }, trivial, by simp [step, point, signalled]⟩
  | loading =>
      have enabled : ∃ next, st.load yaml path = some next := by
        simp only [load, point]
        cases loadFile yaml path st.disk <;> exact ⟨_, rfl⟩
      exact ⟨.load, enabled.choose, trivial, enabled.choose_spec⟩
  | converting fc =>
      have enabled : ∃ next, st.convert go = some next := by
        simp only [convert, point]
        cases fc.toUsers go <;> exact ⟨_, rfl⟩
      exact ⟨.convert, enabled.choose, trivial, enabled.choose_spec⟩
  | applying users =>
      have enabled : ∃ next, st.apply = some next := by
        simp only [apply, point]
        cases st.server.reloadUsers users <;> exact ⟨_, rfl⟩
      exact ⟨.apply, enabled.choose, trivial, enabled.choose_spec⟩
  | returned => exact absurd point running

theorem own_effect (action : HangupAction) (own : Own action) (taken : step go yaml path cfg st action = some next) :
    next.stepsLeft < st.stepsLeft ∧ next.point ≠ .returned ∧ next.disk = st.disk ∧ next.unedited = st.unedited := by
  cases action with
  | take =>
      simp only [step] at taken
      split at taken
      · rename_i point
        split_ifs at taken with signalled
        cases taken
        simp [stepsLeft, point, signalled]
      · cases taken
  | load =>
      simp only [step, load] at taken
      split at taken
      · rename_i point
        split at taken <;> cases taken <;> simp [stepsLeft, setPoint, point]
      · cases taken
  | convert =>
      simp only [step, convert] at taken
      split at taken
      · rename_i fc point
        split at taken <;> cases taken <;> simp [stepsLeft, setPoint, point]
      · cases taken
  | apply =>
      simp only [step, apply] at taken
      split at taken
      · rename_i users point
        split at taken <;> cases taken <;> simp [stepsLeft, setPoint, point]
      · cases taken
  | edit | signal | cancel | leave | server => cases own

theorem followed_settled (followed : st.Followed go yaml path initial) (resting : st.point = .waiting) (quiet : st.hup = false)
    (unedited : st.unedited = true) (users : List User) (given : usersOf go yaml path st.disk = some users) :
    st.server.inForce = users := by
  have heard : st.heard = true := by
    by_contra unheard
    rcases followed.signalled (Bool.not_eq_true _ ▸ unheard) with waiting | reading
    · rw [quiet] at waiting
      cases waiting
    · rw [resting] at reading
      cases reading
  have pending := followed.pending
  simp only [Pending, resting] at pending
  exact pending st.disk users (followed.latest unedited heard) given

theorem own_settles (followed : st.Followed go yaml path initial) (running : st.point ≠ .returned) :
    ∃ next, Runs.Reach (step go yaml path cfg) (fun _ action => Own action) st next ∧ next.point = .waiting ∧
      next.hup = false ∧ next.disk = st.disk ∧ next.unedited = st.unedited ∧ next.Followed go yaml path initial := by
  have progress : ∀ now : HangupState,
      now.Followed go yaml path initial ∧ now.point ≠ .returned ∧ now.disk = st.disk ∧ now.unedited = st.unedited →
      ¬ (now.point = .waiting ∧ now.hup = false) → ∃ action next, Own action ∧ step go yaml path cfg now action = some next ∧
        (next.Followed go yaml path initial ∧ next.point ≠ .returned ∧ next.disk = st.disk ∧ next.unedited = st.unedited) ∧
        next.stepsLeft < now.stepsLeft := by
    rintro now ⟨good, alive, disk, unedited⟩ busy
    obtain ⟨action, next, own, taken⟩ := @own_enabled go yaml path cfg now alive busy
    obtain ⟨nearer, living, same, still⟩ := own_effect action own taken
    have kept := followed_preserved now action next good trivial taken
    exact ⟨action, next, own, taken, ⟨kept, living, same.trans disk, still.trans unedited⟩, nearer⟩
  obtain ⟨next, reached, ⟨kept, _, disk, unedited⟩, resting, quiet⟩ :=
    Runs.reach_settles stepsLeft _ progress st ⟨followed, running, rfl, rfl⟩
  exact ⟨next, reached, resting, quiet, disk, unedited, kept⟩

theorem current_authorizes (followed : st.Followed go yaml path initial) (multi : cfg.multiClient = true) (key : Bytes)
    (full : key.length = pubKeyLen) :
    ∃ verdict, (st.server.current cfg).admits cfg.peerPublicKey key = some verdict ∧
      (verdict = true ↔ ServerRun.Authorizes cfg.peerPublicKey st.server.inForce key) := by
  have held := ServerRun.holds_authorizes st.server.userDB st.server.inForce cfg.peerPublicKey key followed.holder full
  exact ⟨_, by rw [ServerRun.current, if_pos multi, Snapshot.admits], held⟩

end Steps

theorem hangup_settles (initial : ServerRun) (made : ServerRun.newServer cfg = .ok initial) (disk : FileText)
    (st : HangupState) (reached : Runs.Reach (step go yaml path cfg) (fun _ _ => True) (start path disk initial) st) :
    (st.server.inForce = cfg.users ∨ ∃ text ∈ st.loads, usersOf go yaml path text = some st.server.inForce) ∧
    (cfg.multiClient = true → ∀ key : Bytes, key.length = pubKeyLen →
      ∃ verdict, (st.server.current cfg).admits cfg.peerPublicKey key = some verdict ∧
        (verdict = true ↔ ServerRun.Authorizes cfg.peerPublicKey st.server.inForce key)) ∧
    (st.unedited = true → ∀ users, usersOf go yaml path st.disk = some users →
      (st.point = .waiting → st.hup = false → st.server.inForce = users) ∧
      (st.point ≠ .returned → ∃ next, Runs.Reach (step go yaml path cfg) (fun _ action => Own action) st next ∧
        next.point = .waiting ∧ next.hup = false ∧ next.server.inForce = users)) := by
  have followed := Runs.reach_invariant followed_preserved reached (start_followed disk initial made)
  refine ⟨followed.origin, fun multi key full => current_authorizes followed multi key full, fun unedited users given => ⟨?_, ?_⟩⟩
  · intro resting quiet
    exact followed_settled followed resting quiet unedited users given
  · intro running
    obtain ⟨next, own, resting, quiet, disk, still, kept⟩ := own_settles followed running
    refine ⟨next, own, resting, quiet, ?_⟩
    exact followed_settled kept resting quiet (still.trans unedited) users (disk ▸ given)

end HangupState

def hangupLib : GoLib where
  quote text := "\"" ++ text ++ "\""
  decodeBase64 text := if text = "u7u7" then some benUser.publicKey else none
  decodeHex _ := .error "encoding/hex: odd length hex string"
  parseAddr _ := .error "unable to parse IP"
  parseSubnet _ := .error "no '/'"
  addrText _ := ""
  subnetText _ := ""

def hangupYaml : YamlDecoder := fun text =>
  if text = "ben" then .ok { FileConfig.blank with users := [⟨"ben", "u7u7", 0, []⟩] } else .error "yaml: unexpected end"

theorem hangup_settles_ben :
    ∃ initial st next, ServerRun.newServer pairConfig = .ok initial ∧
      Runs.Reach (HangupState.step hangupLib hangupYaml "ph.yaml" pairConfig) (fun _ _ => True)
        (HangupState.start "ph.yaml" (.ok "") initial) st ∧ st.server.inForce = [annUser, benUser] ∧
      Runs.Reach (HangupState.step hangupLib hangupYaml "ph.yaml" pairConfig) (fun _ action => HangupState.Own action) st next ∧
      next.hup = false ∧ next.server.inForce = [benUser] := by
  have observed : (((ServerRun.newServer pairConfig).toOption.bind fun initial =>
      Runs.execute (HangupState.step hangupLib hangupYaml "ph.yaml" pairConfig) (fun _ _ => True)
        (HangupState.start "ph.yaml" (.ok "") initial)
        [.server .listen, .signal, .take, .edit (.ok "be"), .load, .edit (.ok "ben"), .signal, .take, .signal, .load]).map fun st =>
          (st.unedited, st.stepsLeft, st.server.inForce, HangupState.usersOf hangupLib hangupYaml "ph.yaml" st.disk)) =
      some (true, 6, [annUser, benUser], some [benUser]) := by
    decide +kernel
  obtain ⟨st, completed, view⟩ := Option.map_eq_some_iff.mp observed
  obtain ⟨initial, made, executed⟩ := Option.bind_eq_some_iff.mp completed
  simp only [Prod.mk.injEq] at view
  obtain ⟨unedited, left, before, given⟩ := view
  have running : st.point ≠ .returned := by
    intro point
    cases signalled : st.hup <;> simp [HangupState.stepsLeft, point, signalled] at left
  have built := Outcomes.to_option_some made
  have reached := Runs.execute_reach _ _ _ executed
  obtain ⟨_, _, followed⟩ := HangupState.hangup_settles hangupLib hangupYaml "ph.yaml" pairConfig initial built (.ok "") st reached
  obtain ⟨next, own, _, quiet, after⟩ := (followed unedited [benUser] given).2 running
  exact ⟨initial, st, next, built, reached, before, own, quiet, after⟩

end Packethose
