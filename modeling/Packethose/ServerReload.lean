import Packethose.Lib.Outcomes
import Packethose.SessionPools

set_option autoImplicit false

namespace Packethose

inductive Snapshot where
  | pending
  | unkeyed
  | taken (users : Option UserDB)

def Snapshot.isPending : Snapshot → Bool
  | .pending => true
  | _ => false

def Snapshot.admits (peerPub key : Bytes) : Snapshot → Option Bool
  | .taken users => some (serverAuthorizer users peerPub key).isOk
  | _ => none

structure AcceptedConn where
  listed : List User
  snapshot : Snapshot

-- Server and what Server.Run keeps: the holder, the authorizer of the
-- single-client accept loop once Run has come that far, and the connections
-- accepted so far. inForce, builtFrom and listed are histories of user lists.
structure ServerRun where
  userDB : Option UserDB
  listening : Bool
  authorize : Snapshot
  conns : List AcceptedConn
  inForce : List User
  builtFrom : List User

inductive ServerError where
  | config (problem : ConfigError)
  | users (problem : UserError)
deriving DecidableEq, Repr

inductive ServerAction where
  | reload (users : List User)
  | listen
  | accept
  | authorize (conn : Nat)
deriving DecidableEq

def ServerConfig.multiClient (c : ServerConfig) : Bool := c.subnet.isValid || c.subnet6.isValid

namespace ServerRun

def newServer (cfg : ServerConfig) : Except ServerError ServerRun :=
  (cfg.validate.mapError ServerError.config).bind fun _ =>
    if cfg.users.length > 0 then
      ((UserDB.newUserDB cfg.users).mapError ServerError.users).map fun db =>
        ⟨some db, false, .pending, [], cfg.users, []⟩
    else .ok ⟨none, false, .pending, [], cfg.users, []⟩

def reloadUsers (s : ServerRun) (users : List User) : Except UserError ServerRun :=
  (UserDB.newUserDB users).map fun db => { s with userDB := some db, inForce := users }

def listen (cfg : ServerConfig) (s : ServerRun) : ServerRun :=
  { s with
    listening := true
    authorize :=
      if cfg.multiClient then .pending
      else if cfg.keyed then .taken s.userDB
      else .unkeyed
    builtFrom := s.inForce }

def accept (s : ServerRun) : ServerRun := { s with conns := s.conns ++ [⟨s.inForce, .pending⟩] }

def current (cfg : ServerConfig) (s : ServerRun) : Snapshot :=
  if cfg.multiClient then .taken s.userDB else s.authorize

def build (cfg : ServerConfig) (s : ServerRun) (conn : Nat) : ServerRun :=
  { s with conns := s.conns.modify conn fun entry => { entry with snapshot := s.current cfg } }

def step (cfg : ServerConfig) (s : ServerRun) : ServerAction → Option ServerRun
  | .reload users =>
      match s.reloadUsers users with
      | .ok next => some next
      | .error _ => some s
  | .listen => if s.listening then none else some (s.listen cfg)
  | .accept => if s.listening then some s.accept else none
  | .authorize conn =>
      match s.conns[conn]? with
      | some ⟨_, .pending⟩ => some (s.build cfg conn)
      | _ => none

inductive Change (cfg : ServerConfig) (s : ServerRun) : ServerAction → ServerRun → Prop where
  | reloaded (users : List User) (db : UserDB) (made : UserDB.newUserDB users = .ok db) :
      Change cfg s (.reload users) { s with userDB := some db, inForce := users }
  | refused (users : List User) : Change cfg s (.reload users) s
  | listened (quiet : s.listening = false) : Change cfg s .listen (s.listen cfg)
  | accepted (running : s.listening = true) : Change cfg s .accept s.accept
  | built (conn : Nat) (listed : List User) (found : s.conns[conn]? = some ⟨listed, .pending⟩) :
      Change cfg s (.authorize conn) (s.build cfg conn)

theorem step_change (cfg : ServerConfig) (s next : ServerRun) (action : ServerAction) (taken : s.step cfg action = some next) :
    Change cfg s action next := by
  cases action with
  | reload users =>
      simp only [step, reloadUsers] at taken
      cases made : UserDB.newUserDB users with
      | ok db =>
          simp only [made, Except.map, Option.some.injEq] at taken
          exact taken ▸ .reloaded users db made
      | error problem =>
          simp only [made, Except.map, Option.some.injEq] at taken
          exact taken ▸ .refused users
  | listen =>
      simp only [step] at taken
      split_ifs at taken with running
      exact Option.some.inj taken ▸ .listened (Bool.not_eq_true _ ▸ running)
  | accept =>
      simp only [step] at taken
      split_ifs at taken with running
      exact Option.some.inj taken ▸ .accepted running
  | authorize conn =>
      simp only [step] at taken
      split at taken
      · rename_i listed found
        exact Option.some.inj taken ▸ .built conn listed found
      · cases taken

theorem build_entries (cfg : ServerConfig) (s : ServerRun) (conn : Nat) (listed : List User)
    (found : s.conns[conn]? = some ⟨listed, .pending⟩) (entry : AcceptedConn) (member : entry ∈ (s.build cfg conn).conns) :
    entry ∈ s.conns ∨ entry = ⟨listed, s.current cfg⟩ := by
  obtain ⟨other, stored⟩ := List.mem_iff_getElem?.mp member
  simp only [ServerRun.build, List.getElem?_modify] at stored
  obtain ⟨old, before, changed⟩ := Option.map_eq_some_iff.mp stored
  split_ifs at changed with here
  · subst here
    obtain rfl := Option.some.inj (before.symm.trans found)
    exact .inr changed.symm
  · exact .inl (changed ▸ List.mem_of_getElem? before)

def Authorizes (peerPub : Bytes) (users : List User) (key : Bytes) : Prop :=
  (∃ u ∈ users, u.publicKey = key) ∨ (users = [] ∧ key = peerPub)

def SameKeys (first second : List User) : Prop :=
  (∀ u ∈ first, ∃ v ∈ second, v.publicKey = u.publicKey) ∧ ∀ v ∈ second, ∃ u ∈ first, u.publicKey = v.publicKey

-- Reloads the server cannot miss: in multi-client mode those made while no
-- accepted connection has still to build its authorizer, in single-client
-- mode those made before Run has built its own and those that change no key.
def Heeded (cfg : ServerConfig) (s : ServerRun) : ServerAction → Prop
  | .reload users =>
      if cfg.multiClient then ∀ entry ∈ s.conns, entry.snapshot.isPending = false
      else s.listening = false ∨ SameKeys s.builtFrom users
  | _ => True

instance (cfg : ServerConfig) (s : ServerRun) (action : ServerAction) : Decidable (Heeded cfg s action) := by
  unfold Heeded SameKeys
  split <;> infer_instance

def Holds (users : Option UserDB) (list : List User) : Prop :=
  (users = none ∧ list = []) ∨ ∃ db, users = some db ∧ UserDB.newUserDB list = .ok db

theorem same_keys_authorize (peerPub : Bytes) (first second : List User) (same : SameKeys first second) (key : Bytes) :
    Authorizes peerPub first key ↔ Authorizes peerPub second key := by
  obtain ⟨forth, back⟩ := same
  have keys : (∃ u ∈ first, u.publicKey = key) ↔ ∃ v ∈ second, v.publicKey = key := by
    constructor
    · rintro ⟨u, member, rfl⟩
      exact forth u member
    · rintro ⟨v, member, rfl⟩
      exact back v member
  have empty : first = [] ↔ second = [] := by
    cases first with
    | nil =>
        cases second with
        | nil => simp
        | cons v rest =>
            obtain ⟨u, member, _⟩ := back v (by simp)
            cases member
    | cons u rest =>
        cases second with
        | nil =>
            obtain ⟨v, member, _⟩ := forth u (by simp)
            cases member
        | cons v others => simp
  rw [Authorizes, Authorizes, keys, empty]

theorem peer_authorizes (peerPub key : Bytes) (full : key.length = pubKeyLen) :
    (peerPub.length > 0 ∧ key = peerPub) ↔ Authorizes peerPub [] key := by
  simp only [Authorizes, List.not_mem_nil, false_and, exists_false, true_and, false_or]
  refine ⟨fun both => both.2, fun same => ⟨?_, same⟩⟩
  rw [← same, full]
  decide

theorem holds_authorizes (users : Option UserDB) (list : List User) (peerPub key : Bytes) (held : Holds users list)
    (full : key.length = pubKeyLen) :
    (serverAuthorizer users peerPub key).isOk = true ↔ Authorizes peerPub list key := by
  have peer := peer_authorizes peerPub key full
  rcases held with ⟨rfl, rfl⟩ | ⟨db, rfl, made⟩
  · rw [serverAuthorizer, ← peer]
    split_ifs with known <;> simp [Except.isOk, Except.toBool, known]
  · have size := UserDB.new_user_db_empty list db made
    rw [serverAuthorizer]
    split_ifs with empty known
    · rw [size.mp empty, ← peer]
      simp [Except.isOk, Except.toBool, known]
    · rw [size.mp empty, ← peer]
      simp [Except.isOk, Except.toBool, known]
    · have populated : list ≠ [] := fun none => empty (size.mpr none)
      have keys := UserDB.new_user_db_keys list db made key
      simp only [Authorizes, populated, false_and, or_false]
      cases found : db.lookupByKey key with
      | none =>
          simp only [Except.isOk, Except.toBool, Bool.false_eq_true, false_iff, not_exists]
          intro u both
          rw [(keys u).mpr both] at found
          cases found
      | some u => exact ⟨fun _ => ⟨u, (keys u).mp found⟩, fun _ => rfl⟩

def source (cfg : ServerConfig) (s : ServerRun) : List User := if cfg.multiClient then s.inForce else s.builtFrom

def Alike (peerPub : Bytes) (first second : List User) : Prop :=
  ∀ key, Authorizes peerPub first key ↔ Authorizes peerPub second key

structure Governed (cfg : ServerConfig) (s : ServerRun) : Prop where
  holder : Holds s.userDB s.inForce
  idle : s.listening = false → s.conns = []
  source : s.listening = true → ∀ users, s.current cfg = .taken users → Holds users (s.source cfg)
  alike : s.listening = true → Alike cfg.peerPublicKey s.inForce (s.source cfg)
  pending : ∀ entry ∈ s.conns, entry.snapshot = .pending → Alike cfg.peerPublicKey entry.listed (s.source cfg)
  taken : ∀ entry ∈ s.conns, ∀ users, entry.snapshot = .taken users → ∀ key, key.length = pubKeyLen →
    ((serverAuthorizer users cfg.peerPublicKey key).isOk = true ↔ Authorizes cfg.peerPublicKey entry.listed key)

structure Keyed (cfg : ServerConfig) (s : ServerRun) : Prop where
  current : s.current cfg ≠ .unkeyed
  conns : ∀ entry ∈ s.conns, entry.snapshot ≠ .unkeyed

theorem new_server_idle (cfg : ServerConfig) (s : ServerRun) (made : newServer cfg = .ok s) :
    s.authorize = .pending ∧ s.conns = [] ∧ s.listening = false ∧ Holds s.userDB s.inForce := by
  obtain ⟨_, _, built⟩ := Outcomes.bind_ok made
  split_ifs at built with populated
  · cases outcome : UserDB.newUserDB cfg.users with
    | error problem => simp [outcome, Except.mapError, Except.map] at built
    | ok db =>
        simp only [outcome, Except.mapError, Except.map, Except.ok.injEq] at built
        subst built
        exact ⟨rfl, rfl, rfl, .inr ⟨db, rfl, outcome⟩⟩
  · cases built
    exact ⟨rfl, rfl, rfl, .inl ⟨rfl, by simpa using populated⟩⟩

theorem new_server_governed (cfg : ServerConfig) (s : ServerRun) (made : newServer cfg = .ok s) : Governed cfg s := by
  obtain ⟨_, empty, quiet, holder⟩ := new_server_idle cfg s made
  refine ⟨holder, fun _ => empty, ?_, ?_, ?_, ?_⟩ <;> simp [quiet, empty]

theorem reload_governed (cfg : ServerConfig) (s : ServerRun) (users : List User) (db : UserDB)
    (made : UserDB.newUserDB users = .ok db) (heeded : Heeded cfg s (.reload users)) (good : Governed cfg s) :
    Governed cfg { s with userDB := some db, inForce := users } := by
  have holder : Holds (some db) users := .inr ⟨db, rfl, made⟩
  cases multi : cfg.multiClient with
  | true =>
      simp only [Heeded, multi, if_true] at heeded
      refine ⟨holder, good.idle, ?_, ?_, ?_, good.taken⟩
      · intro _ current same
        simp only [ServerRun.current, multi, if_true, Snapshot.taken.injEq] at same
        simpa [ServerRun.source, multi, ← same] using holder
      · intro _ key
        simp [ServerRun.source, multi]
      · intro entry member waiting
        have begun := heeded entry member
        simp [waiting, Snapshot.isPending] at begun
  | false =>
      have kept : ServerRun.source cfg { s with userDB := some db, inForce := users } = s.source cfg := by
        simp [ServerRun.source, multi]
      simp only [Heeded, multi, Bool.false_eq_true, if_false] at heeded
      refine ⟨holder, good.idle, ?_, ?_, ?_, good.taken⟩
      · intro running current same
        rw [kept]
        apply good.source running current
        simpa [ServerRun.current, multi] using same
      · intro running key
        rcases heeded with quiet | same
        · exact absurd running (by simp [quiet])
        · simpa [ServerRun.source, multi] using (same_keys_authorize cfg.peerPublicKey s.builtFrom users same key).symm
      · rw [kept]
        exact good.pending

theorem listen_governed (cfg : ServerConfig) (s : ServerRun) (quiet : s.listening = false) (good : Governed cfg s) :
    Governed cfg (s.listen cfg) := by
  have empty : (s.listen cfg).conns = [] := good.idle quiet
  have same : (s.listen cfg).source cfg = s.inForce := by simp [ServerRun.source, ServerRun.listen]
  refine ⟨good.holder, fun _ => empty, ?_, ?_, ?_, ?_⟩
  · intro _ users current
    have held : s.userDB = users := by
      simp only [ServerRun.current, ServerRun.listen] at current
      split_ifs at current with multi keyed
      · exact Snapshot.taken.inj current
      · exact Snapshot.taken.inj current
    rw [same, ← held]
    exact good.holder
  · intro _ key
    rw [same]
    rfl
  · simp [empty]
  · simp [empty]

theorem accept_governed (cfg : ServerConfig) (s : ServerRun) (running : s.listening = true) (good : Governed cfg s) :
    Governed cfg s.accept := by
  refine ⟨good.holder, fun quiet => absurd running (by simp_all [ServerRun.accept]), good.source, good.alike, ?_, ?_⟩
  · intro entry member waiting
    rcases List.mem_append.mp member with earlier | last
    · exact good.pending entry earlier waiting
    · obtain rfl := List.mem_singleton.mp last
      exact good.alike running
  · intro entry member users taken
    rcases List.mem_append.mp member with earlier | last
    · exact good.taken entry earlier users taken
    · obtain rfl := List.mem_singleton.mp last
      cases taken

theorem build_governed (cfg : ServerConfig) (s : ServerRun) (conn : Nat) (listed : List User)
    (found : s.conns[conn]? = some ⟨listed, .pending⟩) (good : Governed cfg s) : Governed cfg (s.build cfg conn) := by
  have running : s.listening = true := by
    by_contra quiet
    rw [good.idle (Bool.not_eq_true _ ▸ quiet)] at found
    cases found
  have waited := good.pending ⟨listed, .pending⟩ (List.mem_of_getElem? found) rfl
  refine ⟨good.holder, fun quiet => absurd running (by simp_all [ServerRun.build]), good.source, good.alike, ?_, ?_⟩
  · intro entry member waiting
    rcases build_entries cfg s conn listed found entry member with earlier | rfl
    · exact good.pending entry earlier waiting
    · exact waited
  · intro entry member users taken key full
    rcases build_entries cfg s conn listed found entry member with earlier | rfl
    · exact good.taken entry earlier users taken key full
    · rw [holds_authorizes users (s.source cfg) cfg.peerPublicKey key (good.source running users taken) full]
      exact (waited key).symm

theorem governed_step (cfg : ServerConfig) : Runs.Preserved (step cfg) (Heeded cfg) (Governed cfg) := by
  intro s action next good heeded taken
  cases step_change cfg s next action taken with
  | reloaded users db made => exact reload_governed cfg s users db made heeded good
  | refused users => exact good
  | listened quiet => exact listen_governed cfg s quiet good
  | accepted running => exact accept_governed cfg s running good
  | built conn listed found => exact build_governed cfg s conn listed found good

theorem new_server_keyed (cfg : ServerConfig) (s : ServerRun) (made : newServer cfg = .ok s) : Keyed cfg s := by
  obtain ⟨quiet, empty, _⟩ := new_server_idle cfg s made
  constructor
  · unfold ServerRun.current
    split_ifs
    · simp
    · simp [quiet]
  · simp [empty]

theorem keyed_step (cfg : ServerConfig) (mode : cfg.multiClient = true ∨ cfg.keyed = true) :
    Runs.Preserved (step cfg) (Heeded cfg) (Keyed cfg) := by
  intro s action next good heeded taken
  cases step_change cfg s next action taken with
  | reloaded users db made =>
      refine ⟨?_, good.conns⟩
      have kept := good.current
      unfold ServerRun.current at kept ⊢
      split_ifs at kept ⊢
      · simp
      · exact kept
  | refused users => exact good
  | listened quiet =>
      refine ⟨?_, good.conns⟩
      unfold ServerRun.current ServerRun.listen
      rcases mode with multi | keyed
      · simp [multi]
      · split_ifs <;> simp
  | accepted running =>
      refine ⟨good.current, fun entry member => ?_⟩
      rcases List.mem_append.mp member with earlier | last
      · exact good.conns entry earlier
      · obtain rfl := List.mem_singleton.mp last
        simp
  | built conn listed found =>
      refine ⟨good.current, fun entry member => ?_⟩
      rcases build_entries cfg s conn listed found entry member with earlier | rfl
      · exact good.conns entry earlier
      · exact good.current

theorem reload_governs (cfg : ServerConfig) (mode : cfg.multiClient = true ∨ cfg.keyed = true) (initial : ServerRun)
    (made : newServer cfg = .ok initial) (trace : List (ServerRun × ServerAction)) (final s : ServerRun)
    (run : Runs.Run (step cfg) initial trace final) (heeded : Runs.Allowed (Heeded cfg) trace)
    (visited : Runs.Visited trace final s) (entry : AcceptedConn) (member : entry ∈ s.conns)
    (begun : entry.snapshot.isPending = false) (key : Bytes) (full : key.length = pubKeyLen) :
    ∃ verdict, entry.snapshot.admits cfg.peerPublicKey key = some verdict ∧
      (verdict = true ↔ Authorizes cfg.peerPublicKey entry.listed key) := by
  have governed := Runs.visited_invariant (governed_step cfg) run heeded (new_server_governed cfg initial made) visited
  have keyed := Runs.visited_invariant (keyed_step cfg mode) run heeded (new_server_keyed cfg initial made) visited
  cases snapshot : entry.snapshot with
  | pending => simp [snapshot, Snapshot.isPending] at begun
  | unkeyed => exact absurd snapshot (keyed.conns entry member)
  | taken users => exact ⟨_, rfl, governed.taken entry member users snapshot key full⟩

end ServerRun

theorem reload_governs_ben :
    ∃ initial s entry, ServerRun.newServer pairConfig = .ok initial ∧
      Runs.Reach (ServerRun.step pairConfig) (ServerRun.Heeded pairConfig) initial s ∧ s.conns[1]? = some entry ∧
      entry.listed = [benUser] ∧ entry.snapshot.admits pairConfig.peerPublicKey benUser.publicKey = some true := by
  have observed : (((ServerRun.newServer pairConfig).toOption.bind fun initial =>
      Runs.execute (ServerRun.step pairConfig) (ServerRun.Heeded pairConfig) initial
        [.listen, .accept, .authorize 0, .reload [benUser], .accept, .authorize 1]).bind fun s =>
          (s.conns[1]?).map fun entry => (entry.listed, entry.snapshot.isPending)) = some ([benUser], false) := by
    decide +kernel
  obtain ⟨s, completed, view⟩ := Option.bind_eq_some_iff.mp observed
  obtain ⟨initial, made, executed⟩ := Option.bind_eq_some_iff.mp completed
  obtain ⟨entry, found, same⟩ := Option.map_eq_some_iff.mp view
  obtain ⟨listed, begun⟩ := Prod.mk.inj same
  obtain ⟨trace, run, heeded⟩ := Runs.execute_reach _ _ _ executed
  obtain ⟨verdict, admits, governed⟩ := ServerRun.reload_governs pairConfig (.inl (by decide)) initial
    (Outcomes.to_option_some made) trace s s run heeded (.inl rfl) entry (List.mem_of_getElem? found) begun benUser.publicKey
    (by decide)
  have passed : verdict = true := governed.mpr (listed ▸ .inl ⟨benUser, by simp, rfl⟩)
  exact ⟨initial, s, entry, Outcomes.to_option_some made, ⟨trace, run, heeded⟩, found, listed, passed ▸ admits⟩

def soloConfig : ServerConfig := { pairConfig with lanes := 1, queues := 1, users := [annUser], subnet := .invalid }

-- The single-client loop keeps the authorizer it began with: after a reload to
-- a list of Ben alone, Ann is let in and Ben is not.
theorem reload_unheeded :
    ∃ initial s entry, soloConfig.keyed = true ∧ ServerRun.newServer soloConfig = .ok initial ∧
      Runs.Reach (ServerRun.step soloConfig) (fun _ _ => True) initial s ∧ s.conns[0]? = some entry ∧
      entry.listed = [benUser] ∧ entry.snapshot.admits soloConfig.peerPublicKey benUser.publicKey = some false ∧
      entry.snapshot.admits soloConfig.peerPublicKey annUser.publicKey = some true := by
  have observed : (((ServerRun.newServer soloConfig).toOption.bind fun initial =>
      Runs.execute (ServerRun.step soloConfig) (fun _ _ => True) initial
        [.listen, .reload [benUser], .accept, .authorize 0]).bind fun s =>
          (s.conns[0]?).map fun entry => (entry.listed, entry.snapshot.admits soloConfig.peerPublicKey benUser.publicKey,
            entry.snapshot.admits soloConfig.peerPublicKey annUser.publicKey)) =
      some ([benUser], some false, some true) := by
    decide +kernel
  obtain ⟨s, completed, view⟩ := Option.bind_eq_some_iff.mp observed
  obtain ⟨initial, made, executed⟩ := Option.bind_eq_some_iff.mp completed
  obtain ⟨entry, found, same⟩ := Option.map_eq_some_iff.mp view
  simp only [Prod.mk.injEq] at same
  exact ⟨initial, s, entry, by decide, Outcomes.to_option_some made, Runs.execute_reach _ _ _ executed, found, same⟩

end Packethose
