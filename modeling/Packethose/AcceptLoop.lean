import Packethose.Lib.Runs
import Packethose.Authorization
import Packethose.HandshakeAgreement
import Packethose.Isolation
import Packethose.ServerReload

set_option autoImplicit false

namespace Packethose

structure ReadyConn where
  input : Bytes
  ident : KeyedIdentity
deriving DecidableEq

def KeyedIdentity.zero : KeyedIdentity where
  clientID := zeroClientID
  pubKey := []
  laneCount := 0
  userName := ""
  assigned4 := .zero
  prefix4 := 0
  assigned6 := .zero
  prefix6 := 0
  keys := ⟨false, cipherNone, [], []⟩
  usoEnabled := false
  peer4 := .zero
  peer6 := .zero

structure AcceptLoop where
  allow : String
  static : DHKey
  cipher : Cipher
  localUSO : Bool
  authorize : Option Authorizer

-- One accepted connection. underLimit is what the limiter answers for its
-- address, and delivered is false when the context ends before pool.ready
-- takes it.
structure Incoming where
  remoteIP : String
  underLimit : Bool
  input : Bytes
  ephemeral : Bytes
  draw : Option EnvelopeDraw
  written : Bool
  delivered : Bool

inductive AcceptEvent where
  | failed (cancelled slept : Bool)
  | accepted (c : Incoming)

structure AcceptState where
  accepts : Nat
  rateLimited : Nat
  handshakeFail : Nat
  handshakeOK : Nat
  ready : List ReadyConn
deriving DecidableEq

namespace AcceptState

def start : AcceptState := ⟨0, 0, 0, 0, []⟩

def deliver (st : AcceptState) (c : Incoming) (ident : KeyedIdentity) : AcceptState × Bool :=
  if c.delivered then ({ st with ready := st.ready ++ [⟨c.input, ident⟩] }, true) else (st, false)

end AcceptState

namespace AcceptLoop

def acceptor (loop : AcceptLoop) (c : Incoming) (authorize : Authorizer) : Acceptor where
  static := loop.static
  cipher := loop.cipher
  localUSO := loop.localUSO
  authorize := authorize
  assignFn := none
  ephemeral := c.ephemeral
  draw := c.draw
  written := c.written

variable (prim : Primitives) (lib : NoiseLib)

def turn (loop : AcceptLoop) (st : AcceptState) : AcceptEvent → AcceptState × Bool
  | .failed cancelled slept => (st, !cancelled && slept)
  | .accepted c =>
      let counted := { st with accepts := st.accepts + 1 }
      if loop.allow ≠ "" ∧ c.remoteIP ≠ loop.allow then (counted, true)
      else if !c.underLimit then ({ counted with rateLimited := counted.rateLimited + 1 }, true)
      else
        match loop.authorize with
        | none => counted.deliver c .zero
        | some authorize =>
            match acceptHandshake prim lib (loop.acceptor c authorize) c.input with
            | .error _ => ({ counted with handshakeFail := counted.handshakeFail + 1 }, true)
            | .ok (ident, _) => { counted with handshakeOK := counted.handshakeOK + 1 }.deliver c ident

def runAcceptLoop (loop : AcceptLoop) (events : List AcceptEvent) : AcceptState :=
  (Runs.loop (loop.turn prim lib) .start events).1

end AcceptLoop

inductive ServeError where
  | run (problem : RunError)
  | staticKey (problem : String)
  | pool4 (problem : PoolError)
  | pool6 (problem : PoolError)

def ServeError.message : ServeError → String
  | .run problem => problem.message
  | .staticKey problem => "packethose server: static key: " ++ problem
  | .pool4 problem => "packethose server: ipPool v4: " ++ problem.text
  | .pool6 problem => "packethose server: ipPool v6: " ++ problem.text

inductive Serving where
  | multiClient (device : String) (static : DHKey) (pool4 pool6 : Option IPPool)
  | acceptLoop (loop : AcceptLoop)

structure ServerParts where
  noiseStatic : Bytes → Except String DHKey
  reservations4 : List Addr
  reservations6 : List Addr
  userDB : Option UserDB
  localUSO : Bool

def serveMulti (host : Host) (parts : ServerParts) (cfg : ServerSettings) : Except ServeError Serving :=
  ((parts.noiseStatic cfg.staticPrivateKey).mapError .staticKey).bind fun static =>
    ((cfg.newPool4 parts.reservations4).mapError .pool4).bind fun pool4 =>
      ((cfg.newPool6 parts.reservations6).mapError .pool6).bind fun pool6 =>
        ((openSharedTUN host cfg).mapError .run).map fun device => .multiClient device static pool4 pool6

def serveSingle (parts : ServerParts) (cfg : ServerSettings) : Except ServeError Serving :=
  if cfg.keyed then
    ((parts.noiseStatic cfg.staticPrivateKey).mapError .staticKey).map fun static =>
      .acceptLoop ⟨cfg.allowIP, static, cfg.cipher, parts.localUSO, some (serverAuthorizer parts.userDB cfg.peerPublicKey)⟩
  else .ok (.acceptLoop ⟨cfg.allowIP, ⟨[], []⟩, cfg.cipher, parts.localUSO, none⟩)

def serverRun (host : Host) (parts : ServerParts) (cfg : ServerSettings) : Except ServeError Serving :=
  ((installNFT host cfg).mapError .run).bind fun _ =>
    ((startTPROXY host cfg).mapError .run).bind fun _ =>
      ((host.listen cfg.listen).mapError fun problem => .run (.listen cfg.listen problem)).bind fun _ =>
        if cfg.multiClient then serveMulti host parts cfg else serveSingle parts cfg

def Serving.Vetted (prim : Primitives) (lib : NoiseLib) (env : Env) (parts : ServerParts) (queues : Nat) : Serving → Prop
  | .acceptLoop loop => ∀ events, ∀ conn ∈ (loop.runAcceptLoop prim lib events).ready,
      ∃ authorize acceptor reply, loop.authorize = some authorize ∧ acceptor.authorize = authorize ∧
        acceptHandshake prim lib acceptor conn.input = .ok (conn.ident, reply)
  | .multiClient _ _ pool4 pool6 => ∀ st,
      Runs.Reach (MCState.step env) (fun _ _ => True) (MCState.start pool4 pool6 parts.userDB queues) st →
      ∀ entry ∈ st.conns, ∀ ref, (entry.point = .joining ref ∨ ∃ queue, entry.point = .attached ref queue) →
        ∃ hello, readClientHello env (env.authorizer entry.users) entry.input = .ok hello

theorem FileConfig.overlay_key_given (go : GoLib) (current : Bytes) (text : String) (wrap : KeyError → FileError) (key : Bytes)
    (overlaid : overlayKey go current text wrap = .ok key) : key ≠ [] ↔ current ≠ [] ∨ text ≠ "" := by
  unfold overlayKey at overlaid
  by_cases given : text = ""
  · rw [if_neg (by simp [given])] at overlaid
    cases overlaid
    simp [given]
  · by_cases empty : current = []
    · rw [if_pos (by simp [given, empty])] at overlaid
      simp [parse_key_given go text key given (Outcomes.map_error_ok overlaid), given]
    · rw [if_neg (by simp [empty])] at overlaid
      cases overlaid
      simp [empty]

theorem FileConfig.apply_server_keyed (go : GoLib) (fc : FileConfig) (base cfg : ServerSettings)
    (applied : fc.applyServer go base = .ok cfg) :
    cfg.keyed = true ↔ base.staticPrivateKey ≠ [] ∨ fc.serverKey ≠ "" := by
  obtain ⟨keyed, keys, afterKeys⟩ := Outcomes.bind_ok applied
  obtain ⟨pooled, pools, afterPool⟩ := Outcomes.bind_ok afterKeys
  obtain ⟨full, users, finished⟩ := Outcomes.bind_ok afterPool
  obtain ⟨static, overlaid, afterStatic⟩ := Outcomes.bind_ok keys
  obtain ⟨peer, _, afterPeer⟩ := Outcomes.bind_ok afterStatic
  obtain ⟨ciph, _, rfl⟩ := Outcomes.map_ok afterPeer
  obtain ⟨subnet, _, afterSubnet⟩ := Outcomes.bind_ok pools
  obtain ⟨serverIP, _, afterIP⟩ := Outcomes.bind_ok afterSubnet
  obtain ⟨subnet6, _, afterSubnet6⟩ := Outcomes.bind_ok afterIP
  obtain ⟨serverIP6, _, rfl⟩ := Outcomes.map_ok afterSubnet6
  obtain ⟨listed, _, rfl⟩ := Outcomes.map_ok users
  cases finished
  have given := overlay_key_given go base.staticPrivateKey fc.serverKey .serverKey static overlaid
  rw [← given]
  simp [ServerConfig.keyed, applyForward]

theorem ServerConfig.multi_client_keyed (c : ServerConfig) (accepted : c.validate = .ok ()) (multi : c.multiClient = true) :
    c.keyed = true := by
  unfold validate at accepted
  rw [if_pos (show (c.subnet.isValid || c.subnet6.isValid) = true from multi)] at accepted
  split_ifs at accepted with _ _ keys
  simp only [Bool.or_eq_true, Bool.not_eq_true', not_or, Bool.not_eq_false] at keys
  exact keys.1

namespace AcceptLoop

variable (prim : Primitives) (lib : NoiseLib)

theorem deliver_ready (st : AcceptState) (c : Incoming) (ident : KeyedIdentity) (conn : ReadyConn)
    (member : conn ∈ (st.deliver c ident).1.ready) : conn ∈ st.ready ∨ conn = ⟨c.input, ident⟩ := by
  unfold AcceptState.deliver at member
  split_ifs at member
  · simpa using member
  · exact .inl member

theorem turn_vetted (loop : AcceptLoop) (authorize : Authorizer) (keyed : loop.authorize = some authorize) (st : AcceptState)
    (event : AcceptEvent)
    (vetted : ∀ conn ∈ st.ready, ∃ acceptor reply, Acceptor.authorize acceptor = authorize ∧
      acceptHandshake prim lib acceptor conn.input = .ok (conn.ident, reply)) :
    ∀ conn ∈ (loop.turn prim lib st event).1.ready, ∃ acceptor reply, Acceptor.authorize acceptor = authorize ∧
      acceptHandshake prim lib acceptor conn.input = .ok (conn.ident, reply) := by
  intro conn member
  cases event with
  | failed cancelled slept => exact vetted conn member
  | accepted c =>
      simp only [turn, keyed] at member
      split_ifs at member
      · exact vetted conn member
      · exact vetted conn member
      · split at member
        · exact vetted conn member
        · rename_i ident reply shaken
          rcases deliver_ready _ c ident conn member with earlier | rfl
          · exact vetted conn earlier
          · exact ⟨loop.acceptor c authorize, reply, rfl, shaken⟩

theorem run_accept_loop_vetted (loop : AcceptLoop) (authorize : Authorizer) (keyed : loop.authorize = some authorize)
    (events : List AcceptEvent) : ∀ conn ∈ (loop.runAcceptLoop prim lib events).ready,
      ∃ acceptor reply, Acceptor.authorize acceptor = authorize ∧
        acceptHandshake prim lib acceptor conn.input = .ok (conn.ident, reply) :=
  Runs.loop_invariant events (fun st event _ => turn_vetted prim lib loop authorize keyed st event) .start
    (by simp [AcceptState.start])

def stranger (loop : AcceptLoop) : Incoming := ⟨loop.allow, true, [], [], none, false, true⟩

theorem open_loop_delivers (loop : AcceptLoop) (opened : loop.authorize = none) :
    (loop.runAcceptLoop prim lib [.accepted loop.stranger]).ready = [⟨[], .zero⟩] := by
  simp [runAcceptLoop, Runs.loop, turn, opened, stranger, AcceptState.deliver, AcceptState.start]

end AcceptLoop

theorem multi_client_vetted (env : Env) (pool4 pool6 : Option IPPool) (userDB : Option UserDB) (queues : Nat) (st : MCState)
    (reached : Runs.Reach (MCState.step env) (fun _ _ => True) (MCState.start pool4 pool6 userDB queues) st) (entry : Conn)
    (member : entry ∈ st.conns) (ref : SessionRef)
    (served : entry.point = .joining ref ∨ ∃ queue, entry.point = .attached ref queue) :
    ∃ hello, readClientHello env (env.authorizer entry.users) entry.input = .ok hello := by
  have preserved : Runs.Preserved (MCState.step env) (fun _ _ => True) (MCState.ConnsAgree env) :=
    fun before action after agree _ taken =>
      MCState.effect_conns_agree env before after action (MCState.step_effect env before after action taken) agree
  have agree := Runs.reach_invariant preserved reached (by simp [MCState.ConnsAgree, MCState.start]) entry member
  rcases served with joining | ⟨queue, attached⟩
  · rwa [joining] at agree
  · rwa [attached] at agree

theorem server_run_served (host : Host) (parts : ServerParts) (cfg : ServerSettings) (serving : Serving)
    (ran : serverRun host parts cfg = .ok serving) :
    if cfg.multiClient then ∃ device static pool4 pool6, serving = .multiClient device static pool4 pool6
    else if cfg.keyed then ∃ loop, serving = .acceptLoop loop ∧ loop.authorize = some (serverAuthorizer parts.userDB cfg.peerPublicKey)
    else ∃ loop, serving = .acceptLoop loop ∧ loop.authorize = none := by
  obtain ⟨_, _, afterNFT⟩ := Outcomes.bind_ok ran
  obtain ⟨_, _, afterTPROXY⟩ := Outcomes.bind_ok afterNFT
  obtain ⟨_, _, served⟩ := Outcomes.bind_ok afterTPROXY
  split_ifs at served with multi
  · rw [if_pos multi]
    obtain ⟨static, _, afterKey⟩ := Outcomes.bind_ok served
    obtain ⟨pool4, _, afterPool⟩ := Outcomes.bind_ok afterKey
    obtain ⟨pool6, _, afterPool6⟩ := Outcomes.bind_ok afterPool
    obtain ⟨device, _, rfl⟩ := Outcomes.map_ok afterPool6
    exact ⟨device, static, pool4, pool6, rfl⟩
  · rw [if_neg multi]
    unfold serveSingle at served
    split_ifs at served ⊢ with keyed
    · obtain ⟨static, _, rfl⟩ := Outcomes.map_ok served
      exact ⟨_, rfl, rfl⟩
    · cases served
      exact ⟨_, rfl, rfl⟩

theorem vetted_keyed (host : Host) (parts : ServerParts) (cfg : ServerSettings) (accepted : cfg.validate = .ok ())
    (serving : Serving) (ran : serverRun host parts cfg = .ok serving) (prim : Primitives) (lib : NoiseLib) (env : Env)
    (queues : Nat) : serving.Vetted prim lib env parts queues ↔ cfg.keyed = true := by
  have served := server_run_served host parts cfg serving ran
  split_ifs at served with multi keyed
  · obtain ⟨device, static, pool4, pool6, rfl⟩ := served
    exact ⟨fun _ => cfg.multi_client_keyed accepted multi,
      fun _ st reached => multi_client_vetted env pool4 pool6 parts.userDB queues st reached⟩
  · obtain ⟨loop, rfl, authorizer⟩ := served
    refine ⟨fun _ => keyed, fun _ events conn member => ?_⟩
    obtain ⟨acceptor, reply, same, shaken⟩ := loop.run_accept_loop_vetted prim lib _ authorizer events conn member
    exact ⟨_, acceptor, reply, authorizer, same, shaken⟩
  · obtain ⟨loop, rfl, opened⟩ := served
    refine ⟨fun vetted => ?_, fun key => absurd key keyed⟩
    have delivered := loop.open_loop_delivers prim lib opened
    obtain ⟨authorize, _, _, authorizer, _⟩ := vetted [.accepted loop.stranger] ⟨[], .zero⟩ (by simp [delivered])
    rw [opened] at authorizer
    cases authorizer

-- With a client key or a user configured, nobody is served unvetted exactly
-- when the initial configuration or the file gives the server a key of its own.
theorem authorization_enforced (go : GoLib) (fc : FileConfig) (base cfg : ServerSettings)
    (applied : fc.applyServer go base = .ok cfg) (accepted : cfg.validate = .ok ()) (host : Host) (parts : ServerParts)
    (serving : Serving) (ran : serverRun host parts cfg = .ok serving) (prim : Primitives) (lib : NoiseLib) (env : Env)
    (queues : Nat) :
    ((cfg.peerPublicKey ≠ [] ∨ cfg.users ≠ []) → serving.Vetted prim lib env parts queues) ↔
      ((cfg.peerPublicKey ≠ [] ∨ cfg.users ≠ []) → base.staticPrivateKey ≠ [] ∨ fc.serverKey ≠ "") := by
  rw [← fc.apply_server_keyed go base cfg applied, vetted_keyed host parts cfg accepted serving ran]

def soloFile (serverKey : String) : FileConfig :=
  { isolatedFile "" with
    lanes := 1
    serverKey := serverKey
    pool := ⟨"", "", "", ""⟩
    users := [⟨"ann", "ann's key", 0, []⟩]
    forward := ⟨false, false, false, false, 0, 0, 0, "", ""⟩ }

def soloSettings : ServerSettings :=
  { keyedSettings with queues := 1, staticPrivateKey := [], users := [] }

def soloLib : GoLib :=
  { tunnelLib with decodeBase64 := fun text => if text = "ann's key" then some annUser.publicKey else some (List.replicate 32 1) }

def soloParts : ServerParts := ⟨fun key => .ok ⟨key, key⟩, [], [], none, false⟩

def soloRun (serverKey : String) : Option (ServerSettings × Serving) :=
  ((soloFile serverKey).applyServer soloLib soloSettings).toOption.bind fun cfg =>
    (serverRun tunnelHost soloParts cfg).toOption.map fun serving => (cfg, serving)

theorem solo_run_parts (serverKey : String) (cfg : ServerSettings) (serving : Serving)
    (ran : soloRun serverKey = some (cfg, serving)) :
    (soloFile serverKey).applyServer soloLib soloSettings = .ok cfg ∧ serverRun tunnelHost soloParts cfg = .ok serving := by
  obtain ⟨settings, applied, rest⟩ := Option.bind_eq_some_iff.mp ran
  obtain ⟨served, running, same⟩ := Option.map_eq_some_iff.mp rest
  cases same
  exact ⟨Outcomes.to_option_some applied, Outcomes.to_option_some running⟩

theorem authorization_enforced_solo :
    ∃ cfg serving, (soloFile "server key").applyServer soloLib soloSettings = .ok cfg ∧ cfg.validate = .ok () ∧
      cfg.users = [annUser] ∧ serverRun tunnelHost soloParts cfg = .ok serving ∧
      serving.Vetted clearPrimitives clearNoise pairEnv soloParts 1 := by
  have observed : (soloRun "server key").map (fun run => (run.1.validate.toOption, run.1.users)) = some (some (), [annUser]) := by
    decide +kernel
  obtain ⟨⟨cfg, serving⟩, ran, view⟩ := Option.map_eq_some_iff.mp observed
  obtain ⟨accepted, users⟩ := Prod.mk.inj view
  obtain ⟨applied, running⟩ := solo_run_parts "server key" cfg serving ran
  have enforced := authorization_enforced soloLib (soloFile "server key") soloSettings cfg applied
    (Outcomes.to_option_some accepted) tunnelHost soloParts serving running clearPrimitives clearNoise pairEnv 1
  exact ⟨cfg, serving, applied, Outcomes.to_option_some accepted, users, running,
    enforced.mpr (fun _ => .inr (by decide)) (.inr (by rw [show cfg.users = [annUser] from users]; simp))⟩

theorem authorization_ignored :
    ∃ cfg loop, (soloFile "").applyServer soloLib soloSettings = .ok cfg ∧ cfg.validate = .ok () ∧ cfg.users = [annUser] ∧
      serverRun tunnelHost soloParts cfg = .ok (.acceptLoop loop) ∧
      (loop.runAcceptLoop clearPrimitives clearNoise [.accepted ⟨"203.0.113.9", true, [], [], none, false, true⟩]).ready =
        [⟨[], .zero⟩] := by
  have observed : (soloRun "").map (fun run => (run.1.validate.toOption, run.1.users,
      match run.2 with
      | .acceptLoop loop =>
          (loop.runAcceptLoop clearPrimitives clearNoise [.accepted ⟨"203.0.113.9", true, [], [], none, false, true⟩]).ready
      | _ => [])) = some (some (), [annUser], [⟨[], .zero⟩]) := by
    decide +kernel
  obtain ⟨⟨cfg, serving⟩, ran, view⟩ := Option.map_eq_some_iff.mp observed
  simp only [Prod.mk.injEq] at view
  obtain ⟨accepted, users, ready⟩ := view
  obtain ⟨applied, running⟩ := solo_run_parts "" cfg serving ran
  cases serving with
  | multiClient => cases ready
  | acceptLoop loop => exact ⟨cfg, loop, applied, Outcomes.to_option_some accepted, users, running, ready⟩

end Packethose
