import Packethose.Isolation

set_option autoImplicit false

namespace Packethose

-- The flags of the server command. A flag that is not on the command line is
-- none; --brutal_mbps, --metrics and --config set nothing a file also sets.
structure ServerFlags where
  tun : Option String
  lanes : Option Int
  key : Option String
  peerKey : Option String
  mptcp : Option Bool
  vnetHdr : Option Bool
  encrypt : Option String
  listen : Option String
  allow : Option String
  subnet : Option String
  serverIP : Option String
  subnet6 : Option String
  serverIP6 : Option String
  tunName : Option String

-- The rest of what runServer calls: os.ReadFile, strings.TrimSpace and the
-- machine.
structure Shell where
  go : GoLib
  readFile : String → Except String String
  trimSpace : String → String
  host : Host

inductive FlagError where
  | encrypt (problem : FileError)
  | keyFile (path problem : String)
  | key (problem : KeyError)
  | subnet (problem : String)
  | serverIP (problem : Option String)
  | subnet6 (problem : String)
  | serverIP6 (problem : Option String)
  | config (problem : FileError)
  | openTUN (problem : RunError)

def FlagError.message (go : GoLib) : FlagError → String
  | .encrypt problem => problem.message go
  | .keyFile path problem => "read key file " ++ path ++ ": " ++ problem
  | .key problem => "key: " ++ problem.message
  | .subnet problem => "--subnet: " ++ problem
  | .serverIP problem => "--server-ip: must be a valid IPv4 address: " ++ problem.getD "<nil>"
  | .subnet6 problem => "--subnet6: " ++ problem
  | .serverIP6 problem => "--server-ip6: must be a valid IPv6 address: " ++ problem.getD "<nil>"
  | .config problem => "apply config: " ++ problem.message go
  | .openTUN (.tooFewQueues _) => "open tun: queues must be >= 1"
  | .openTUN (.openQueue _ index problem) => "open tun: open queue " ++ toString index ++ ": " ++ problem
  | .openTUN problem => "open tun: " ++ problem.message

def readKeyArg (sys : Shell) (text : String) : Except FlagError String :=
  match text.toList with
  | '@' :: path => ((sys.readFile (String.ofList path)).mapError (.keyFile (String.ofList path))).map sys.trimSpace
  | _ => .ok text

def flagKey (sys : Shell) (text : String) : Except FlagError Bytes :=
  if text = "" then .ok [] else (readKeyArg sys text).bind fun literal => (parseKey sys.go literal).mapError .key

def flagPool (go : GoLib) (subnet serverIP : String) (family : Addr → Bool) (badSubnet : String → FlagError)
    (badIP : Option String → FlagError) : Except FlagError (Prefix × Addr) :=
  if subnet = "" then .ok (.invalid, .zero)
  else
    ((go.parseSubnet subnet).mapError badSubnet).bind fun pref =>
      match go.parseAddr serverIP with
      | .error problem => .error (badIP (some problem))
      | .ok addr => if family addr then .ok (pref, addr) else .error (badIP none)

namespace ServerFlags

def pool4 (go : GoLib) (flags : ServerFlags) : Except FlagError (Prefix × Addr) :=
  flagPool go (flags.subnet.getD "") (flags.serverIP.getD "") Addr.is4 .subnet .serverIP

def pool6 (go : GoLib) (flags : ServerFlags) : Except FlagError (Prefix × Addr) :=
  flagPool go (flags.subnet6.getD "") (flags.serverIP6.getD "") Addr.is6 .subnet6 .serverIP6

def settings (sys : Shell) (flags : ServerFlags) : Except FlagError ServerSettings :=
  ((parseCipher (flags.encrypt.getD "aes-gcm")).mapError .encrypt).bind fun cipher =>
    (flagKey sys (flags.key.getD "")).bind fun static =>
      (flagKey sys (flags.peerKey.getD "")).bind fun peer =>
        (flags.pool4 sys.go).bind fun first =>
          (flags.pool6 sys.go).map fun second =>
            { listen := flags.listen.getD ""
              lanes := 0
              queues := 0
              staticPrivateKey := static
              peerPublicKey := peer
              users := []
              cipher := cipher
              subnet := first.1
              subnet6 := second.1
              serverIP := first.2
              serverIP6 := second.2
              vnetHdr := false
              allowIP := flags.allow.getD ""
              rateLimit := ⟨false, 0, 0, 0, 0⟩
              mptcp := flags.mptcp.getD false
              tunName := flags.tunName.getD ""
              sharedTUNQueues := 0
              nft := ⟨false, "", "", "", false, false, "", false, 0, 0, 0, false, false, .zero, .zero, false, .invalid, .invalid⟩
              tproxy := ⟨false, "", 0, 0, false, .invalid, .invalid, .zero, .zero⟩ }

def named (cfg : ServerSettings) : ServerSettings :=
  { cfg with listen := orDefault cfg.listen "0.0.0.0:4500", tunName := orDefault cfg.tunName "phose0" }

def multiClient (flags : ServerFlags) (cfg : ServerSettings) : Bool :=
  flags.subnet.getD "" ≠ "" || flags.subnet6.getD "" ≠ "" || cfg.subnet.isValid || cfg.subnet6.isValid

def openSingle (host : Host) (flags : ServerFlags) (cfg : ServerSettings) : Except FlagError ServerSettings :=
  ((openKernelTUN host (flags.tun.getD "ph0") (flags.lanes.getD 4) (flags.vnetHdr.getD true)).mapError .openTUN).map fun _ =>
    { cfg with lanes := flags.lanes.getD 4, queues := (flags.lanes.getD 4).toNat }

def runServer (sys : Shell) (flags : ServerFlags) (fc : FileConfig) : Except FlagError ServerSettings :=
  (flags.settings sys).bind fun base =>
    ((fc.applyServer sys.go base).mapError .config).bind fun cfg =>
      if !flags.multiClient cfg then flags.openSingle sys.host (named cfg)
      else .ok { named cfg with vnetHdr := if !cfg.vnetHdr then flags.vnetHdr.getD true else cfg.vnetHdr }

end ServerFlags

structure GoLib.Netip (go : GoLib) : Prop where
  blank : ∀ addr, go.parseAddr "" ≠ .ok addr
  addr : ∀ text addr, go.parseAddr text = .ok addr → addr.isValid = true
  subnet : ∀ text pref, go.parseSubnet text = .ok pref → pref.isValid = true

def Ranked {Value : Type} (flag file : Option (Option Value)) (fallback value : Value) : Prop :=
  match flag, file with
  | some given, _ => given = some value
  | none, some set => set = some value
  | none, none => value = fallback

def keyText (text : String) : Option String := if text = "" then none else some text

def readValue {Value : Type} (parse : String → Except String Value) (zero : Value) (text : String) : Option Value :=
  if text = "" then some zero else (parse text).toOption

def subnetValue (go : GoLib) : String → Option Prefix := readValue go.parseSubnet .invalid

def addrValue (go : GoLib) : String → Option Addr := readValue go.parseAddr .zero

structure FlagsRule (sys : Shell) (flags : ServerFlags) (fc : FileConfig) (cfg : ServerSettings) : Prop where
  listen : Ranked (flags.listen.map some) ((keyText fc.listen).map some) "0.0.0.0:4500" cfg.listen
  lanes : Ranked (flags.lanes.map some) (if fc.lanes = 0 then none else some (some fc.lanes)) 4 cfg.lanes
  mptcp : Ranked (flags.mptcp.map some) (if fc.mptcp then some (some true) else none) false cfg.mptcp
  cipher : Ranked (flags.encrypt.map fun text => (parseCipher text).toOption)
    ((keyText fc.cipher).map fun text => (parseCipher text).toOption) cipherAESGCM cfg.cipher
  vnetHdr : Ranked (flags.vnetHdr.map some) (fc.vnetHdr.map some) true cfg.vnetHdr
  allow : Ranked (flags.allow.map some) ((keyText fc.allowIP).map some) "" cfg.allowIP
  key : Ranked (flags.key.map fun text => (flagKey sys text).toOption)
    ((keyText fc.serverKey).map fun text => (parseKey sys.go text).toOption) [] cfg.staticPrivateKey
  peerKey : Ranked (flags.peerKey.map fun text => (flagKey sys text).toOption)
    ((keyText fc.peerPubKey).map fun text => (parseKey sys.go text).toOption) [] cfg.peerPublicKey
  subnet : Ranked (flags.subnet.map (subnetValue sys.go)) ((keyText fc.pool.v4Subnet).map (subnetValue sys.go)) .invalid cfg.subnet
  serverIP : Ranked (flags.serverIP.map (addrValue sys.go)) ((keyText fc.pool.serverIP4).map (addrValue sys.go)) .zero cfg.serverIP
  subnet6 : Ranked (flags.subnet6.map (subnetValue sys.go)) ((keyText fc.pool.v6Subnet).map (subnetValue sys.go)) .invalid cfg.subnet6
  serverIP6 : Ranked (flags.serverIP6.map (addrValue sys.go)) ((keyText fc.pool.serverIP6).map (addrValue sys.go)) .zero cfg.serverIP6
  tunName : Ranked (flags.tunName.map some) ((keyText fc.tunName).map some) "phose0" cfg.tunName

def pooled (flags : ServerFlags) (fc : FileConfig) : Bool :=
  flags.subnet.getD "" ≠ "" || flags.subnet6.getD "" ≠ "" || fc.pool.v4Subnet ≠ "" || fc.pool.v6Subnet ≠ ""

def SubnetsAgree (go : GoLib) (flag : Option String) (text : String) : Prop :=
  ∀ given, flag = some given → text = "" ∨ given ≠ "" ∧ go.parseSubnet given = go.parseSubnet text

def AddrsAgree (go : GoLib) (subnet flag : Option String) (text : String) : Prop :=
  ∀ given, flag = some given →
    if text = "" then given = "" ∨ subnet.getD "" ≠ "" else given ≠ "" ∧ go.parseAddr given = go.parseAddr text

structure Unmasked (sys : Shell) (flags : ServerFlags) (fc : FileConfig) : Prop where
  listen : flags.listen ≠ some ""
  lanes : if pooled flags fc then (∀ given, flags.lanes = some given → fc.lanes = given) ∧ (flags.lanes = none → fc.lanes ≠ 0)
    else flags.lanes = none → fc.lanes = 0 ∨ fc.lanes = 4
  mptcp : flags.mptcp = some false → fc.mptcp = false
  cipher : (flags.encrypt = none → fc.cipher = "" ∨ parseCipher fc.cipher = .ok cipherAESGCM) ∧
    ∀ given, flags.encrypt = some given → parseCipher given = .ok cipherNone → fc.cipherChoice = .ok cipherNone
  vnetHdr : if pooled flags fc then
      (flags.vnetHdr = some false → fc.vnetHdr ≠ some true) ∧ (flags.vnetHdr = none → fc.vnetHdr ≠ some false)
    else (∀ given, flags.vnetHdr = some given → fc.vnetHdr.getD false = given) ∧ (flags.vnetHdr = none → fc.vnetHdr ≠ none)
  allow : flags.allow = some "" → fc.allowIP = ""
  key : ∀ given, flags.key = some given → flagKey sys given = .ok [] → fc.serverKey = ""
  peerKey : ∀ given, flags.peerKey = some given → flagKey sys given = .ok [] → fc.peerPubKey = ""
  subnet : SubnetsAgree sys.go flags.subnet fc.pool.v4Subnet
  serverIP : AddrsAgree sys.go flags.subnet flags.serverIP fc.pool.serverIP4
  subnet6 : SubnetsAgree sys.go flags.subnet6 fc.pool.v6Subnet
  serverIP6 : AddrsAgree sys.go flags.subnet6 flags.serverIP6 fc.pool.serverIP6
  tunName : flags.tunName ≠ some ""

structure Based (sys : Shell) (flags : ServerFlags) (base : ServerSettings) : Prop where
  listen : base.listen = flags.listen.getD ""
  tunName : base.tunName = flags.tunName.getD ""
  allow : base.allowIP = flags.allow.getD ""
  lanes : base.lanes = 0
  vnetHdr : base.vnetHdr = false
  mptcp : base.mptcp = flags.mptcp.getD false
  cipher : parseCipher (flags.encrypt.getD "aes-gcm") = .ok base.cipher
  key : flagKey sys (flags.key.getD "") = .ok base.staticPrivateKey
  peerKey : flagKey sys (flags.peerKey.getD "") = .ok base.peerPublicKey
  pool4 : flags.pool4 sys.go = .ok (base.subnet, base.serverIP)
  pool6 : flags.pool6 sys.go = .ok (base.subnet6, base.serverIP6)

theorem settings_based (sys : Shell) (flags : ServerFlags) (base : ServerSettings) (given : flags.settings sys = .ok base) :
    Based sys flags base := by
  obtain ⟨cipher, ciphered, given⟩ := Outcomes.bind_ok given
  obtain ⟨static, keyed, given⟩ := Outcomes.bind_ok given
  obtain ⟨peer, peered, given⟩ := Outcomes.bind_ok given
  obtain ⟨first, pool4, given⟩ := Outcomes.bind_ok given
  obtain ⟨second, pool6, rfl⟩ := Outcomes.map_ok given
  exact ⟨rfl, rfl, rfl, rfl, rfl, rfl, Outcomes.map_error_ok ciphered, keyed, peered, pool4, pool6⟩

structure Overlaid (go : GoLib) (fc : FileConfig) (base cfg : ServerSettings) : Prop where
  listen : cfg.listen = orDefault base.listen fc.listen
  tunName : cfg.tunName = orDefault base.tunName fc.tunName
  allow : cfg.allowIP = orDefault base.allowIP fc.allowIP
  lanes : cfg.lanes = if base.lanes = 0 then fc.lanes else base.lanes
  vnetHdr : cfg.vnetHdr = fc.vnetHdr.getD base.vnetHdr
  mptcp : cfg.mptcp = (base.mptcp || fc.mptcp)
  cipher : fc.overlayCipher base.cipher = .ok cfg.cipher
  key : FileConfig.overlayKey go base.staticPrivateKey fc.serverKey .serverKey = .ok cfg.staticPrivateKey
  peerKey : FileConfig.overlayKey go base.peerPublicKey fc.peerPubKey .peerKey = .ok cfg.peerPublicKey
  subnet : FileConfig.overlaySubnet go base.subnet fc.pool.v4Subnet .v4Subnet = .ok cfg.subnet
  serverIP : FileConfig.overlayServerIP go base.serverIP fc.pool.serverIP4 Addr.is4 .serverIP4 = .ok cfg.serverIP
  subnet6 : FileConfig.overlaySubnet go base.subnet6 fc.pool.v6Subnet .v6Subnet = .ok cfg.subnet6
  serverIP6 : FileConfig.overlayServerIP go base.serverIP6 fc.pool.serverIP6 Addr.is6 .serverIP6 = .ok cfg.serverIP6

theorem apply_server_overlaid (go : GoLib) (fc : FileConfig) (base cfg : ServerSettings)
    (applied : fc.applyServer go base = .ok cfg) : Overlaid go fc base cfg := by
  obtain ⟨keyed, keys, afterKeys⟩ := Outcomes.bind_ok applied
  obtain ⟨pooled, pools, afterPool⟩ := Outcomes.bind_ok afterKeys
  obtain ⟨full, users, finished⟩ := Outcomes.bind_ok afterPool
  obtain ⟨static, first, rest⟩ := Outcomes.bind_ok keys
  obtain ⟨peer, second, rest⟩ := Outcomes.bind_ok rest
  obtain ⟨ciph, third, rfl⟩ := Outcomes.map_ok rest
  obtain ⟨subnet, fourth, rest⟩ := Outcomes.bind_ok pools
  obtain ⟨serverIP, fifth, rest⟩ := Outcomes.bind_ok rest
  obtain ⟨subnet6, sixth, rest⟩ := Outcomes.bind_ok rest
  obtain ⟨serverIP6, seventh, rfl⟩ := Outcomes.map_ok rest
  obtain ⟨_, _, rfl⟩ := Outcomes.map_ok users
  cases finished
  exact ⟨rfl, rfl, rfl, rfl, rfl, rfl, third, first, second, fourth, fifth, sixth, seventh⟩

structure Completed (flags : ServerFlags) (applied cfg : ServerSettings) : Prop where
  listen : cfg.listen = orDefault applied.listen "0.0.0.0:4500"
  tunName : cfg.tunName = orDefault applied.tunName "phose0"
  lanes : cfg.lanes = if flags.multiClient applied then applied.lanes else flags.lanes.getD 4
  vnetHdr : cfg.vnetHdr = (applied.vnetHdr || flags.multiClient applied && flags.vnetHdr.getD true)
  allow : cfg.allowIP = applied.allowIP
  mptcp : cfg.mptcp = applied.mptcp
  cipher : cfg.cipher = applied.cipher
  key : cfg.staticPrivateKey = applied.staticPrivateKey
  peerKey : cfg.peerPublicKey = applied.peerPublicKey
  subnet : cfg.subnet = applied.subnet
  serverIP : cfg.serverIP = applied.serverIP
  subnet6 : cfg.subnet6 = applied.subnet6
  serverIP6 : cfg.serverIP6 = applied.serverIP6

theorem run_server_parts (sys : Shell) (flags : ServerFlags) (fc : FileConfig) (cfg : ServerSettings)
    (handed : flags.runServer sys fc = .ok cfg) :
    ∃ base applied, Based sys flags base ∧ Overlaid sys.go fc base applied ∧ Completed flags applied cfg := by
  obtain ⟨base, given, rest⟩ := Outcomes.bind_ok handed
  obtain ⟨applied, overlaid, finished⟩ := Outcomes.bind_ok rest
  refine ⟨base, applied, settings_based sys flags base given,
    apply_server_overlaid sys.go fc base applied (Outcomes.map_error_ok overlaid), ?_⟩
  cases mode : flags.multiClient applied with
  | false =>
      rw [mode] at finished
      obtain ⟨_, _, rfl⟩ := Outcomes.map_ok finished
      refine ⟨rfl, rfl, by rw [mode]; rfl, ?_, rfl, rfl, rfl, rfl, rfl, rfl, rfl, rfl, rfl⟩
      rw [mode]
      exact (Bool.or_false _).symm
  | true =>
      rw [mode] at finished
      cases finished
      refine ⟨rfl, rfl, by rw [mode]; rfl, ?_, rfl, rfl, rfl, rfl, rfl, rfl, rfl, rfl, rfl⟩
      rw [mode]
      cases applied.vnetHdr <;> rfl

theorem flag_pool_ok (go : GoLib) (subnet serverIP : String) (family : Addr → Bool) (badSubnet : String → FlagError)
    (badIP : Option String → FlagError) (pref : Prefix) (addr : Addr)
    (given : flagPool go subnet serverIP family badSubnet badIP = .ok (pref, addr)) :
    (subnet = "" ∧ pref = .invalid ∧ addr = .zero) ∨
      (subnet ≠ "" ∧ go.parseSubnet subnet = .ok pref ∧ go.parseAddr serverIP = .ok addr) := by
  unfold flagPool at given
  split_ifs at given with unset
  · cases given
    exact .inl ⟨unset, rfl, rfl⟩
  · obtain ⟨found, parsed, rest⟩ := Outcomes.bind_ok given
    cases read : go.parseAddr serverIP with
    | error problem => simp [read] at rest
    | ok other =>
        simp only [read] at rest
        split_ifs at rest
        cases rest
        exact .inr ⟨unset, Outcomes.map_error_ok parsed, rfl⟩

theorem overlay_subnet_ok (go : GoLib) (current pref : Prefix) (text : String) (wrap : String → FileError)
    (done : FileConfig.overlaySubnet go current text wrap = .ok pref) :
    (text = "" ∧ pref = current) ∨ (text ≠ "" ∧ go.parseSubnet text = .ok pref) := by
  unfold FileConfig.overlaySubnet at done
  split_ifs at done with set
  · exact .inr ⟨set, Outcomes.map_error_ok done⟩
  · exact .inl ⟨not_not.mp set, (Except.ok.inj done).symm⟩

theorem overlay_server_ip_ok (go : GoLib) (current addr : Addr) (text : String) (family : Addr → Bool) (refused : FileError)
    (done : FileConfig.overlayServerIP go current text family refused = .ok addr) :
    (text = "" ∧ addr = current) ∨ (text ≠ "" ∧ go.parseAddr text = .ok addr) := by
  unfold FileConfig.overlayServerIP at done
  split_ifs at done with set
  · cases read : go.parseAddr text with
    | error problem => simp [read] at done
    | ok other =>
        simp only [read] at done
        split_ifs at done
        cases done
        exact .inr ⟨set, rfl⟩
  · exact .inl ⟨not_not.mp set, (Except.ok.inj done).symm⟩

theorem text_ranked (flag : Option String) (text fallback : String) :
    Ranked (flag.map some) ((keyText text).map some) fallback (orDefault (orDefault (flag.getD "") text) fallback) ↔
      (flag = some "" → text = "" ∧ fallback = "") := by
  by_cases unset : text = ""
  · cases flag with
    | none => simp [Ranked, keyText, orDefault, unset]
    | some given =>
        by_cases empty : given = ""
        · simp [Ranked, orDefault, unset, empty, eq_comm]
        · simp [Ranked, orDefault, empty]
  · cases flag with
    | none => simp [Ranked, keyText, orDefault, unset]
    | some given =>
        by_cases empty : given = ""
        · simp [Ranked, orDefault, unset, empty, Ne.symm unset]
        · simp [Ranked, orDefault, empty]

theorem named_ranked (flag : Option String) (text fallback : String) (filled : fallback ≠ "") :
    Ranked (flag.map some) ((keyText text).map some) fallback (orDefault (orDefault (flag.getD "") text) fallback) ↔ flag ≠ some "" :=
  (text_ranked flag text fallback).trans (by simp [filled])

theorem allow_ranked (flag : Option String) (text : String) :
    Ranked (flag.map some) ((keyText text).map some) "" (orDefault (flag.getD "") text) ↔ (flag = some "" → text = "") := by
  have unchanged : ∀ given, orDefault given "" = given := by
    intro given
    unfold orDefault
    split_ifs with empty
    · exact empty.symm
    · rfl
  have ranked := text_ranked flag text ""
  rw [unchanged] at ranked
  exact ranked.trans (by simp)

theorem mptcp_ranked (flag : Option Bool) (file : Bool) :
    Ranked (flag.map some) (if file then some (some true) else none) false (flag.getD false || file) ↔ (flag = some false → file = false) := by
  cases flag with
  | none => cases file <;> simp [Ranked]
  | some given => cases given <;> cases file <;> simp [Ranked]

theorem lanes_ranked (flag : Option Int) (file : Int) (multi : Bool) :
    Ranked (flag.map some) (if file = 0 then none else some (some file)) 4 (if multi then file else flag.getD 4) ↔
      if multi then (∀ given, flag = some given → file = given) ∧ (flag = none → file ≠ 0)
      else flag = none → file = 0 ∨ file = 4 := by
  cases flag with
  | none =>
      by_cases unset : file = 0
      · cases multi <;> simp [Ranked, unset]
      · cases multi <;> simp [Ranked, unset]
  | some given => cases multi <;> simp [Ranked, eq_comm]

theorem vnet_hdr_ranked (flag file : Option Bool) (multi : Bool) :
    Ranked (flag.map some) (file.map some) true (file.getD false || multi && flag.getD true) ↔
      if multi then (flag = some false → file ≠ some true) ∧ (flag = none → file ≠ some false)
      else (∀ given, flag = some given → file.getD false = given) ∧ (flag = none → file ≠ none) := by
  cases flag with
  | none => cases multi <;> cases file <;> simp [Ranked]
  | some given => cases multi <;> cases given <;> cases file <;> simp [Ranked]

theorem cipher_ranked (flag : Option String) (fc : FileConfig) (given value : Cipher)
    (parsed : parseCipher (flag.getD "aes-gcm") = .ok given) (overlaid : fc.overlayCipher given = .ok value) :
    Ranked (flag.map fun text => (parseCipher text).toOption) ((keyText fc.cipher).map fun text => (parseCipher text).toOption)
        cipherAESGCM value ↔
      (flag = none → fc.cipher = "" ∨ parseCipher fc.cipher = .ok cipherAESGCM) ∧
        ∀ text, flag = some text → parseCipher text = .ok cipherNone → fc.cipherChoice = .ok cipherNone := by
  cases flag with
  | none =>
      obtain rfl : cipherAESGCM = given := Except.ok.inj parsed
      obtain rfl : cipherAESGCM = value := Except.ok.inj overlaid
      by_cases unset : fc.cipher = ""
      · simp [Ranked, keyText, unset]
      · simp [Ranked, keyText, unset, Outcomes.to_option_ok]
  | some text =>
      have read : parseCipher text = .ok given := parsed
      have ranked : Ranked ((some text).map fun text => (parseCipher text).toOption)
          ((keyText fc.cipher).map fun text => (parseCipher text).toOption) cipherAESGCM value ↔ given = value := by
        simp [Ranked, Outcomes.to_option_ok, read]
      rw [ranked]
      unfold FileConfig.overlayCipher at overlaid
      split_ifs at overlaid with unciphered
      · refine ⟨fun same => ⟨nofun, fun _ _ _ => ?_⟩, fun agree => ?_⟩
        · rw [overlaid, ← same, unciphered]
        · have chosen := agree.2 text rfl (unciphered ▸ read)
          rw [unciphered]
          exact (Except.ok.inj (overlaid.symm.trans chosen)).symm
      · refine ⟨fun _ => ⟨nofun, fun other same none => ?_⟩, fun _ => Except.ok.inj overlaid⟩
        cases same
        exact absurd (Except.ok.inj (read.symm.trans none)) unciphered

theorem key_ranked (sys : Shell) (flag : Option String) (text : String) (wrap : KeyError → FileError) (given value : Bytes)
    (parsed : flagKey sys (flag.getD "") = .ok given) (overlaid : FileConfig.overlayKey sys.go given text wrap = .ok value) :
    Ranked (flag.map fun text => (flagKey sys text).toOption) ((keyText text).map fun text => (parseKey sys.go text).toOption) [] value ↔
      ∀ literal, flag = some literal → flagKey sys literal = .ok [] → text = "" := by
  unfold FileConfig.overlayKey at overlaid
  cases flag with
  | none =>
      obtain rfl : [] = given := Except.ok.inj parsed
      refine iff_of_true ?_ nofun
      by_cases unset : text = ""
      · rw [if_neg (by simp [unset])] at overlaid
        simp [Ranked, keyText, unset, ← Except.ok.inj overlaid]
      · rw [if_pos (by simp [unset])] at overlaid
        simp [Ranked, keyText, unset, Outcomes.to_option_ok, Outcomes.map_error_ok overlaid]
  | some literal =>
      have read : flagKey sys literal = .ok given := parsed
      have ranked : Ranked ((some literal).map fun text => (flagKey sys text).toOption)
          ((keyText text).map fun text => (parseKey sys.go text).toOption) [] value ↔ given = value := by
        simp [Ranked, Outcomes.to_option_ok, read]
      rw [ranked]
      split_ifs at overlaid with masked
      · obtain ⟨empty, set⟩ : given = [] ∧ text ≠ "" := by simpa using masked
        subst empty
        refine iff_of_false ?_ fun agree => set (agree literal rfl read)
        exact Ne.symm (FileConfig.parse_key_given sys.go text value set (Outcomes.map_error_ok overlaid))
      · refine iff_of_true (Except.ok.inj overlaid) fun other same empty => ?_
        cases same
        obtain rfl : given = [] := Except.ok.inj (read.symm.trans empty)
        simpa using masked

theorem read_value_agrees {Value : Type} (parse : String → Except String Value) (zero value : Value) (given text : String)
    (read : parse text = .ok value) (distinct : value ≠ zero) :
    readValue parse zero given = some value ↔ given ≠ "" ∧ parse given = parse text := by
  unfold readValue
  split_ifs with empty
  · exact iff_of_false (fun same => distinct (Option.some.inj same).symm) fun agree => agree.1 empty
  · rw [Outcomes.to_option_ok, read]
    exact ⟨fun same => ⟨empty, same⟩, And.right⟩

theorem subnet_ranked (go : GoLib) (netip : go.Netip) (flag : Option String) (text : String) (wrap : String → FileError)
    (given value : Prefix) (parsed : subnetValue go (flag.getD "") = some given)
    (overlaid : FileConfig.overlaySubnet go given text wrap = .ok value) :
    Ranked (flag.map (subnetValue go)) ((keyText text).map (subnetValue go)) .invalid value ↔ SubnetsAgree go flag text := by
  rcases overlay_subnet_ok go given value text wrap overlaid with ⟨unset, rfl⟩ | ⟨set, read⟩
  · refine iff_of_true ?_ fun _ _ => .inl unset
    cases flag with
    | none => simpa [Ranked, keyText, unset, subnetValue, readValue, eq_comm] using parsed
    | some literal => exact parsed
  · have distinct : value ≠ .invalid := fun same => by
      have valid := netip.subnet text value read
      rw [same] at valid
      cases valid
    cases flag with
    | none => exact iff_of_true (by simp [Ranked, keyText, set, subnetValue, readValue, read, Except.toOption]) nofun
    | some literal =>
        have agrees := read_value_agrees go.parseSubnet .invalid value literal text read distinct
        simpa [Ranked, SubnetsAgree, set, subnetValue] using agrees

theorem addr_ranked (go : GoLib) (netip : go.Netip) (subnet flag : Option String) (text : String) (family : Addr → Bool)
    (refused : FileError) (given value : Addr)
    (parsed : if subnet.getD "" = "" then given = .zero else go.parseAddr (flag.getD "") = .ok given)
    (overlaid : FileConfig.overlayServerIP go given text family refused = .ok value) :
    Ranked (flag.map (addrValue go)) ((keyText text).map (addrValue go)) .zero value ↔ AddrsAgree go subnet flag text := by
  have distinct : ∀ text addr, go.parseAddr text = .ok addr → addr ≠ .zero := by
    rintro text _ read rfl
    cases netip.addr text _ read
  rcases overlay_server_ip_ok go given value text family refused overlaid with ⟨unset, rfl⟩ | ⟨set, read⟩
  · cases flag with
    | none =>
        refine iff_of_true ?_ nofun
        split_ifs at parsed
        · simp [Ranked, keyText, unset, parsed]
        · exact absurd parsed (netip.blank value)
    | some literal =>
        have agree : AddrsAgree go subnet (some literal) text ↔ literal = "" ∨ subnet.getD "" ≠ "" := by simp [AddrsAgree, unset]
        rw [agree]
        split_ifs at parsed with alone
        · subst parsed
          by_cases empty : literal = ""
          · exact iff_of_true (by simp [Ranked, addrValue, readValue, empty]) (.inl empty)
          · refine iff_of_false (fun ranked => ?_) fun kept => kept.elim empty fun next => next alone
            have read : (go.parseAddr literal).toOption = some .zero := (if_neg empty).symm.trans ranked
            exact distinct literal .zero ((Outcomes.to_option_ok _ _).mp read) rfl
        · refine iff_of_true ?_ (.inr alone)
          have filled : literal ≠ "" := fun empty => netip.blank value (empty ▸ parsed)
          exact (if_neg filled).trans ((Outcomes.to_option_ok _ _).mpr parsed)
  · cases flag with
    | none => exact iff_of_true (by simp [Ranked, keyText, set, addrValue, readValue, read, Except.toOption]) nofun
    | some literal =>
        have agrees := read_value_agrees go.parseAddr .zero value literal text read (distinct text value read)
        simpa [Ranked, AddrsAgree, set, addrValue] using agrees

theorem pool_ranked (go : GoLib) (netip : go.Netip) (subnet serverIP : Option String) (subnetText ipText : String)
    (family : Addr → Bool) (badSubnet : String → FlagError) (badIP : Option String → FlagError) (wrap : String → FileError)
    (refused : FileError) (givenPref pref : Prefix) (givenAddr addr : Addr)
    (given : flagPool go (subnet.getD "") (serverIP.getD "") family badSubnet badIP = .ok (givenPref, givenAddr))
    (prefixed : FileConfig.overlaySubnet go givenPref subnetText wrap = .ok pref)
    (addressed : FileConfig.overlayServerIP go givenAddr ipText family refused = .ok addr) :
    (Ranked (subnet.map (subnetValue go)) ((keyText subnetText).map (subnetValue go)) .invalid pref ↔
        SubnetsAgree go subnet subnetText) ∧
      (Ranked (serverIP.map (addrValue go)) ((keyText ipText).map (addrValue go)) .zero addr ↔
        AddrsAgree go subnet serverIP ipText) ∧
      (pref.isValid = true ↔ subnet.getD "" ≠ "" ∨ subnetText ≠ "") := by
  rcases flag_pool_ok go _ _ family badSubnet badIP givenPref givenAddr given with ⟨unset, rfl, rfl⟩ | ⟨set, parsed, read⟩
  · refine ⟨subnet_ranked go netip subnet subnetText wrap .invalid pref (if_pos unset) prefixed,
      addr_ranked go netip subnet serverIP ipText family refused .zero addr (by rw [if_pos unset]) addressed, ?_⟩
    rcases overlay_subnet_ok go .invalid pref subnetText wrap prefixed with ⟨empty, rfl⟩ | ⟨named, value⟩
    · exact iff_of_false nofun fun either => either.elim (absurd unset) (absurd empty)
    · exact iff_of_true (netip.subnet subnetText pref value) (.inr named)
  · have valued : subnetValue go (subnet.getD "") = some givenPref := (if_neg set).trans ((Outcomes.to_option_ok _ _).mpr parsed)
    refine ⟨subnet_ranked go netip subnet subnetText wrap givenPref pref valued prefixed,
      addr_ranked go netip subnet serverIP ipText family refused givenAddr addr (by rw [if_neg set]; exact read) addressed, ?_⟩
    refine iff_of_true ?_ (.inl set)
    rcases overlay_subnet_ok go givenPref pref subnetText wrap prefixed with ⟨empty, rfl⟩ | ⟨named, value⟩
    · exact netip.subnet _ _ parsed
    · exact netip.subnet subnetText pref value

theorem multi_client_pooled (flags : ServerFlags) (fc : FileConfig) (applied : ServerSettings)
    (first : applied.subnet.isValid = true ↔ flags.subnet.getD "" ≠ "" ∨ fc.pool.v4Subnet ≠ "")
    (second : applied.subnet6.isValid = true ↔ flags.subnet6.getD "" ≠ "" ∨ fc.pool.v6Subnet ≠ "") :
    flags.multiClient applied = pooled flags fc := by
  rw [Bool.eq_iff_iff]
  simp only [ServerFlags.multiClient, pooled, Bool.or_eq_true, decide_eq_true_eq, first, second]
  tauto

theorem flags_rule_iff (sys : Shell) (netip : sys.go.Netip) (flags : ServerFlags) (fc : FileConfig) (cfg : ServerSettings)
    (handed : flags.runServer sys fc = .ok cfg) : FlagsRule sys flags fc cfg ↔ Unmasked sys flags fc := by
  obtain ⟨base, applied, based, overlaid, completed⟩ := run_server_parts sys flags fc cfg handed
  obtain ⟨subnet, serverIP, valid⟩ := pool_ranked sys.go netip flags.subnet flags.serverIP fc.pool.v4Subnet fc.pool.serverIP4
    _ _ _ _ _ _ _ _ _ based.pool4 overlaid.subnet overlaid.serverIP
  obtain ⟨subnet6, serverIP6, valid6⟩ := pool_ranked sys.go netip flags.subnet6 flags.serverIP6 fc.pool.v6Subnet fc.pool.serverIP6
    _ _ _ _ _ _ _ _ _ based.pool6 overlaid.subnet6 overlaid.serverIP6
  have mode := multi_client_pooled flags fc applied valid valid6
  have listen := named_ranked flags.listen fc.listen "0.0.0.0:4500" (by decide)
  have tunName := named_ranked flags.tunName fc.tunName "phose0" (by decide)
  have allow := allow_ranked flags.allow fc.allowIP
  have mptcp := mptcp_ranked flags.mptcp fc.mptcp
  have lanes := lanes_ranked flags.lanes fc.lanes (pooled flags fc)
  have vnetHdr := vnet_hdr_ranked flags.vnetHdr fc.vnetHdr (pooled flags fc)
  have cipher := cipher_ranked flags.encrypt fc base.cipher applied.cipher based.cipher overlaid.cipher
  have key := key_ranked sys flags.key fc.serverKey .serverKey base.staticPrivateKey applied.staticPrivateKey based.key overlaid.key
  have peerKey := key_ranked sys flags.peerKey fc.peerPubKey .peerKey base.peerPublicKey applied.peerPublicKey based.peerKey overlaid.peerKey
  have chosen : cfg.lanes = if pooled flags fc then fc.lanes else flags.lanes.getD 4 := by
    rw [completed.lanes, mode, overlaid.lanes, if_pos based.lanes]
  have offload : cfg.vnetHdr = (fc.vnetHdr.getD false || pooled flags fc && flags.vnetHdr.getD true) := by
    rw [completed.vnetHdr, mode, overlaid.vnetHdr, based.vnetHdr]
  rw [← based.listen, ← overlaid.listen, ← completed.listen] at listen
  rw [← based.tunName, ← overlaid.tunName, ← completed.tunName] at tunName
  rw [← based.allow, ← overlaid.allow, ← completed.allow] at allow
  rw [← based.mptcp, ← overlaid.mptcp, ← completed.mptcp] at mptcp
  rw [← chosen] at lanes
  rw [← offload] at vnetHdr
  rw [← completed.cipher] at cipher
  rw [← completed.key] at key
  rw [← completed.peerKey] at peerKey
  rw [← completed.subnet] at subnet
  rw [← completed.serverIP] at serverIP
  rw [← completed.subnet6] at subnet6
  rw [← completed.serverIP6] at serverIP6
  exact ⟨fun rule => ⟨listen.mp rule.listen, lanes.mp rule.lanes, mptcp.mp rule.mptcp, cipher.mp rule.cipher, vnetHdr.mp rule.vnetHdr,
      allow.mp rule.allow, key.mp rule.key, peerKey.mp rule.peerKey, subnet.mp rule.subnet, serverIP.mp rule.serverIP,
      subnet6.mp rule.subnet6, serverIP6.mp rule.serverIP6, tunName.mp rule.tunName⟩,
    fun clear => ⟨listen.mpr clear.listen, lanes.mpr clear.lanes, mptcp.mpr clear.mptcp, cipher.mpr clear.cipher,
      vnetHdr.mpr clear.vnetHdr, allow.mpr clear.allow, key.mpr clear.key, peerKey.mpr clear.peerKey, subnet.mpr clear.subnet,
      serverIP.mpr clear.serverIP, subnet6.mpr clear.subnet6, serverIP6.mpr clear.serverIP6, tunName.mpr clear.tunName⟩⟩

theorem tunnel_lib_netip : tunnelLib.Netip where
  blank := by
    intro addr read
    simp [tunnelLib] at read
  addr := by
    intro text addr read
    simp only [tunnelLib] at read
    split_ifs at read
    cases read
    rfl
  subnet := by
    intro text pref read
    simp only [tunnelLib] at read
    split_ifs at read
    cases read
    rfl

def tunnelShell : Shell where
  go := tunnelLib
  readFile path := .error ("open " ++ path ++ ": no such file or directory")
  trimSpace text := text
  host := tunnelHost

def noFlags : ServerFlags := ⟨none, none, none, none, none, none, none, none, none, none, none, none, none, none⟩

def pooledFile : FileConfig :=
  { isolatedFile "tunnel" with
    listen := "0.0.0.0:4500"
    lanes := 6
    mptcp := true
    cipher := "aes-256"
    allowIP := "192.0.2.1" }

def chachaFlags : ServerFlags := { noFlags with listen := some ":9000", encrypt := some "chacha20" }

theorem flags_rule_pooled :
    ∃ cfg, chachaFlags.runServer tunnelShell pooledFile = .ok cfg ∧ FlagsRule tunnelShell chachaFlags pooledFile cfg := by
  obtain ⟨cfg, handed⟩ : ∃ cfg, chachaFlags.runServer tunnelShell pooledFile = .ok cfg := ⟨_, rfl⟩
  refine ⟨cfg, handed, (flags_rule_iff tunnelShell tunnel_lib_netip chachaFlags pooledFile cfg handed).mpr ?_⟩
  have cipher : ∀ given, chachaFlags.encrypt = some given → parseCipher given = .ok cipherNone →
      pooledFile.cipherChoice = .ok cipherNone := by
    intro given same read
    cases same
    cases read
  exact ⟨by decide, ⟨nofun, by decide⟩, nofun, ⟨nofun, cipher⟩, ⟨nofun, nofun⟩, nofun, nofun, nofun, nofun, nofun, nofun, nofun, nofun⟩

-- The file's cipher gives way to the default of a flag that was not given, and
-- --mptcp=false gives way to the file.
theorem flag_default_over_file :
    ∃ flags cfg, flags.encrypt = none ∧ flags.mptcp = some false ∧ flags.runServer tunnelShell pooledFile = .ok cfg ∧
      parseCipher pooledFile.cipher = .ok cipherAES256GCM ∧ cfg.cipher = cipherAESGCM ∧ cfg.mptcp = true ∧
      ¬FlagsRule tunnelShell flags pooledFile cfg := by
  refine ⟨{ noFlags with mptcp := some false }, _, rfl, rfl, rfl, rfl, rfl, rfl, fun rule => ?_⟩
  have kept : some false = some true := rule.mptcp
  cases kept

end Packethose
