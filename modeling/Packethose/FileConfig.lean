import Packethose.Lib.Outcomes
import Packethose.ServerConfig

set_option autoImplicit false

namespace Packethose

-- The library functions the configuration is read and printed with: %q,
-- encoding/base64, encoding/hex and net/netip.
structure GoLib where
  quote : String → String
  decodeBase64 : String → Option Bytes
  decodeHex : String → Except String Bytes
  parseAddr : String → Except String Addr
  parseSubnet : String → Except String Prefix
  addrText : Addr → String
  subnetText : Prefix → String

structure RateLimitConfig where
  disabled : Bool
  perIPPerSec : Rat
  perIPBurst : Int
  maxInFlight : Int
  maxIPEntries : Int

structure NFTConfig where
  enabled : Bool
  family : String
  tableName : String
  tunMatch : String
  isolation : Bool
  masquerade : Bool
  egressInterface : String
  tproxy : Bool
  tproxyPort : Int
  tproxyMark : UInt32
  routeTable : UInt32
  ipv4 : Bool
  ipv6 : Bool
  serverIP4 : Addr
  serverIP6 : Addr
  accounting : Bool
  poolV4 : Prefix
  poolV6 : Prefix

structure TPROXYConfig where
  enabled : Bool
  listenAddr : String
  listenPort : Int
  udpIdleTimeout : Int
  enforceIsolation : Bool
  poolV4 : Prefix
  poolV6 : Prefix
  serverIP4 : Addr
  serverIP6 : Addr

structure ServerSettings extends ServerConfig where
  allowIP : String
  rateLimit : RateLimitConfig
  mptcp : Bool
  tunName : String
  sharedTUNQueues : Int
  nft : NFTConfig
  tproxy : TPROXYConfig

structure PoolFile where
  v4Subnet : String
  v6Subnet : String
  serverIP4 : String
  serverIP6 : String

structure UserFile where
  name : String
  publicKey : String
  maxConcurrent : Int
  reserved : List String

structure ForwardConfig where
  isolation : Bool
  masquerade : Bool
  tproxy : Bool
  metering : Bool
  tproxyListenPort : Int
  tproxyFwmark : UInt32
  tproxyTable : UInt32
  egressInterface : String
  tunMatch : String

structure NFTFileConfig where
  enabled : Option Bool
  tableName : String
  family : String

structure TPROXYFileConf where
  enabled : Option Bool
  listenAddr : String
  listenPort : Int
  udpIdleSecs : Int
  enforceIso : Option Bool

structure FileConfig where
  listen : String
  lanes : Int
  mptcp : Bool
  cipher : String
  vnetHdr : Option Bool
  allowIP : String
  tunName : String
  serverKey : String
  peerPubKey : String
  pool : PoolFile
  users : List UserFile
  rateLimit : RateLimitConfig
  forward : ForwardConfig
  nft : NFTFileConfig
  tproxy : TPROXYFileConf

inductive KeyError where
  | encoding (problem : String)
  | length (found : Nat)

inductive FileError where
  | serverKey (problem : KeyError)
  | peerKey (problem : KeyError)
  | unknownCipher (text : String)
  | v4Subnet (problem : String)
  | serverIP4
  | v6Subnet (problem : String)
  | serverIP6
  | userKey (index : Nat) (name : String) (problem : KeyError)
  | userKeyRequired (index : Nat) (name : String)
  | userReserved (name text problem : String)

def KeyError.message : KeyError → String
  | .encoding problem => "key: not valid base64 or hex: " ++ problem
  | .length found => "key: must be " ++ toString pubKeyLen ++ " bytes, got " ++ toString found

def FileError.message (go : GoLib) : FileError → String
  | .serverKey problem => "server_private_key: " ++ problem.message
  | .peerKey problem => "peer_public_key: " ++ problem.message
  | .unknownCipher text => "unknown cipher " ++ go.quote text ++ " (want none|aes-128-gcm|aes-256-gcm|chacha20)"
  | .v4Subnet problem => "pool.v4_subnet: " ++ problem
  | .serverIP4 => "pool.server_ip4: must be an IPv4 address"
  | .v6Subnet problem => "pool.v6_subnet: " ++ problem
  | .serverIP6 => "pool.server_ip6: must be an IPv6 address"
  | .userKey index name problem => "user " ++ toString index ++ " (" ++ go.quote name ++ "): " ++ problem.message
  | .userKeyRequired index name => "user " ++ toString index ++ " (" ++ go.quote name ++ "): public_key is required"
  | .userReserved name text problem => "user " ++ go.quote name ++ " reserved " ++ go.quote text ++ ": " ++ problem

def parseKey (go : GoLib) (text : String) : Except KeyError Bytes :=
  if text = "" then .ok []
  else
    match (go.decodeBase64 text).filter fun key => key.length == pubKeyLen with
    | some key => .ok key
    | none =>
        match go.decodeHex text with
        | .error problem => .error (.encoding problem)
        | .ok key => if key.length ≠ pubKeyLen then .error (.length key.length) else .ok key

theorem FileConfig.parse_key_given (go : GoLib) (text : String) (key : Bytes) (given : text ≠ "") (parsed : parseKey go text = .ok key) :
    key ≠ [] := by
  have long : key.length = pubKeyLen := by
    unfold parseKey at parsed
    rw [if_neg given] at parsed
    split at parsed
    · rename_i found decoded
      cases parsed
      exact beq_iff_eq.mp (Option.filter_eq_some_iff.mp decoded).2
    · split at parsed
      · cases parsed
      · split_ifs at parsed with wrong
        cases parsed
        exact not_not.mp wrong
  rintro rfl
  cases long

def parseCipher (text : String) : Except FileError Cipher :=
  if text ∈ ["", "none"] then .ok cipherNone
  else if text ∈ ["aes-gcm", "aes", "aes-128-gcm", "aes-128"] then .ok cipherAESGCM
  else if text ∈ ["aes-256-gcm", "aes-256"] then .ok cipherAES256GCM
  else if text ∈ ["chacha20", "chacha20-poly1305"] then .ok cipherChaCha
  else .error (.unknownCipher text)

def parseReserved (go : GoLib) (name : String) : List String → Except FileError (List Addr)
  | [] => .ok []
  | text :: rest =>
      ((go.parseAddr text).mapError (.userReserved name text)).bind fun addr =>
        (parseReserved go name rest).map (addr :: ·)

def UserFile.toUser (go : GoLib) (index : Nat) (u : UserFile) : Except FileError User :=
  ((parseKey go u.publicKey).mapError (.userKey index u.name)).bind fun pub =>
    if pub.isEmpty then .error (.userKeyRequired index u.name)
    else (parseReserved go u.name u.reserved).map fun reserved => ⟨u.name, pub, u.maxConcurrent, reserved⟩

def usersFrom (go : GoLib) : Nat → List UserFile → Except FileError (List User)
  | _, [] => .ok []
  | index, u :: rest => (u.toUser go index).bind fun user => (usersFrom go (index + 1) rest).map (user :: ·)

-- time.Duration(secs) * time.Second wraps at 64 bits.
def durationOfSeconds (secs : Int) : Int := (secs * 1000000000).bmod 18446744073709551616

namespace FileConfig

def toUsers (go : GoLib) (fc : FileConfig) : Except FileError (List User) := usersFrom go 0 fc.users

def cipherChoice (fc : FileConfig) : Except FileError Cipher :=
  if fc.cipher = "" then .ok cipherNone else parseCipher fc.cipher

def nftConfig (fc : FileConfig) (cfg : ServerSettings) : NFTConfig where
  enabled := fc.nft.enabled.getD (fc.forward.isolation || fc.forward.masquerade || fc.forward.tproxy || fc.forward.metering)
  family := fc.nft.family
  tableName := fc.nft.tableName
  tunMatch := fc.forward.tunMatch
  isolation := fc.forward.isolation
  masquerade := fc.forward.masquerade
  egressInterface := fc.forward.egressInterface
  tproxy := fc.forward.tproxy
  tproxyPort := fc.forward.tproxyListenPort
  tproxyMark := fc.forward.tproxyFwmark
  routeTable := fc.forward.tproxyTable
  ipv4 := cfg.subnet.isValid || (!cfg.subnet.isValid && !cfg.subnet6.isValid)
  ipv6 := cfg.subnet6.isValid
  serverIP4 := cfg.serverIP
  serverIP6 := cfg.serverIP6
  accounting := fc.forward.metering
  poolV4 := cfg.subnet
  poolV6 := cfg.subnet6

def tproxyConfig (fc : FileConfig) (cfg : ServerSettings) : TPROXYConfig where
  enabled := fc.tproxy.enabled.getD fc.forward.tproxy
  listenAddr := fc.tproxy.listenAddr
  listenPort := if fc.tproxy.listenPort ≠ 0 then fc.tproxy.listenPort else fc.forward.tproxyListenPort
  udpIdleTimeout := if fc.tproxy.udpIdleSecs > 0 then durationOfSeconds fc.tproxy.udpIdleSecs else 0
  enforceIsolation := fc.tproxy.enforceIso.getD fc.forward.isolation
  poolV4 := cfg.subnet
  poolV6 := cfg.subnet6
  serverIP4 := cfg.serverIP
  serverIP6 := cfg.serverIP6

def applyForward (fc : FileConfig) (cfg : ServerSettings) : ServerSettings :=
  { cfg with nft := fc.nftConfig cfg, tproxy := fc.tproxyConfig cfg }

-- The overlays that cannot fail. RateLimit is replaced whatever it held, and
-- vnet_hdr whenever the file gives it.
def applyPlain (fc : FileConfig) (cfg : ServerSettings) : ServerSettings :=
  { cfg with
    listen := if cfg.listen = "" then fc.listen else cfg.listen
    lanes := if cfg.lanes = 0 then fc.lanes else cfg.lanes
    mptcp := cfg.mptcp || fc.mptcp
    allowIP := if cfg.allowIP = "" then fc.allowIP else cfg.allowIP
    tunName := if cfg.tunName = "" then fc.tunName else cfg.tunName
    vnetHdr := fc.vnetHdr.getD cfg.vnetHdr
    rateLimit := fc.rateLimit }

def overlayKey (go : GoLib) (current : Bytes) (text : String) (wrap : KeyError → FileError) : Except FileError Bytes :=
  if current.isEmpty && text ≠ "" then (parseKey go text).mapError wrap else .ok current

def overlaySubnet (go : GoLib) (current : Prefix) (text : String) (wrap : String → FileError) : Except FileError Prefix :=
  if text ≠ "" then (go.parseSubnet text).mapError wrap else .ok current

def overlayServerIP (go : GoLib) (current : Addr) (text : String) (family : Addr → Bool) (refused : FileError) :
    Except FileError Addr :=
  if text ≠ "" then
    match go.parseAddr text with
    | .ok addr => if family addr then .ok addr else .error refused
    | .error _ => .error refused
  else .ok current

def overlayCipher (fc : FileConfig) (current : Cipher) : Except FileError Cipher :=
  if current = cipherNone then fc.cipherChoice else .ok current

def applyKeys (go : GoLib) (fc : FileConfig) (cfg : ServerSettings) : Except FileError ServerSettings :=
  (overlayKey go cfg.staticPrivateKey fc.serverKey .serverKey).bind fun static =>
    (overlayKey go cfg.peerPublicKey fc.peerPubKey .peerKey).bind fun peer =>
      (fc.overlayCipher cfg.cipher).map fun ciph =>
        { cfg with staticPrivateKey := static, peerPublicKey := peer, cipher := ciph }

def applyPool (go : GoLib) (fc : FileConfig) (cfg : ServerSettings) : Except FileError ServerSettings :=
  (overlaySubnet go cfg.subnet fc.pool.v4Subnet .v4Subnet).bind fun subnet =>
    (overlayServerIP go cfg.serverIP fc.pool.serverIP4 Addr.is4 .serverIP4).bind fun serverIP =>
      (overlaySubnet go cfg.subnet6 fc.pool.v6Subnet .v6Subnet).bind fun subnet6 =>
        (overlayServerIP go cfg.serverIP6 fc.pool.serverIP6 Addr.is6 .serverIP6).map fun serverIP6 =>
          { cfg with subnet := subnet, serverIP := serverIP, subnet6 := subnet6, serverIP6 := serverIP6 }

def applyUsers (go : GoLib) (fc : FileConfig) (cfg : ServerSettings) : Except FileError ServerSettings :=
  (fc.toUsers go).map fun users => { cfg with users := if users.isEmpty then cfg.users else users }

def applyServer (go : GoLib) (fc : FileConfig) (cfg : ServerSettings) : Except FileError ServerSettings :=
  (fc.applyKeys go (fc.applyPlain cfg)).bind fun keyed =>
    (fc.applyPool go keyed).bind fun pooled =>
      (fc.applyUsers go pooled).bind fun full => .ok (fc.applyForward full)

theorem apply_server_forward (go : GoLib) (fc : FileConfig) (base cfg : ServerSettings)
    (applied : fc.applyServer go base = .ok cfg) : cfg.nft = fc.nftConfig cfg ∧ cfg.tproxy = fc.tproxyConfig cfg := by
  obtain ⟨keyed, _, afterKeys⟩ := Outcomes.bind_ok applied
  obtain ⟨pooled, _, afterPool⟩ := Outcomes.bind_ok afterKeys
  obtain ⟨full, _, finished⟩ := Outcomes.bind_ok afterPool
  cases finished
  exact ⟨rfl, rfl⟩

end FileConfig

end Packethose
