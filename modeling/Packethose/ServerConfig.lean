import Packethose.PoolHistory

set_option autoImplicit false

namespace Packethose

abbrev Cipher := UInt8

def cipherNone : Cipher := 0
def cipherAESGCM : Cipher := 1
def cipherChaCha : Cipher := 2
def cipherAES256GCM : Cipher := 3

-- The fields of ServerConfig that Validate and the multi-client path read;
-- queues is the number of preconfigured single-client queues.
structure ServerConfig where
  listen : String
  lanes : Int
  queues : Nat
  staticPrivateKey : Bytes
  peerPublicKey : Bytes
  users : List User
  cipher : Cipher
  subnet : Prefix
  subnet6 : Prefix
  serverIP : Addr
  serverIP6 : Addr
  vnetHdr : Bool

inductive ConfigError where
  | listenRequired
  | staticKeyLength
  | multiClientKeys
  | serverIPFamily
  | serverIPOutside (ip : Addr) (subnet : Prefix)
  | serverIP6Family
  | serverIP6Outside (ip : Addr) (subnet : Prefix)
  | lanesTooFew
  | queueCount (found : Nat) (want : Int)
deriving DecidableEq, Repr

namespace ServerConfig

def keyed (c : ServerConfig) : Bool := !c.staticPrivateKey.isEmpty

def validateFamily (subnet : Prefix) (ip : Addr) (family : Addr → Bool) (wrongFamily outside : ConfigError) :
    Except ConfigError Unit :=
  if subnet.isValid then
    if !ip.isValid || !family ip then .error wrongFamily
    else if !subnet.contains ip then .error outside
    else .ok ()
  else .ok ()

def validateSubnet (c : ServerConfig) : Except ConfigError Unit :=
  validateFamily c.subnet c.serverIP Addr.is4 .serverIPFamily (.serverIPOutside c.serverIP c.subnet)

def validateSubnet6 (c : ServerConfig) : Except ConfigError Unit :=
  validateFamily c.subnet6 c.serverIP6 Addr.is6 .serverIP6Family (.serverIP6Outside c.serverIP6 c.subnet6)

def validate (c : ServerConfig) : Except ConfigError Unit :=
  if c.listen = "" then .error .listenRequired
  else if !c.staticPrivateKey.isEmpty && c.staticPrivateKey.length != pubKeyLen then .error .staticKeyLength
  else if c.subnet.isValid || c.subnet6.isValid then
    if !c.keyed || (c.peerPublicKey.isEmpty && c.users.isEmpty) then .error .multiClientKeys
    else c.validateSubnet.bind fun _ => c.validateSubnet6
  else if c.lanes < 1 then .error .lanesTooFew
  else if (c.queues : Int) ≠ c.lanes then .error (.queueCount c.queues c.lanes)
  else .ok ()

theorem validate_family_accepted (subnet : Prefix) (ip : Addr) (family : Addr → Bool)
    (wrongFamily outside : ConfigError) (multi : subnet.isValid = true)
    (accepted : validateFamily subnet ip family wrongFamily outside = .ok ()) :
    family ip = true ∧ subnet.contains ip = true := by
  unfold validateFamily at accepted
  rw [if_pos multi] at accepted
  split_ifs at accepted with wrong beyond
  simp only [Bool.or_eq_true, Bool.not_eq_true', not_or, Bool.not_eq_false] at wrong beyond
  exact ⟨wrong.2, beyond⟩

theorem validate_families (c : ServerConfig) (accepted : c.validate = .ok ())
    (multi : (c.subnet.isValid || c.subnet6.isValid) = true) :
    c.validateSubnet = .ok () ∧ c.validateSubnet6 = .ok () := by
  unfold validate at accepted
  rw [if_pos multi] at accepted
  split_ifs at accepted
  cases first : c.validateSubnet with
  | error problem => simp [first, Except.bind] at accepted
  | ok done => exact ⟨rfl, by simpa only [first, Except.bind] using accepted⟩

theorem valid_subnet (c : ServerConfig) (accepted : c.validate = .ok ()) (multi : c.subnet.isValid = true) :
    c.subnet.contains c.serverIP = true ∧ c.subnet.addr.is4 = true := by
  obtain ⟨four, inside⟩ :=
    validate_family_accepted _ _ _ _ _ multi (validate_families c accepted (by simp [multi])).1
  exact ⟨inside, (Prefix.contains_family c.subnet c.serverIP inside).2.1 ▸ four⟩

theorem valid_subnet6 (c : ServerConfig) (accepted : c.validate = .ok ()) (multi : c.subnet6.isValid = true) :
    c.subnet6.contains c.serverIP6 = true ∧ c.subnet6.addr.is6 = true := by
  obtain ⟨six, inside⟩ :=
    validate_family_accepted _ _ _ _ _ multi (validate_families c accepted (by simp [multi])).2
  exact ⟨inside, (Prefix.contains_family c.subnet6 c.serverIP6 inside).2.2 ▸ six⟩

-- The pools Server.Run opens. The reservation lists are AllReservations of
-- the users known at startup, in whatever order the maps were iterated.
def newFamilyPool (subnet : Prefix) (ip : Addr) (reservations : List Addr) : Except PoolError (Option IPPool) :=
  if subnet.isValid then (newIPPool subnet (ip :: reservations)).map some else .ok none

def newPool4 (c : ServerConfig) (resV4 : List Addr) : Except PoolError (Option IPPool) :=
  newFamilyPool c.subnet c.serverIP resV4

def newPool6 (c : ServerConfig) (resV6 : List Addr) : Except PoolError (Option IPPool) :=
  newFamilyPool c.subnet6 c.serverIP6 resV6

theorem new_family_pool_built (subnet : Prefix) (ip : Addr) (reservations : List Addr) (p : IPPool)
    (built : newFamilyPool subnet ip reservations = .ok (some p)) :
    subnet.isValid = true ∧ newIPPool subnet (ip :: reservations) = .ok p := by
  unfold newFamilyPool at built
  split_ifs at built with multi
  · refine ⟨multi, ?_⟩
    cases outcome : newIPPool subnet (ip :: reservations) with
    | error problem => simp [outcome, Except.map] at built
    | ok made => simpa [outcome, Except.map] using built
  · cases built

end ServerConfig

end Packethose
