import Packethose.ServerConfig

set_option autoImplicit false

namespace Packethose

theorem reserve_valid_flag (table : Table Addr Bool) (reserved : List Addr) (a : Addr) :
    (reserveValid table reserved).flag a = true ↔ table.flag a = true ∨ (a ∈ reserved ∧ a.isValid = true) := by
  unfold reserveValid
  induction reserved generalizing table with
  | nil => simp
  | cons r rest ih =>
      rw [List.foldl_cons, ih]
      by_cases valid : r.isValid = true
      · rw [if_pos valid, Table.flag_put]
        constructor
        · rintro ((rfl | before) | later)
          · exact .inr ⟨by simp, valid⟩
          · exact .inl before
          · exact .inr ⟨by simp [later.1], later.2⟩
        · rintro (before | ⟨member, good⟩)
          · exact .inl (.inr before)
          · rcases List.mem_cons.mp member with same | inside
            · exact .inl (.inl same)
            · exact .inr ⟨inside, good⟩
      · rw [if_neg valid]
        constructor
        · rintro (before | later)
          · exact .inl before
          · exact .inr ⟨by simp [later.1], later.2⟩
        · rintro (before | ⟨member, good⟩)
          · exact .inl before
          · rcases List.mem_cons.mp member with same | inside
            · exact absurd (same ▸ good) valid
            · exact .inr ⟨inside, good⟩

theorem owner_reserved (db : UserDB) (a : Addr) (owned : db.reservationOwner a ≠ "") :
    a.isValid = true ∧ ((a.is4 = true ∧ a ∈ db.allReservations.1) ∨ (a.is4 = false ∧ a ∈ db.allReservations.2)) := by
  unfold UserDB.reservationOwner at owned
  by_cases valid : a.isValid = false
  · simp [valid] at owned
  · rw [if_neg valid] at owned
    refine ⟨by simpa using valid, ?_⟩
    by_cases four : a.is4 = true
    · rw [if_pos four] at owned
      cases stored : db.resV4.lookup a with
      | none => simp [stored] at owned
      | some name => exact .inl ⟨four, AList.mem_keys.mp (AList.lookup_isSome.mp (by simp [stored]))⟩
    · rw [if_neg four] at owned
      cases stored : db.resV6.lookup a with
      | none => simp [stored] at owned
      | some name =>
          exact .inr ⟨by simpa using four, AList.mem_keys.mp (AList.lookup_isSome.mp (by simp [stored]))⟩

namespace IPPool

def CoversReservations (p : IPPool) (db : UserDB) : Prop :=
  ∀ a, p.subnet.contains a = true → db.reservationOwner a ≠ "" → p.reserved.flag a = true

theorem server_pool_covers (c : ServerConfig) (valid : c.validate = .ok ()) (db : UserDB) (resV4 resV6 : List Addr)
    (order4 : resV4.Perm db.allReservations.1) (order6 : resV6.Perm db.allReservations.2) (p : IPPool)
    (built : c.newPool4 resV4 = .ok (some p) ∨ c.newPool6 resV6 = .ok (some p)) : p.CoversReservations db := by
  intro a inside owned
  obtain ⟨good, listed⟩ := owner_reserved db a owned
  rcases built with built | built
  · obtain ⟨multi, made⟩ := ServerConfig.new_family_pool_built _ _ _ p built
    obtain ⟨subnet, reserved, _, _⟩ := new_ip_pool_fields _ _ p made
    rw [subnet, Prefix.masked_contains] at inside
    have four : a.is4 = true :=
      (Prefix.contains_family c.subnet a inside).2.1.trans (ServerConfig.valid_subnet c valid multi).2
    rw [reserved, reserve_valid_flag]
    rcases listed with ⟨_, member⟩ | ⟨notFour, _⟩
    · exact .inr ⟨List.mem_cons_of_mem _ (order4.mem_iff.mpr member), good⟩
    · rw [four] at notFour
      cases notFour
  · obtain ⟨multi, made⟩ := ServerConfig.new_family_pool_built _ _ _ p built
    obtain ⟨subnet, reserved, _, _⟩ := new_ip_pool_fields _ _ p made
    rw [subnet, Prefix.masked_contains] at inside
    have six : a.is6 = true :=
      (Prefix.contains_family c.subnet6 a inside).2.2.trans (ServerConfig.valid_subnet6 c valid multi).2
    rw [reserved, reserve_valid_flag]
    rcases listed with ⟨four, _⟩ | ⟨_, member⟩
    · cases a <;> simp [Addr.is4, Addr.is6] at four six
    · exact .inr ⟨List.mem_cons_of_mem _ (order6.mem_iff.mpr member), good⟩

def OwnName (nameOf : ClientID → String) (db : UserDB) (_ : IPPool) (request : PoolCall) : Prop :=
  (∃ clientID preferred, request = .allocateFor (nameOf clientID) clientID preferred (some db)) ∨
    ∃ clientID, request = .release clientID

def HoldersOwn (nameOf : ClientID → String) (db : UserDB) (p : IPPool) : Prop :=
  ∀ clientID a, p.byClient.lookup clientID = some a → db.reservationOwner a ≠ "" →
    nameOf clientID = db.reservationOwner a

theorem chosen_own (sha256 : Digest) (p : IPPool) (userName : String) (clientID : ClientID) (preferred a : Addr)
    (db : UserDB) (good : UserDB.Consistent db) (covers : p.CoversReservations db)
    (chosen : p.choose sha256 userName clientID preferred (some db) = some (.ok a))
    (owned : db.reservationOwner a ≠ "") : userName = db.reservationOwner a := by
  obtain ⟨grantable, origin⟩ := choose_origin sha256 p userName clientID preferred (some db) a chosen
  rcases origin with ⟨rfl, granted⟩ | ⟨users, same, _, listed⟩ | unreserved
  · simp only [preferredGranted, otherUserReserved, Bool.and_eq_true, Bool.not_eq_true', Bool.and_eq_false_iff,
      bne_eq_false_iff_eq] at granted
    rcases granted.1.2 with none | own
    · exact absurd none owned
    · exact own.symm
  · cases same
    unfold UserDB.reservedFor at listed
    cases found : db.byName.lookup userName with
    | none => simp [found] at listed
    | some entry =>
        rw [found] at listed
        exact (good.owned userName entry found a listed).symm
  · rw [covers a grantable.inside owned] at unreserved
    cases unreserved

theorem holders_own_preserved (sha256 : Digest) (nameOf : ClientID → String) (db : UserDB)
    (good : UserDB.Consistent db) :
    Runs.Preserved (IPPool.call sha256) (OwnName nameOf db)
      (fun p => p.HoldersOwn nameOf db ∧ p.CoversReservations db) := by
  rintro p request next ⟨own, covers⟩ permitted done
  obtain ⟨sameSubnet, sameReserved, _⟩ := call_fixed sha256 p next request done
  refine ⟨?_, by rw [CoversReservations, sameSubnet, sameReserved]; exact covers⟩
  rcases call_cases sha256 p next request done with
    rfl | ⟨userName, clientID, preferred, used, a, _, chosen, source, rfl⟩ | ⟨_, _, rfl, _⟩ | ⟨clientID, rfl, rfl⟩
  · exact own
  · have named : userName = nameOf clientID ∧ used = some db := by
      rcases source with rfl | ⟨rfl, _, _⟩ <;> rcases permitted with ⟨_, _, same⟩ | ⟨_, same⟩ <;> cases same
      exact ⟨rfl, rfl⟩
    obtain ⟨rfl, rfl⟩ := named
    intro holder held heldBy owned
    rcases record_row p clientID holder a held heldBy with ⟨rfl, rfl⟩ | before
    · exact chosen_own sha256 p _ holder preferred held db good covers chosen owned
    · exact own holder held before owned
  · rcases permitted with ⟨_, _, same⟩ | ⟨_, same⟩ <;> cases same
  · exact fun holder held heldBy owned => own holder held (release_row p clientID holder held heldBy) owned

theorem reservations_exclusive (sha256 : Digest) (c : ServerConfig) (valid : c.validate = .ok ()) (users : List User)
    (db : UserDB) (accepted : UserDB.newUserDB users = .ok db) (resV4 resV6 : List Addr)
    (order4 : resV4.Perm db.allReservations.1) (order6 : resV6.Perm db.allReservations.2) (fresh p : IPPool)
    (built : c.newPool4 resV4 = .ok (some fresh) ∨ c.newPool6 resV6 = .ok (some fresh))
    (nameOf : ClientID → String) (trace : List (IPPool × PoolCall))
    (run : Runs.Run (IPPool.call sha256) fresh trace p) (calls : Runs.Allowed (OwnName nameOf db) trace) :
    ∀ clientID a, p.byClient.lookup clientID = some a → ∀ u ≠ "", db.reservationOwner a = u → nameOf clientID = u := by
  have untouched : fresh.byClient = ∅ := by
    rcases built with built | built
    · exact (new_ip_pool_fields _ _ fresh (ServerConfig.new_family_pool_built _ _ _ fresh built).2).2.2.2
    · exact (new_ip_pool_fields _ _ fresh (ServerConfig.new_family_pool_built _ _ _ fresh built).2).2.2.2
  have start : fresh.HoldersOwn nameOf db := by
    intro clientID a held
    simp [untouched] at held
  obtain ⟨own, _⟩ := (Runs.run_invariant
    (holders_own_preserved sha256 nameOf db (UserDB.new_user_db_consistent users db accepted)) run calls
    ⟨start, server_pool_covers c valid db resV4 resV6 order4 order6 fresh built⟩).1
  intro clientID a held u named owner
  subst owner
  exact own clientID a held named

end IPPool

def aliceUser : User := ⟨"alice", List.replicate 32 0xAA, 0, [.v4 #v[10, 66, 0, 5]]⟩
def bobUser : User := ⟨"bob", List.replicate 32 0xBB, 0, []⟩

def aliceDB : UserDB where
  byKey := ((∅ : Table Bytes User).insert aliceUser.publicKey aliceUser).insert bobUser.publicKey bobUser
  byName := ((∅ : Table String UserEntry).insert "alice" ⟨aliceUser, 0⟩).insert "bob" ⟨bobUser, 0⟩
  resV4 := (∅ : Table Addr String).insert (.v4 #v[10, 66, 0, 5]) "alice"
  resV6 := ∅

def aliceConfig : ServerConfig where
  listen := "0.0.0.0:4500"
  lanes := 0
  queues := 0
  staticPrivateKey := List.replicate 32 1
  peerPublicKey := []
  users := [aliceUser, bobUser]
  cipher := cipherAESGCM
  subnet := tunnelNet 24
  subnet6 := .invalid
  serverIP := tunnelAddr 1
  serverIP6 := .zero
  vnetHdr := false

def alicePool : IPPool where
  subnet := tunnelNet 24
  reserved := reserveValid (baseReserved (tunnelNet 24)) [tunnelAddr 1, tunnelAddr 5]
  isV4 := true
  used := ∅
  byClient := ∅
  shape := .v4 _ _ (by decide)

theorem reservations_exclusive_bob_first :
    let bobHolds := alicePool.record clientB (.v4 #v[10, 66, 0, 2])
    let bothHold := bobHolds.record clientA (.v4 #v[10, 66, 0, 5])
    aliceConfig.newPool4 [.v4 #v[10, 66, 0, 5]] = .ok (some alicePool) ∧
      (∀ clientID, bothHold.byClient.lookup clientID = some (.v4 #v[10, 66, 0, 5]) →
        (if clientID = clientA then "alice" else "bob") = "alice") := by
  intro bobHolds bothHold
  have run : Runs.Run (IPPool.call zeroDigest) alicePool
      [(alicePool, .allocateFor "bob" clientB (.v4 #v[10, 66, 0, 5]) (some aliceDB)),
        (bobHolds, .allocateFor "alice" clientA .zero (some aliceDB))] bothHold :=
    .cons _ bobHolds _ _ _ rfl (.cons _ bothHold _ _ _ rfl (.nil _))
  have calls : Runs.Allowed (IPPool.OwnName (fun clientID => if clientID = clientA then "alice" else "bob") aliceDB)
      [(alicePool, .allocateFor "bob" clientB (.v4 #v[10, 66, 0, 5]) (some aliceDB)),
        (bobHolds, .allocateFor "alice" clientA .zero (some aliceDB))] := by
    intro entry member
    rcases List.mem_cons.mp member with rfl | rest
    · exact .inl ⟨clientB, _, rfl⟩
    · rw [List.mem_singleton.mp rest]
      exact .inl ⟨clientA, _, rfl⟩
  refine ⟨rfl, fun clientID held => ?_⟩
  exact IPPool.reservations_exclusive zeroDigest aliceConfig rfl [aliceUser, bobUser] aliceDB rfl
    [.v4 #v[10, 66, 0, 5]] [] (List.Perm.refl _) (List.Perm.refl _) alicePool bothHold (.inl rfl) _ _ run calls
    clientID _ held "alice" (by decide) rfl

end Packethose
