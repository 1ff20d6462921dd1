import Packethose.Lib.Outcomes
import Packethose.AnnouncedRows

set_option autoImplicit false

namespace Packethose

namespace MCState

def Split (st : MCState) : Prop := ∀ family p, st.pool family = some p → p.isV4 = decide (family = .v4)

def Listed (st : MCState) : Prop :=
  ∀ clientID ref o, st.sessions.lookup clientID = some ref → st.owner ref = some o →
    ∀ family, (o.assigned family).isValid = true → st.ipIndex.lookup (o.assigned family) = some ref

structure Filed (st : MCState) : Prop where
  kept : st.PoolsKept
  split : st.Split
  rowed : st.Rowed
  listed : st.Listed

section Rows

variable (env : Env) (st next : MCState)

theorem row_held (family : Family) (clientID : ClientID) (valid : (st.row family clientID).isValid = true) :
    ∃ p, st.pool family = some p ∧ p.byClient.lookup clientID = some (st.row family clientID) := by
  unfold row at valid ⊢
  cases pooled : st.pool family with
  | none =>
      rw [pooled] at valid
      cases valid
  | some p =>
      refine ⟨p, rfl, ?_⟩
      rw [pooled, Option.bind_some] at valid
      rw [Option.bind_some]
      cases held : p.byClient.lookup clientID with
      | none =>
          rw [held] at valid
          cases valid
      | some addr => rfl

theorem row_family (kept : st.PoolsKept) (split : st.Split) (family : Family) (clientID : ClientID)
    (valid : (st.row family clientID).isValid = true) : (st.row family clientID).is4 = decide (family = .v4) := by
  obtain ⟨p, pooled, held⟩ := row_held st family clientID valid
  obtain ⟨ledger, holding⟩ := kept.2 family
  have covers := holding.covers p pooled
  have inside := covers.inside _ ⟨clientID, (covers.holds clientID).symm.trans held⟩
  have matched := IPPool.inside_family p _ inside
  rw [← split family p pooled]
  unfold IPPool.familyMatch at matched
  split_ifs at matched with invalid four
  · rw [matched, four]
  · have six : p.isV4 = false := Bool.not_eq_true _ ▸ four
    rw [six]
    generalize st.row family clientID = addr at matched
    cases addr <;> first | rfl | cases matched

theorem row_unique (kept : st.PoolsKept) (split : st.Split) (first second : Family) (one two : ClientID)
    (valid : (st.row first one).isValid = true) (same : st.row first one = st.row second two) : one = two := by
  have fourFirst := row_family st kept split first one valid
  have fourSecond := row_family st kept split second two (same ▸ valid)
  obtain rfl : first = second := by
    rw [same, fourSecond] at fourFirst
    cases first <;> cases second <;> first | rfl | cases fourFirst
  obtain ⟨p, pooled, held⟩ := row_held st first one valid
  obtain ⟨q, pooled', held'⟩ := row_held st first two (same ▸ valid)
  obtain rfl : p = q := Option.some.inj (pooled.symm.trans pooled')
  obtain ⟨ledger, holding⟩ := kept.2 first
  have covers := holding.covers p pooled
  rw [covers.holds] at held held'
  exact ledger.exclusive one two _ held (same ▸ held')

theorem steady_undisturbed (action : Action) (steady : st.Steady env action) (kept : st.PoolsKept) (rowed : st.Rowed) :
    st.Undisturbed action := by
  cases action with
  | acquire conn now =>
      intro ident reached absent family p pooled valid other held
      obtain ⟨entry, found, admitted⟩ := point_of_some st conn _ reached
      have told : ident.assigned family = st.row family ident.clientID :=
        (rowed.conns entry (List.mem_of_getElem? found)).2 family ident.clientID _ (by rw [admitted]; rfl)
      obtain ⟨q, pooled', own⟩ := row_held st family ident.clientID (told ▸ valid)
      obtain rfl : p = q := Option.some.inj (pooled.symm.trans pooled')
      obtain ⟨ledger, holding⟩ := kept.2 family
      have covers := holding.covers p pooled
      rw [covers.holds] at held own
      exact ledger.exclusive other ident.clientID _ held (told ▸ own)
  | quotaRelease conn =>
      intro clientID reached
      simp only [Steady, reached] at steady
      exact steady.1
  | tearDown ref =>
      intro s stored unclosed
      simp only [Steady, stored] at steady
      exact (steady unclosed).1
  | _ => trivial

theorem effect_split (action : Action) (effect : Effect env st action next) (split : st.Split) : next.Split := by
  intro family p pooled
  have effects := effect_pool env st next action effect family
  rw [pooled] at effects
  have fixed : ∀ before request, st.pool family = some before → before.call env.sha256 request = some p →
      p.isV4 = decide (family = .v4) := fun before request stored done =>
    (IPPool.call_fixed env.sha256 before p request done).2.2.trans (split family before stored)
  cases effects with
  | same kept => exact split family p kept.symm
  | allocated conn entry hello db asg before changed result actor found assigning stored called pool =>
      cases pool
      exact fixed before (.allocateFor hello.userName hello.clientID (hello.request.wanted family) db) stored
        (by simp [IPPool.call, called])
  | claimed conn entry ident actor found admitted pool =>
      obtain ⟨before, stored, rfl⟩ := Option.map_eq_some_iff.mp pool.symm
      exact fixed before (.claim ident.clientID (ident.assigned family)) stored rfl
  | freed clientID frees pool =>
      obtain ⟨before, stored, rfl⟩ := Option.map_eq_some_iff.mp pool.symm
      exact fixed before (.release clientID) stored rfl

theorem listed_frame (listed : st.Listed) (ipIndex : next.ipIndex = st.ipIndex) (sessions : next.sessions = st.sessions)
    (owner : next.owner = st.owner) : next.Listed := by
  unfold Listed
  rw [ipIndex, sessions, owner]
  exact listed

theorem listed_opened (conn now : Nat) (entry : Conn) (ident : LaneIdentity) (db : Option UserDB)
    (found : st.conns[conn]? = some entry) (admitted : entry.point = .admitted ident) (filed : st.Filed) :
    ((st.openSession ident db now).setPoint conn (.joining st.heap.length)).Listed := by
  obtain ⟨owners, _⟩ := filed.kept
  have told : ∀ family, ident.assigned family = st.row family ident.clientID := fun family =>
    (filed.rowed.conns entry (List.mem_of_getElem? found)).2 family ident.clientID _ (by rw [admitted]; rfl)
  intro clientID ref o live owned family valid
  change (st.openSession ident db now).sessions.lookup clientID = some ref at live
  change (st.openSession ident db now).owner ref = some o at owned
  change (st.openSession ident db now).ipIndex.lookup (o.assigned family) = some ref
  rw [(open_session_frame st ident db now).2.1, Table.lookup_put] at live
  rw [open_session_owner] at owned
  simp only [openSession, register_index]
  split_ifs at live with same
  · obtain rfl := Option.some.inj live
    rw [if_pos rfl] at owned
    obtain rfl := Option.some.inj owned
    cases family with
    | v4 =>
        split_ifs with last first
        · rfl
        · rfl
        · exact absurd ⟨valid, rfl⟩ first
    | v6 => rw [if_pos ⟨valid, rfl⟩]
  · obtain ⟨before, stored, _⟩ := owners clientID ref live
    rw [if_neg (owner_older st ref before stored)] at owned
    have mine := filed.rowed.live clientID ref o live owned family
    -- The new session's addresses are on file for another client.
    have apart : ∀ other, o.assigned family ≠ ident.assigned other := by
      intro other equal
      rw [told other] at equal
      exact same (row_unique st filed.kept filed.split family other clientID ident.clientID (mine ▸ valid) (mine ▸ equal))
    rw [if_neg fun both => apart .v6 both.2, if_neg fun both => apart .v4 both.2]
    exact filed.listed clientID ref o live owned family valid

theorem listed_collected (now : Nat) (filed : st.Filed) : (st.collect now).Listed := by
  intro clientID ref o live owned family valid
  rw [collect, Table.lookup_drop_all] at live
  split_ifs at live with victim
  have mine := filed.rowed.live clientID ref o live owned family
  rw [collect, Table.lookup_drop_all, if_neg]
  · exact filed.listed clientID ref o live owned family valid
  · intro dropped
    obtain ⟨gone, chosen, listed⟩ := List.mem_flatMap.mp dropped
    have stale := (Table.mem_rows st.sessions gone.1 gone.2).mp (List.mem_of_mem_filter chosen)
    obtain ⟨o', owned', _⟩ := filed.kept.1 gone.1 gone.2 stale
    have other : ∃ family', o.assigned family = o'.assigned family' := by
      obtain ⟨s, stored, _, first, second⟩ := owner_session st gone.2 o' owned'
      rw [indexedAddrs, stored] at listed
      rcases List.mem_cons.mp (List.mem_of_mem_filter listed) with equal | rest
      · exact ⟨.v4, equal.trans first⟩
      · exact ⟨.v6, (List.mem_singleton.mp rest).trans second⟩
    obtain ⟨family', equal⟩ := other
    have theirs := filed.rowed.live gone.1 gone.2 o' stale owned' family'
    have same := row_unique st filed.kept filed.split family family' clientID gone.1 (mine ▸ valid)
      (mine.symm.trans (equal.trans theirs))
    exact victim (List.mem_map.mpr ⟨gone, chosen, same.symm⟩)

theorem effect_listed (action : Action) (effect : Effect env st action next) (filed : st.Filed) : next.Listed := by
  cases effect with
  | opened conn now entry ident db found admitted absent slot =>
      exact listed_opened st conn now entry ident db found admitted filed
  | collected now => exact listed_collected st now filed
  | cleared => exact fun clientID ref o live => absurd live (by simp [tearDownAll])
  | allocated _ _ family => cases family <;> exact listed_frame st _ filed.listed rfl rfl rfl
  | laned _ conn entry ref s change _ found stored changed =>
      obtain ⟨_, _, sessions, ipIndex, _⟩ := lane_change_frame st conn ref s action entry.point change next changed
      exact listed_frame st next filed.listed ipIndex sessions
        (lane_change_owner st conn ref s action entry.point change next changed)
  | torn ref => exact listed_frame st _ filed.listed rfl rfl (set_session_owner (st.forget ref) ref _ fun _ => rfl)
  | queued reader packet ref =>
      exact listed_frame st _ filed.listed rfl rfl (set_session_owner (st.setReader reader none) ref _ fun _ => rfl)
  | accepted | moved | released | tornAgain | reloaded | unreloaded | ignored | matched | dropped =>
      exact listed_frame st _ filed.listed rfl rfl rfl

theorem filed_step (env : Env) : Runs.Preserved (step env) (Steady env) Filed := by
  intro st action next filed steady taken
  have effect := step_effect env st next action taken
  exact ⟨pools_kept_preserved env st action next filed.kept (steady_undisturbed env st action steady filed.kept filed.rowed) taken,
    effect_split env st next action effect filed.split,
    effect_rowed env st next action effect steady filed.kept.1 filed.rowed,
    effect_listed env st next action effect filed⟩

theorem new_pool_family (subnet : Prefix) (ip : Addr) (reservations : List Addr) (pool : Option IPPool)
    (built : ServerConfig.newFamilyPool subnet ip reservations = .ok pool) (p : IPPool) (present : pool = some p) :
    subnet.isValid = true ∧ p.isV4 = subnet.addr.is4 := by
  obtain ⟨valid, made⟩ := ServerConfig.new_family_pool_built subnet ip reservations p (present ▸ built)
  refine ⟨valid, ?_⟩
  unfold newIPPool at made
  split_ifs at made
  cases made
  cases subnet <;> rfl

theorem started_filed (valid : env.cfg.validate = .ok ()) (started : Started env st) : Filed st := by
  refine ⟨started_pools_kept env st started, ?_, ?_, ?_⟩
  · obtain ⟨_, ⟨reserved4, built4⟩, reserved6, built6⟩ := started
    intro family p pooled
    cases family with
    | v4 =>
        obtain ⟨multi, four⟩ := new_pool_family _ _ _ _ built4 p pooled
        rw [four, (env.cfg.valid_subnet valid multi).2]
        rfl
    | v6 =>
        obtain ⟨multi, four⟩ := new_pool_family _ _ _ _ built6 p pooled
        have six := (env.cfg.valid_subnet6 valid multi).2
        rw [four]
        generalize env.cfg.subnet6.addr = addr at six
        cases addr <;> first | rfl | cases six
  · obtain ⟨⟨pool4, pool6, userDB, queues, rfl⟩, _⟩ := started
    exact ⟨fun entry member => absurd member (by simp [start]), fun clientID ref o live => absurd live (by simp [start])⟩
  · obtain ⟨⟨pool4, pool6, userDB, queues, rfl⟩, _⟩ := started
    exact fun clientID ref o live => absurd live (by simp [start])

theorem set_point_point (conn other : Nat) (point : ConnPoint) (before : MCState) (same : before.conns = st.conns) :
    (before.setPoint conn point).pointOf other = (st.pointOf other).map fun old => if conn = other then point else old := by
  rw [pointOf, set_point_conns, same, pointOf, Option.map_map, Option.map_map]
  congr 1
  funext entry
  by_cases here : conn = other <;> simp [here]

inductive Joins (action : Action) (conn : Nat) (ref : SessionRef) : Prop where
  | already (joining : st.pointOf conn = some (.joining ref))
  | joined (ident : LaneIdentity) (actor : action.conn = some conn) (admitted : st.pointOf conn = some (.admitted ident))
      (before : st.sessions.lookup ident.clientID = some ref) (live : next.sessions.lookup ident.clientID = some ref)
  | opened (ident : LaneIdentity) (actor : action.conn = some conn) (admitted : st.pointOf conn = some (.admitted ident))
      (live : next.sessions.lookup ident.clientID = some ref)
      (owned : next.owner ref = some ⟨ident.clientID, ident.assigned4, ident.assigned6⟩)

theorem effect_joins (action : Action) (effect : Effect env st action next) (conn : Nat) (ref : SessionRef)
    (joining : next.pointOf conn = some (.joining ref)) : Joins st next action conn ref := by
  have pointed : ∀ (before : MCState) (other : Nat) (point : ConnPoint), before.conns = st.conns →
      (before.setPoint other point).pointOf conn = some (.joining ref) →
      st.pointOf conn = some (.joining ref) ∨ (other = conn ∧ point = .joining ref) := by
    intro before other point same found
    rw [set_point_point st other conn point before same] at found
    obtain ⟨old, reached, changed⟩ := Option.map_eq_some_iff.mp found
    split_ifs at changed with here
    · exact .inr ⟨here, changed⟩
    · exact .inl (changed ▸ reached)
  cases effect with
  | accepted input =>
      refine .already ?_
      rw [pointOf, accept, List.getElem?_append] at joining
      split_ifs at joining with inside
      · exact joining
      · obtain ⟨entry, found, point⟩ := Option.map_eq_some_iff.mp joining
        rw [List.mem_singleton.mp (List.mem_of_getElem? found)] at point
        cases point
  | moved _ other entry point actor found moves =>
      rcases pointed st other point rfl joining with before | ⟨rfl, rfl⟩
      · exact .already before
      · have reached : st.pointOf other = some entry.point := by rw [pointOf, found]; rfl
        generalize entry.point = old at moves reached
        cases moves with
        | joined ident _ live => exact .joined ident actor reached live live
  | allocated other entry called hello db asg p changed result found assigning pooled allocated =>
      rcases pointed ((st.noteAllocation other hello).setPool (some changed) called) other _ (by cases called <;> rfl) joining with
        before | ⟨_, impossible⟩
      · exact .already before
      · cases called <;> cases impossible
  | released _ other entry clientID actor found releasing =>
      rcases pointed (st.releaseAll clientID) other .closed rfl joining with before | ⟨_, impossible⟩
      · exact .already before
      · cases impossible
  | opened other now entry ident db found admitted absent slot =>
      obtain ⟨_, sessions, conns, _⟩ := open_session_frame st ident db now
      rcases pointed (st.openSession ident db now) other _ conns joining with before | ⟨rfl, same⟩
      · exact .already before
      · obtain rfl := ConnPoint.joining.inj same
        refine .opened ident rfl (by rw [pointOf, found, ← admitted]; rfl) ?_ ?_
        · change (st.openSession ident db now).sessions.lookup ident.clientID = some st.heap.length
          rw [sessions, Table.lookup_put, if_pos rfl]
        · exact (open_session_owner st ident db now st.heap.length).trans (if_pos rfl)
  | laned _ other entry target s change _ found stored changed =>
      refine .already ?_
      generalize entry.point = old at changed
      cases changed with
      | attach =>
          rcases pointed (st.setSession target _) other _ rfl joining with before | ⟨_, impossible⟩
          · exact before
          · cases impossible
      | laneRead => exact joining
      | detach =>
          rcases pointed (st.setSession target _) other _ rfl joining with before | ⟨_, impossible⟩
          · exact before
          · cases impossible
  | collected | cleared | tornAgain | torn | reloaded | unreloaded | ignored | matched | queued | dropped =>
      exact .already joining

theorem effect_joined_live (action : Action) (effect : Effect env st action next) (steady : st.Steady env action) (conn : Nat)
    (ref : SessionRef) (clientID : ClientID) (joining : st.pointOf conn = some (.joining ref))
    (live : st.sessions.lookup clientID = some ref) : next.sessions.lookup clientID = some ref := by
  obtain ⟨entry, found, point⟩ := point_of_some st conn _ joining
  have member := List.mem_of_getElem? found
  have joins : entry.point.joins ref = true := by rw [point]; simp [ConnPoint.joins]
  have listed := (Table.mem_rows st.sessions clientID ref).mpr live
  cases effect with
  | opened other now owner ident db _ admitted absent slot =>
      change (st.openSession ident db now).sessions.lookup clientID = some ref
      rw [(open_session_frame st ident db now).2.1, Table.lookup_put, if_neg, live]
      rintro rfl
      rw [absent] at live
      cases live
  | collected now =>
      rw [collect, Table.lookup_drop_all, if_neg, live]
      intro victim
      obtain ⟨row, chosen, rfl⟩ := List.mem_map.mp victim
      obtain ⟨rowed, stale⟩ := List.mem_filter.mp chosen
      have same : row.2 = ref := Option.some.inj (((Table.mem_rows _ _ _).mp rowed).symm.trans live)
      have apart := steady row rowed stale entry member
      rw [same, joins] at apart
      cases apart
  | cleared =>
      have apart := steady (clientID, ref) listed entry member
      rw [joins] at apart
      cases apart
  | allocated _ _ called => cases called <;> exact live
  | laned _ other owner target s change _ _ stored changed =>
      rw [(lane_change_frame st other target s action owner.point change next changed).2.2.1]
      exact live
  | accepted | moved | released | tornAgain | torn | reloaded | unreloaded | ignored | matched | queued | dropped => exact live

end Rows

end MCState

-- The server with the identity each connection took to acquireSession, which
-- is what message 2 announced. Only acquireSession leads on from admitted.
structure AnnouncedState where
  server : MCState
  announced : Table Nat LaneIdentity

namespace AnnouncedState

def note (q : AnnouncedState) (action : Action) : Table Nat LaneIdentity :=
  match action.conn with
  | none => q.announced
  | some conn =>
      match q.server.pointOf conn with
      | some (.admitted ident) => q.announced.insert conn ident
      | _ => q.announced

def step (env : Env) (q : AnnouncedState) (action : Action) : Option AnnouncedState :=
  (q.server.step env action).map fun next => ⟨next, q.note action⟩

def start (initial : MCState) : AnnouncedState := ⟨initial, ∅⟩

def Steady (env : Env) (q : AnnouncedState) (action : Action) : Prop := q.server.Steady env action

instance (env : Env) (q : AnnouncedState) (action : Action) : Decidable (q.Steady env action) := by
  unfold Steady
  infer_instance

def Joined (q : AnnouncedState) : Prop :=
  ∀ conn ref, q.server.pointOf conn = some (.joining ref) →
    ∃ ident o, q.announced.lookup conn = some ident ∧ q.server.sessions.lookup ident.clientID = some ref ∧
      q.server.owner ref = some o ∧ ∀ family, ident.assigned family = o.assigned family

theorem note_kept (q : AnnouncedState) (action : Action) (conn : Nat) (ref : SessionRef)
    (joining : q.server.pointOf conn = some (.joining ref)) :
    (q.note action).lookup conn = q.announced.lookup conn := by
  unfold note
  split
  · rfl
  · rename_i other acts
    split
    · rename_i ident admitted
      rw [Table.lookup_put, if_neg]
      rintro rfl
      rw [joining] at admitted
      cases admitted
    · rfl

theorem note_taken (q : AnnouncedState) (action : Action) (conn : Nat) (ident : LaneIdentity) (actor : action.conn = some conn)
    (admitted : q.server.pointOf conn = some (.admitted ident)) : (q.note action).lookup conn = some ident := by
  simp [note, actor, admitted]

theorem joined_step (env : Env) :
    Runs.Preserved (step env) (Steady env) (fun q => q.server.Filed ∧ q.Joined) := by
  intro q action after both steady taken
  obtain ⟨filed, joined⟩ := both
  obtain ⟨next, stepped, rfl⟩ := Option.map_eq_some_iff.mp taken
  refine ⟨MCState.filed_step env q.server action next filed steady stepped, ?_⟩
  have effect := MCState.step_effect env q.server next action stepped
  intro conn ref joining
  cases MCState.effect_joins env q.server next action effect conn ref joining with
  | already before =>
      obtain ⟨ident, o, told, live, owned, same⟩ := joined conn ref before
      exact ⟨ident, o, (note_kept q action conn ref before).trans told,
        MCState.effect_joined_live env q.server next action effect steady conn ref ident.clientID before live,
        MCState.effect_owner env q.server next action effect ref o owned, same⟩
  | joined ident actor admitted before live =>
      obtain ⟨o, owned, _⟩ := filed.kept.1 ident.clientID ref before
      obtain ⟨entry, found, point⟩ := MCState.point_of_some q.server conn _ admitted
      refine ⟨ident, o, note_taken q action conn ident actor admitted, live,
        MCState.effect_owner env q.server next action effect ref o owned, fun family => ?_⟩
      -- Both are what the pool has on file for the client.
      have told := (filed.rowed.conns entry (List.mem_of_getElem? found)).2 family ident.clientID (ident.assigned family)
        (by rw [point]; rfl)
      rw [told, filed.rowed.live ident.clientID ref o before owned family]
  | opened ident actor admitted live owned =>
      exact ⟨ident, _, note_taken q action conn ident actor admitted, live, owned, fun family => by cases family <;> rfl⟩

theorem announced_routed (env : Env) (valid : env.cfg.validate = .ok ()) (initial : MCState)
    (started : MCState.Started env initial) (trace : List (AnnouncedState × Action)) (final q next : AnnouncedState)
    (run : Runs.Run (step env) (start initial) trace final) (steady : Runs.Allowed (Steady env) trace)
    (visited : Runs.Visited trace final q) (conn now : Nat) (attaches : q.step env (.attach conn now) = some next) :
    ∃ ident ref s, q.announced.lookup conn = some ident ∧ q.server.pointOf conn = some (.joining ref) ∧
      q.server.heap[ref]? = some s ∧ q.server.sessions.lookup ident.clientID = some ref ∧
      ident.assigned4 = s.assigned4 ∧ ident.assigned6 = s.assigned6 ∧
      (ident.assigned4.isValid = true → q.server.ipIndex.lookup ident.assigned4 = some ref) ∧
      (ident.assigned6.isValid = true → q.server.ipIndex.lookup ident.assigned6 = some ref) := by
  have begins : (start initial).server.Filed ∧ (start initial).Joined := by
    refine ⟨MCState.started_filed env initial valid started, fun conn ref joining => ?_⟩
    obtain ⟨⟨pool4, pool6, userDB, queues, rfl⟩, _⟩ := started
    simp [start, MCState.start, MCState.pointOf] at joining
  obtain ⟨filed, joined⟩ := Runs.visited_invariant (joined_step env) run steady begins visited
  obtain ⟨_, stepped, _⟩ := Option.map_eq_some_iff.mp attaches
  obtain ⟨ref, joining⟩ : ∃ ref, q.server.pointOf conn = some (.joining ref) := by
    simp only [MCState.step, MCState.attach] at stepped
    split at stepped
    · rename_i ref joining
      exact ⟨ref, joining⟩
    · cases stepped
  obtain ⟨ident, o, told, live, owned, same⟩ := joined conn ref joining
  obtain ⟨s, stored, _, first, second⟩ := MCState.owner_session q.server ref o owned
  have listed := filed.listed ident.clientID ref o live owned
  refine ⟨ident, ref, s, told, joining, stored, live, (same .v4).trans first.symm, (same .v6).trans second.symm, ?_, ?_⟩
  · intro valid4
    have four : ident.assigned4 = o.assigned .v4 := same .v4
    rw [four] at valid4 ⊢
    exact listed .v4 valid4
  · intro valid6
    have six : ident.assigned6 = o.assigned .v6 := same .v6
    rw [six] at valid6 ⊢
    exact listed .v6 valid6

end AnnouncedState

def tunnelAddr6 (host : UInt8) : Addr := .addrFrom16 (Octets.window 16 (0xFD :: List.replicate 14 0 ++ [host]) 0)

def dualConfig : ServerConfig :=
  { pairConfig with
    subnet := tunnelNet 30
    subnet6 := .v6 (Octets.window 16 [0xFD] 0) (Fin.ofNat 129 64)
    serverIP6 := tunnelAddr6 1 }

def dualEnv : Env := serverEnv dualConfig firstByteDigest [] (fun _ _ _ => 0) plainNoise

def dualStart : Option MCState :=
  (dualConfig.newPool4 []).toOption.bind fun pool4 =>
    (dualConfig.newPool6 []).toOption.map fun pool6 => MCState.start pool4 pool6 (some pairDB) 1

theorem dual_started (initial : MCState) (made : dualStart = some initial) : MCState.Started dualEnv initial := by
  obtain ⟨pool4, made4, rest⟩ := Option.bind_eq_some_iff.mp made
  obtain ⟨pool6, made6, rfl⟩ := Option.map_eq_some_iff.mp rest
  exact ⟨⟨_, _, _, _, rfl⟩, ⟨[], Outcomes.to_option_some made4⟩, ⟨[], Outcomes.to_option_some made6⟩⟩

def secondLaneSteps : List Action :=
  [Action.accept (helloBytes 0xAA), .accept (helloBytes 0xAA)] ++ handshakeSteps 0 true ++ handshakeSteps 1 true ++
    [Action.acquire 0 0, .attach 0 0, .acquire 1 0]

theorem announced_routed_second_lane :
    ∃ initial q next ident ref s, dualStart = some initial ∧
      Runs.Reach (AnnouncedState.step dualEnv) (AnnouncedState.Steady dualEnv) (.start initial) q ∧
      q.step dualEnv (.attach 1 0) = some next ∧ q.announced.lookup 1 = some ident ∧ ident.assigned4 = tunnelAddr 2 ∧
      q.server.heap[ref]? = some s ∧ s.assigned4 = tunnelAddr 2 ∧ q.server.ipIndex.lookup (tunnelAddr 2) = some ref := by
  have observed : ((dualStart.bind fun initial =>
      Runs.execute (AnnouncedState.step dualEnv) (AnnouncedState.Steady dualEnv) (.start initial) secondLaneSteps).map fun q =>
        ((q.step dualEnv (.attach 1 0)).isSome, (q.announced.lookup 1).map LaneIdentity.assigned4)) =
      some (true, some (tunnelAddr 2)) := by
    decide +kernel
  obtain ⟨q, completed, view⟩ := Option.map_eq_some_iff.mp observed
  obtain ⟨initial, made, executed⟩ := Option.bind_eq_some_iff.mp completed
  obtain ⟨enabled, told⟩ := Prod.mk.inj view
  obtain ⟨next, attaches⟩ := Option.isSome_iff_exists.mp enabled
  obtain ⟨trace, run, steady⟩ := Runs.execute_reach _ _ _ executed
  obtain ⟨ident, ref, s, announced, _, stored, _, first, _, indexed, _⟩ := AnnouncedState.announced_routed dualEnv (by decide)
    initial (dual_started initial made) trace q q next run steady (.inl rfl) 1 0 attaches
  have address : ident.assigned4 = tunnelAddr 2 := by simpa [announced] using told
  rw [address] at first indexed
  exact ⟨initial, q, next, ident, ref, s, made, ⟨trace, run, steady⟩, attaches, announced, address, stored, first.symm, indexed rfl⟩

-- Ben has the only address of the first family when Ann's first lane connects.
-- Ben leaves, and Ann's second lane is given that address, on a session that
-- has none.
def lateFamilySteps : List Action :=
  [Action.accept (helloBytes 0xBB), .accept (helloBytes 0xAA), .accept (helloBytes 0xAA)] ++ handshakeSteps 0 true ++
    [Action.acquire 0 0, .attach 0 0] ++ handshakeSteps 1 true ++ [Action.acquire 1 0, .attach 1 0, .detach 0 0,
    .collect (idleTimeout + 1), .tearDown 0] ++ handshakeSteps 2 true ++ [Action.acquire 2 0]

theorem announced_unrouted :
    ∃ initial q next ident s, dualStart = some initial ∧
      Runs.Reach (AnnouncedState.step dualEnv) (fun _ _ => True) (.start initial) q ∧
      q.step dualEnv (.attach 2 0) = some next ∧ q.announced.lookup 2 = some ident ∧ ident.assigned4 = tunnelAddr 2 ∧
      q.server.pointOf 2 = some (.joining 1) ∧ q.server.heap[1]? = some s ∧ s.assigned4 = .zero ∧
      q.server.ipIndex.lookup (tunnelAddr 2) = none := by
  have observed : ((dualStart.bind fun initial =>
      Runs.execute (AnnouncedState.step dualEnv) (fun _ _ => True) (.start initial) lateFamilySteps).map fun q =>
        ((q.step dualEnv (.attach 2 0)).isSome, (q.announced.lookup 2).map LaneIdentity.assigned4,
          (q.server.pointOf 2).map (ConnPoint.joins 1), (q.server.heap[1]?).map Session.assigned4,
          q.server.ipIndex.lookup (tunnelAddr 2))) =
      some (true, some (tunnelAddr 2), some true, some .zero, none) := by
    decide +kernel
  obtain ⟨q, completed, view⟩ := Option.map_eq_some_iff.mp observed
  obtain ⟨initial, made, executed⟩ := Option.bind_eq_some_iff.mp completed
  simp only [Prod.mk.injEq] at view
  obtain ⟨enabled, told, joins, address, unrouted⟩ := view
  obtain ⟨next, attaches⟩ := Option.isSome_iff_exists.mp enabled
  obtain ⟨ident, announced, four⟩ := Option.map_eq_some_iff.mp told
  obtain ⟨s, stored, bare⟩ := Option.map_eq_some_iff.mp address
  obtain ⟨point, reached, joining⟩ := Option.map_eq_some_iff.mp joins
  have target := ConnPoint.joins_joining point 1 joining
  exact ⟨initial, q, next, ident, s, made, Runs.execute_reach _ _ _ executed, attaches, announced, four, target ▸ reached, stored,
    bare, unrouted⟩

end Packethose
