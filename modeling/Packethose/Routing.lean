import Packethose.SessionPools

set_option autoImplicit false

namespace Packethose

-- The destination field of the inner packet, by position: bytes 16 to 20 of an
-- IPv4 header, 24 to 40 of an IPv6 header, behind the virtio header if any.
def InnerDestination (packet : Bytes) (vnetHdr : Bool) (dst : Addr) : Prop :=
  let inner := packet.drop (if vnetHdr then virtioNetHdrLen else 0)
  (∃ (first : UInt8) (bytes : Vector UInt8 4), inner.head? = some first ∧ first >>> 4 = 4 ∧ 20 ≤ inner.length ∧
    bytes.toList = (inner.drop 16).take 4 ∧ dst = .addrFrom4 bytes) ∨
  (∃ (first : UInt8) (bytes : Vector UInt8 16), inner.head? = some first ∧ first >>> 4 = 6 ∧ 40 ≤ inner.length ∧
    bytes.toList = (inner.drop 24).take 16 ∧ dst = .addrFrom16 bytes)

theorem inner_dst_bytes (packet : Bytes) (vnetHdr : Bool) (dst : Addr) (parsed : innerDst packet vnetHdr = some dst) :
    InnerDestination packet vnetHdr dst := by
  have skipped : (if vnetHdr = true then packet.drop virtioNetHdrLen else packet) =
      packet.drop (if vnetHdr then virtioNetHdrLen else 0) := by cases vnetHdr <;> rfl
  have complete : ¬ (vnetHdr = true ∧ packet.length < virtioNetHdrLen) := by
    intro short
    rw [innerDst, if_pos short] at parsed
    cases parsed
  simp only [innerDst, if_neg complete, skipped] at parsed
  unfold InnerDestination
  generalize packet.drop (if vnetHdr then virtioNetHdrLen else 0) = inner at parsed
  cases inner with
  | nil => cases parsed
  | cons first rest =>
      dsimp only at parsed
      split_ifs at parsed with four small six small6
      · exact .inl ⟨first, _, rfl, four, by omega, Octets.window_bytes 4 _ 16 (by omega), (Option.some.inj parsed).symm⟩
      · exact .inr ⟨first, _, rfl, six, by omega, Octets.window_bytes 16 _ 24 (by omega), (Option.some.inj parsed).symm⟩

namespace MCState

def Addressed (env : Env) (st : MCState) (ref : SessionRef) (packet : Bytes) : Prop :=
  ∃ o dst, st.owner ref = some o ∧ innerDst packet env.cfg.vnetHdr = some dst ∧ (dst = o.assigned4 ∨ dst = o.assigned6)

structure Indexed (st : MCState) : Prop where
  entries : ∀ a ref, st.ipIndex.lookup a = some ref → a.isValid = true ∧
    ∃ o, st.owner ref = some o ∧ st.sessions.lookup o.id = some ref ∧ (a = o.assigned4 ∨ a = o.assigned6)

structure Delivered (env : Env) (st : MCState) : Prop where
  held : ∀ packet ref, some (packet, ref) ∈ st.readers → st.Addressed env ref packet
  sent : ∀ ref packet, (ref, packet) ∈ st.dispatched → st.Addressed env ref packet
  waiting : ∀ ref s packet, st.heap[ref]? = some s → packet ∈ s.outbound → (ref, packet) ∈ st.dispatched

section Steps

variable (env : Env) (st next : MCState) (action : Action)

theorem indexed_frame (indexed : st.Indexed) (ipIndex : next.ipIndex = st.ipIndex) (sessions : next.sessions = st.sessions)
    (owner : next.owner = st.owner) : next.Indexed := by
  constructor
  rw [ipIndex, sessions, owner]
  exact indexed.entries

theorem indexed_opened (ident : LaneIdentity) (db : Option UserDB) (now conn : Nat)
    (absent : st.sessions.lookup ident.clientID = none) (indexed : st.Indexed) :
    ((st.openSession ident db now).setPoint conn (.joining st.heap.length)).Indexed := by
  constructor
  intro a ref found
  change (st.openSession ident db now).ipIndex.lookup a = some ref at found
  change _ ∧ ∃ o, (st.openSession ident db now).owner ref = some o ∧
    (st.openSession ident db now).sessions.lookup o.id = some ref ∧ _
  rw [open_session_owner, (open_session_frame st ident db now).2.1]
  rcases open_session_index st ident db now a ref found with ⟨rfl, valid, fresh⟩ | older
  · exact ⟨valid, _, if_pos rfl, by rw [Table.lookup_put, if_pos rfl], fresh⟩
  · obtain ⟨valid, o, owned, live, matched⟩ := indexed.entries a ref older
    have before := owner_older st ref o owned
    have different : o.id ≠ ident.clientID := by
      intro same
      rw [same, absent] at live
      cases live
    exact ⟨valid, o, (if_neg before).trans owned, by rw [Table.lookup_put, if_neg different, live], matched⟩

theorem indexed_collected (now : Nat) (indexed : st.Indexed) : (st.collect now).Indexed := by
  constructor
  intro a ref found
  rw [collect, Table.lookup_drop_all] at found
  split_ifs at found with dropped
  obtain ⟨valid, o, owned, live, matched⟩ := indexed.entries a ref found
  refine ⟨valid, o, owned, ?_, matched⟩
  rw [collect, Table.lookup_drop_all, if_neg, live]
  intro victim
  obtain ⟨row, member, named⟩ := List.mem_map.mp victim
  apply dropped
  refine List.mem_flatMap.mpr ⟨row, member, ?_⟩
  have same : row.2 = ref := by
    have stored := (Table.mem_rows st.sessions row.1 row.2).mp (List.mem_of_mem_filter member)
    rw [named, live] at stored
    exact (Option.some.inj stored).symm
  obtain ⟨s, stored, _, first, second⟩ := owner_session st ref o owned
  rw [same, indexedAddrs, stored]
  rcases matched with rfl | rfl
  · simp [← first, first ▸ valid]
  · simp [← second, second ▸ valid]

theorem effect_indexed (effect : Effect env st action next) (indexed : st.Indexed) : next.Indexed := by
  cases effect with
  | opened conn now entry ident db found admitted absent slot =>
      exact indexed_opened st ident db now conn absent indexed
  | collected now => exact indexed_collected st now indexed
  | cleared => exact ⟨fun a ref found => absurd found (by simp [tearDownAll])⟩
  | allocated _ _ family => cases family <;> exact indexed_frame st _ indexed rfl rfl rfl
  | laned _ conn entry ref s change _ found stored changed =>
      obtain ⟨_, _, sessions, ipIndex, _⟩ := lane_change_frame st conn ref s action entry.point change next changed
      exact indexed_frame st next indexed ipIndex sessions
        (lane_change_owner st conn ref s action entry.point change next changed)
  | torn ref => exact indexed_frame st _ indexed rfl rfl (set_session_owner (st.forget ref) ref _ fun _ => rfl)
  | queued reader packet ref =>
      exact indexed_frame st _ indexed rfl rfl (set_session_owner (st.setReader reader none) ref _ fun _ => rfl)
  | accepted | moved | released | tornAgain | reloaded | unreloaded | ignored | matched | dropped =>
      exact indexed_frame st _ indexed rfl rfl rfl

theorem effect_owner (effect : Effect env st action next) (ref : SessionRef) (o : Owner) (owned : st.owner ref = some o) :
    next.owner ref = some o := by
  rcases effect_sessions env st next action effect with ⟨_, same⟩ | ⟨conn, now, entry, ident, db, _, _, _, _, rfl⟩
  · rw [same, owned]
  · exact (open_session_owner st ident db now ref).trans ((if_neg (owner_older st ref o owned)).trans owned)

theorem effect_addressed (effect : Effect env st action next) (ref : SessionRef) (packet : Bytes)
    (addressed : st.Addressed env ref packet) : next.Addressed env ref packet := by
  obtain ⟨o, dst, owned, parsed, matched⟩ := addressed
  exact ⟨o, dst, effect_owner env st next action effect ref o owned, parsed, matched⟩

theorem matched_addressed (indexed : st.Indexed) (packet : Bytes) (dst : Addr) (ref : SessionRef)
    (parsed : innerDst packet env.cfg.vnetHdr = some dst) (found : st.ipIndex.lookup dst = some ref) :
    st.Addressed env ref packet := by
  obtain ⟨_, o, owned, _, matched⟩ := indexed.entries dst ref found
  exact ⟨o, dst, owned, parsed, matched⟩

theorem effect_readers (effect : Effect env st action next) (packet : Bytes) (ref : SessionRef)
    (held : some (packet, ref) ∈ next.readers) :
    some (packet, ref) ∈ st.readers ∨
      (∃ reader, action = .tunRead reader packet) ∧
        ∃ dst, innerDst packet env.cfg.vnetHdr = some dst ∧ st.ipIndex.lookup dst = some ref := by
  cases effect with
  | matched reader other dst found idle parsed indexed =>
      rcases List.mem_or_eq_of_mem_set held with before | fresh
      · exact .inl before
      · obtain ⟨rfl, rfl⟩ := Prod.mk.inj (Option.some.inj fresh)
        exact .inr ⟨⟨reader, rfl⟩, dst, parsed, indexed⟩
  | queued | dropped =>
      rcases List.mem_or_eq_of_mem_set held with before | fresh
      · exact .inl before
      · cases fresh
  | opened conn now entry ident db => exact .inl ((open_session_frame st ident db now).2.2.2.1 ▸ held)
  | allocated _ _ family => cases family <;> exact .inl held
  | laned _ conn entry other s change _ found stored changed =>
      exact .inl ((lane_change_frame st conn other s action entry.point change next changed).2.2.2.2.1 ▸ held)
  | accepted | moved | released | collected | cleared | tornAgain | torn | reloaded | unreloaded | ignored => exact .inl held

theorem effect_dispatched (effect : Effect env st action next) :
    next.dispatched = st.dispatched ∨
      ∃ (reader : Nat) (packet : Bytes) (ref : SessionRef), st.readers[reader]? = some (some (packet, ref)) ∧
        next.dispatched = st.dispatched ++ [(ref, packet)] ∧
        next.heap = st.heap.modify ref (Session.enqueued packet) := by
  cases effect with
  | queued reader packet ref s held stored room => exact .inr ⟨reader, packet, ref, held, rfl, rfl⟩
  | opened conn now entry ident db => exact .inl (open_session_frame st ident db now).2.2.2.2.1
  | allocated _ _ family => cases family <;> exact .inl rfl
  | laned _ conn entry other s change _ found stored changed =>
      exact .inl (lane_change_frame st conn other s action entry.point change next changed).2.2.2.2.2.1
  | accepted | moved | released | collected | cleared | tornAgain | torn | reloaded | unreloaded | ignored | matched | dropped =>
      exact .inl rfl

theorem modified_outbound (heap : List Session) (ref target : SessionRef) (change : Session → Session)
    (shrinks : ∀ s, (change s).outbound ⊆ s.outbound) (s : Session) (packet : Bytes)
    (stored : (heap.modify target change)[ref]? = some s) (waiting : packet ∈ s.outbound) :
    ∃ old, heap[ref]? = some old ∧ packet ∈ old.outbound := by
  rw [List.getElem?_modify] at stored
  obtain ⟨old, before, changed⟩ := Option.map_eq_some_iff.mp stored
  refine ⟨old, before, ?_⟩
  split_ifs at changed with here
  · exact shrinks old (changed ▸ waiting)
  · exact changed ▸ waiting

theorem lane_change_heap (conn : Nat) (ref : SessionRef) (s : Session) (point : ConnPoint) (change : Session → Session)
    (changed : LaneChange st conn ref s action point change next) :
    next.heap = st.heap.modify ref change ∧ ∀ s, (change s).outbound ⊆ s.outbound := by
  cases changed with
  | attach | detach => exact ⟨rfl, fun s => List.Subset.refl _⟩
  | laneRead => exact ⟨rfl, fun s packet member => List.mem_of_mem_tail member⟩

theorem effect_outbound (effect : Effect env st action next) (silent : next.dispatched = st.dispatched)
    (ref : SessionRef) (s : Session) (packet : Bytes) (stored : next.heap[ref]? = some s) (waiting : packet ∈ s.outbound) :
    ∃ old, st.heap[ref]? = some old ∧ packet ∈ old.outbound := by
  cases effect with
  | queued => exact absurd silent (by simp [noteDispatch, setSession, setReader])
  | opened conn now entry ident db =>
      change (st.openSession ident db now).heap[ref]? = some s at stored
      rw [(open_session_frame st ident db now).1] at stored
      rcases Nat.lt_or_ge ref st.heap.length with older | fresh
      · rw [List.getElem?_append_left older] at stored
        exact ⟨s, stored, waiting⟩
      · rw [List.getElem?_append_right fresh] at stored
        rw [List.mem_singleton.mp (List.mem_of_getElem? stored)] at waiting
        cases waiting
  | laned _ conn entry target _ change _ found _ changed =>
      obtain ⟨heap, shrinks⟩ := lane_change_heap st next action conn target _ entry.point change changed
      exact modified_outbound st.heap ref target change shrinks s packet (heap ▸ stored) waiting
  | torn target => exact modified_outbound st.heap ref target Session.tornDown (fun s => List.Subset.refl _) s packet stored waiting
  | allocated _ _ family => cases family <;> exact ⟨s, stored, waiting⟩
  | accepted | moved | released | collected | cleared | tornAgain | reloaded | unreloaded | ignored | matched | dropped =>
      exact ⟨s, stored, waiting⟩

theorem effect_delivered (effect : Effect env st action next) (indexed : st.Indexed) (delivered : st.Delivered env) :
    next.Delivered env := by
  have addressed := effect_addressed env st next action effect
  refine ⟨fun packet ref held => ?_, fun ref packet sent => ?_, fun ref s packet stored waiting => ?_⟩
  · rcases effect_readers env st next action effect packet ref held with before | ⟨_, dst, parsed, found⟩
    · exact addressed ref packet (delivered.held packet ref before)
    · exact addressed ref packet (matched_addressed env st indexed packet dst ref parsed found)
  · rcases effect_dispatched env st next action effect with same | ⟨reader, other, target, held, added, _⟩
    · exact addressed ref packet (delivered.sent ref packet (same ▸ sent))
    · rw [added, List.mem_append, List.mem_singleton] at sent
      rcases sent with before | last
      · exact addressed ref packet (delivered.sent ref packet before)
      · obtain ⟨rfl, rfl⟩ := Prod.mk.inj last
        exact addressed ref packet (delivered.held packet ref (List.mem_of_getElem? held))
  · rcases effect_dispatched env st next action effect with same | ⟨reader, other, target, held, added, heap⟩
    · obtain ⟨old, before, queued⟩ := effect_outbound env st next action effect same ref s packet stored waiting
      exact same ▸ delivered.waiting ref old packet before queued
    · rw [heap, List.getElem?_modify] at stored
      obtain ⟨old, before, changed⟩ := Option.map_eq_some_iff.mp stored
      rw [added, List.mem_append, List.mem_singleton]
      split_ifs at changed with here
      · subst changed
        rcases List.mem_append.mp waiting with older | fresh
        · exact .inl (delivered.waiting ref old packet before older)
        · exact .inr (by rw [here, List.mem_singleton.mp fresh])
      · exact .inl (delivered.waiting ref old packet before (changed ▸ waiting))

end Steps

def Routed (env : Env) (st : MCState) : Prop := st.Indexed ∧ st.Delivered env

theorem routed_preserved (env : Env) : Runs.Preserved (step env) (fun _ _ => True) (Routed env) := by
  rintro st action next ⟨indexed, delivered⟩ _ taken
  have effect := step_effect env st next action taken
  exact ⟨effect_indexed env st next action effect indexed, effect_delivered env st next action effect indexed delivered⟩

theorem start_routed (env : Env) (pool4 pool6 : Option IPPool) (userDB : Option UserDB) (queues : Nat) :
    Routed env (start pool4 pool6 userDB queues) := by
  refine ⟨⟨fun a ref found => absurd found (by simp [start])⟩, ⟨fun packet ref held => ?_, ?_, ?_⟩⟩
  · exact absurd (List.eq_of_mem_replicate held) (by simp)
  · exact fun ref packet sent => absurd sent (by simp [start])
  · exact fun ref s packet stored => absurd stored (by simp [start])

theorem downlink_routed (env : Env) (pool4 pool6 : Option IPPool) (userDB : Option UserDB) (queues : Nat) (st : MCState)
    (reached : Runs.Reach (step env) (fun _ _ => True) (start pool4 pool6 userDB queues) st) :
    (∀ a ref, st.ipIndex.lookup a = some ref →
      ∃ s, st.heap[ref]? = some s ∧ st.sessions.lookup s.id = some ref ∧ (a = s.assigned4 ∨ a = s.assigned6)) ∧
    (∀ ref packet, (ref, packet) ∈ st.dispatched →
      ∃ s dst, st.heap[ref]? = some s ∧ InnerDestination packet env.cfg.vnetHdr dst ∧
        (dst = s.assigned4 ∨ dst = s.assigned6)) ∧
    (∀ (ref : SessionRef) (s : Session), st.heap[ref]? = some s → ∀ packet ∈ s.outbound, (ref, packet) ∈ st.dispatched) := by
  obtain ⟨indexed, delivered⟩ :=
    Runs.reach_invariant (routed_preserved env) reached (start_routed env pool4 pool6 userDB queues)
  refine ⟨fun a ref found => ?_, fun ref packet sent => ?_, fun ref s stored packet => delivered.waiting ref s packet stored⟩
  · obtain ⟨_, o, owned, live, matched⟩ := indexed.entries a ref found
    obtain ⟨s, stored, named, first, second⟩ := owner_session st ref o owned
    exact ⟨s, stored, named ▸ live, first ▸ second ▸ matched⟩
  · obtain ⟨o, dst, owned, parsed, matched⟩ := delivered.sent ref packet sent
    obtain ⟨s, stored, named, first, second⟩ := owner_session st ref o owned
    exact ⟨s, dst, stored, inner_dst_bytes packet env.cfg.vnetHdr dst parsed, first ▸ second ▸ matched⟩

end MCState

def packetToBen : Bytes := 0x45 :: List.replicate 15 0 ++ [10, 66, 0, 3]

theorem downlink_routed_to_ben :
    ∃ (st : MCState) (s : Session) (dst : Addr), (1, packetToBen) ∈ st.dispatched ∧ st.heap[1]? = some s ∧
      InnerDestination packetToBen false dst ∧ (dst = s.assigned4 ∨ dst = s.assigned6) := by
  have observed : (Runs.execute (MCState.step pairEnv) (fun _ _ => True) pairStart
      (apartSteps ++ [.tunRead 0 packetToBen, .tunSend 0 true])).map MCState.dispatched = some [(1, packetToBen)] := by
    decide +kernel
  obtain ⟨st, completed, view⟩ := Option.map_eq_some_iff.mp observed
  have sent : (1, packetToBen) ∈ st.dispatched := by simp [view]
  obtain ⟨s, dst, routed⟩ := (MCState.downlink_routed pairEnv _ _ _ _ st
    (Runs.execute_reach _ _ _ completed)).2.1 1 packetToBen sent
  exact ⟨st, s, dst, sent, routed⟩

end Packethose
