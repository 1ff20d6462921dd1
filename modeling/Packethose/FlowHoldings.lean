import Packethose.UdpFlows

set_option autoImplicit false

namespace Packethose

inductive PumpPhase where
  | listed
  | shutting
  | done
deriving DecidableEq

def PumpPoint.phase : PumpPoint → PumpPhase
  | .shutting => .shutting
  | .done => .done
  | _ => .listed

structure FlowHolding where
  ends : FlowEnds
  phase : PumpPhase
  closed : Bool
deriving DecidableEq

-- What the relay owns, without what it carries: the table, the flows, each
-- socket with its peer and the number of its closes, and the goroutines.
structure FlowHoldings where
  flows : Table String Nat
  held : List FlowHolding
  sockets : List (AddrPort × Nat)
  wg : Nat
  accepting : Bool

def AcceptPoint.accepting : AcceptPoint → Bool
  | .returned => false
  | _ => true

def TPROXYUDPFlow.holding (f : TPROXYUDPFlow) : FlowHolding := ⟨f.toFlowEnds, f.pump.phase, f.closed⟩

def UDPSocket.holding (s : UDPSocket) : AddrPort × Nat := (s.peer, s.closes)

def FlowRelay.holdings (st : FlowRelay) : FlowHoldings :=
  ⟨st.flows, st.heap.map TPROXYUDPFlow.holding, st.sockets.map UDPSocket.holding, st.wg, st.accept.accepting⟩

def AddrPort.Plain (a : AddrPort) : Prop := a = ⟨.zero, 0⟩ ∨ ∃ ip port, a = ⟨IP.addr ip, port⟩

namespace FlowHoldings

def newEnds (net : NetLib) (o : FlowHoldings) (src dst : AddrPort) : FlowEnds :=
  ⟨src, dst, o.sockets.length, o.sockets.length + 1, src, flowKey net src dst⟩

def close (entry : AddrPort × Nat) : AddrPort × Nat := (entry.1, entry.2 + 1)

-- Taking a flow off the table and closing its sockets are two steps: the lock
-- covers the first only.
inductive Step (net : NetLib) (o : FlowHoldings) : FlowHoldings → Prop where
  | spend (peers : List AddrPort) : Step net o { o with sockets := o.sockets ++ peers.map fun peer => (peer, 1) }
  | begin (src dst : AddrPort) (source : src.Plain) (target : dst.Plain)
      (absent : o.flows.lookup (flowKey net src dst) = none) :
      Step net o
        { o with
          flows := o.flows.insert (flowKey net src dst) o.held.length
          held := o.held ++ [⟨o.newEnds net src dst, .listed, false⟩]
          sockets := o.sockets ++ [(dialled dst, 0), (dst, 0)]
          wg := o.wg + 1 }
  | remove (flow : Nat) (h : FlowHolding) (stored : o.held[flow]? = some h) (listed : h.phase = .listed) :
      Step net o
        { o with
          flows := o.flows.erase h.ends.key
          held := o.held.set flow { h with phase := .shutting } }
  | shut (flow : Nat) (h : FlowHolding) (stored : o.held[flow]? = some h) (shutting : h.phase = .shutting) :
      Step net o
        { o with
          held := o.held.set flow ⟨h.ends, .done, true⟩
          sockets := (o.sockets.modify h.ends.upstream close).modify h.ends.reply close
          wg := o.wg - 1 }
  | leave (waits : o.accepting = true) : Step net o { o with accepting := false, wg := o.wg - 1 }

structure Named (net : NetLib) (ends : FlowEnds) : Prop where
  key : ends.key = flowKey net ends.src ends.dst
  client : ends.clientAddr = ends.src
  source : ends.src.Plain
  target : ends.dst.Plain
  pair : ends.reply = ends.upstream + 1

def running (o : FlowHoldings) : Nat := (if o.accepting then 1 else 0) + o.held.countP fun h => h.phase != .done

structure Sound (net : NetLib) (o : FlowHoldings) : Prop where
  listed : ∀ key flow, o.flows.lookup key = some flow ↔ ∃ h, o.held[flow]? = some h ∧ h.ends.key = key ∧ h.phase = .listed
  ended : ∀ h ∈ o.held, h.closed = true ↔ h.phase = .done
  named : ∀ ends ∈ o.held.map FlowHolding.ends, Named net ends
  spaced : (o.held.map FlowHolding.ends).Pairwise fun earlier later => earlier.reply < later.upstream
  bound : ∀ h ∈ o.held, o.sockets[h.ends.upstream]? = some (dialled h.ends.dst, h.closed.toNat) ∧
    o.sockets[h.ends.reply]? = some (h.ends.dst, h.closed.toNat)
  owned : ∀ socket peer closes, o.sockets[socket]? = some (peer, closes) → closes = 1 ∨
    ∃ h ∈ o.held, h.closed = false ∧ (h.ends.upstream = socket ∨ h.ends.reply = socket)
  counted : o.wg = o.running

section Steps

variable (net : NetLib) (o : FlowHoldings)

theorem sound_spend (sound : o.Sound net) (peers : List AddrPort) :
    Sound net { o with sockets := o.sockets ++ peers.map fun peer => (peer, 1) } := by
  refine ⟨sound.listed, sound.ended, sound.named, sound.spaced, fun h member => ?_, fun socket peer closes found => ?_,
    sound.counted⟩
  · obtain ⟨upstream, reply⟩ := sound.bound h member
    obtain ⟨inside, _⟩ := List.getElem?_eq_some_iff.mp upstream
    obtain ⟨inside', _⟩ := List.getElem?_eq_some_iff.mp reply
    exact ⟨(List.getElem?_append_left inside).trans upstream, (List.getElem?_append_left inside').trans reply⟩
  · rcases Nat.lt_or_ge socket o.sockets.length with older | fresh
    · rw [List.getElem?_append_left older] at found
      exact sound.owned socket peer closes found
    · rw [List.getElem?_append_right fresh] at found
      obtain ⟨_, _, same⟩ := List.mem_map.mp (List.mem_of_getElem? found)
      exact .inl (Prod.mk.inj same).2.symm

theorem beyond_unlisted (sound : o.Sound net) (key : String) (flow : Nat) (beyond : o.held.length ≤ flow) :
    o.flows.lookup key ≠ some flow := by
  rw [Ne, sound.listed]
  rintro ⟨h, stored, _⟩
  rw [List.getElem?_eq_none beyond] at stored
  cases stored

theorem begin_listed (sound : o.Sound net) (src dst : AddrPort) (absent : o.flows.lookup (flowKey net src dst) = none)
    (key : String) (flow : Nat) :
    (o.flows.insert (flowKey net src dst) o.held.length).lookup key = some flow ↔
      ∃ h, (o.held ++ [⟨o.newEnds net src dst, .listed, false⟩])[flow]? = some h ∧ h.ends.key = key ∧ h.phase = .listed := by
  rw [Table.lookup_put]
  rcases Nat.lt_trichotomy flow o.held.length with older | rfl | beyond
  · rw [List.getElem?_append_left older, ← sound.listed key flow]
    split_ifs with same
    · rw [same, absent]
      simp
      omega
    · rfl
  · rw [List.getElem?_append_right (Nat.le_refl _)]
    split_ifs with same
    · simp [same, newEnds]
    · simpa [newEnds, beyond_unlisted net o sound key o.held.length (Nat.le_refl _)] using Ne.symm same
  · rw [List.getElem?_eq_none (by simp; omega)]
    split_ifs
    · simp
      omega
    · simpa using beyond_unlisted net o sound key flow (by omega)

theorem sound_begin (sound : o.Sound net) (src dst : AddrPort) (source : src.Plain) (target : dst.Plain)
    (absent : o.flows.lookup (flowKey net src dst) = none) :
    Sound net
      { o with
        flows := o.flows.insert (flowKey net src dst) o.held.length
        held := o.held ++ [⟨o.newEnds net src dst, .listed, false⟩]
        sockets := o.sockets ++ [(dialled dst, 0), (dst, 0)]
        wg := o.wg + 1 } := by
  have inside : ∀ h ∈ o.held, h.ends.upstream < o.sockets.length ∧ h.ends.reply < o.sockets.length := fun h member =>
    ⟨(List.getElem?_eq_some_iff.mp (sound.bound h member).1).1, (List.getElem?_eq_some_iff.mp (sound.bound h member).2).1⟩
  refine ⟨begin_listed net o sound src dst absent, fun h member => ?_, fun ends member => ?_, ?_, fun h member => ?_,
    fun socket peer closes found => ?_, ?_⟩
  · rcases List.mem_append.mp member with older | fresh
    · exact sound.ended h older
    · rw [List.mem_singleton.mp fresh]
      simp
  · rw [List.map_append, List.mem_append] at member
    rcases member with older | fresh
    · exact sound.named ends older
    · rw [List.mem_singleton.mp fresh]
      exact ⟨rfl, rfl, source, target, rfl⟩
  · rw [List.map_append, List.pairwise_append]
    refine ⟨sound.spaced, List.pairwise_singleton _ _, fun earlier before later here => ?_⟩
    obtain ⟨h, member, rfl⟩ := List.mem_map.mp before
    rw [List.mem_singleton.mp here]
    exact (inside h member).2
  · rcases List.mem_append.mp member with older | fresh
    · obtain ⟨upstream, reply⟩ := inside h older
      rw [List.getElem?_append_left upstream, List.getElem?_append_left reply]
      exact sound.bound h older
    · rw [List.mem_singleton.mp fresh]
      simp [newEnds]
  · rcases Nat.lt_or_ge socket o.sockets.length with older | later
    · rw [List.getElem?_append_left older] at found
      rcases sound.owned socket peer closes found with spent | ⟨h, member, rest⟩
      · exact .inl spent
      · exact .inr ⟨h, List.mem_append_left _ member, rest⟩
    · obtain ⟨small, _⟩ := List.getElem?_eq_some_iff.mp found
      simp only [List.length_append, List.length_cons, List.length_nil] at small
      refine .inr ⟨_, List.mem_append_right _ (List.mem_singleton.mpr rfl), rfl, ?_⟩
      dsimp only [newEnds]
      omega
  · have counted := sound.counted
    simp only [running, List.countP_append] at counted ⊢
    rw [counted]
    rfl

theorem listed_once (sound : o.Sound net) (first second : Nat) (h k : FlowHolding) (stored : o.held[first]? = some h)
    (other : o.held[second]? = some k) (listed : h.phase = .listed) (also : k.phase = .listed)
    (same : h.ends.key = k.ends.key) : first = second := by
  have one := (sound.listed h.ends.key first).mpr ⟨h, stored, rfl, listed⟩
  have two := (sound.listed h.ends.key second).mpr ⟨k, other, same.symm, also⟩
  exact Option.some.inj (one.symm.trans two)

theorem sound_remove (sound : o.Sound net) (flow : Nat) (h : FlowHolding) (stored : o.held[flow]? = some h)
    (listed : h.phase = .listed) :
    Sound net { o with flows := o.flows.erase h.ends.key, held := o.held.set flow { h with phase := .shutting } } := by
  have same := Counting.map_set o.held flow h { h with phase := .shutting } FlowHolding.ends stored rfl
  have old : h ∈ o.held := List.mem_of_getElem? stored
  refine ⟨fun key index => ?_, fun k member => ?_, same ▸ sound.named, same ▸ sound.spaced, fun k member => ?_,
    fun socket peer closes found => ?_, ?_⟩
  · rw [Table.lookup_drop, Counting.get_set o.held flow index h _ stored]
    by_cases here : index = flow
    · subst here
      rw [if_pos rfl]
      have gone : (if key = h.ends.key then none else o.flows.lookup key) ≠ some index := by
        split_ifs with named
        · simp
        · intro found
          obtain ⟨k, other, called, _⟩ := (sound.listed key index).mp found
          rw [stored] at other
          obtain rfl := Option.some.inj other
          exact named called.symm
      simpa using gone
    · rw [if_neg here, ← sound.listed key index]
      split_ifs with named
      · refine iff_of_false (by simp) fun found => ?_
        obtain ⟨k, other, called, also⟩ := (sound.listed key index).mp found
        exact here (listed_once net o sound index flow k h other stored also listed (called.trans named))
      · rfl
  · rcases List.mem_or_eq_of_mem_set member with before | rfl
    · exact sound.ended k before
    · have still := (sound.ended h old).not.mpr (by simp [listed])
      simp [still]
  · rcases List.mem_or_eq_of_mem_set member with before | rfl
    · exact sound.bound k before
    · exact sound.bound h old
  · rcases sound.owned socket peer closes found with spent | ⟨k, member, unclosed, mine⟩
    · exact .inl spent
    · rcases Counting.mem_set o.held flow h { h with phase := .shutting } k stored member with rfl | kept
      · exact .inr ⟨_, List.mem_set (List.getElem?_eq_some_iff.mp stored).1 _, unclosed, mine⟩
      · exact .inr ⟨k, kept, unclosed, mine⟩
  · have counted := sound.counted
    have moved := Counting.count_set o.held flow h { h with phase := .shutting } (fun h => h.phase != .done) stored
    rw [if_pos (by simp [listed]), if_pos (by simp)] at moved
    simp only [running] at counted ⊢
    omega

theorem sockets_apart (sound : o.Sound net) (first second : Nat) (h k : FlowHolding) (stored : o.held[first]? = some h)
    (other : o.held[second]? = some k) (different : first ≠ second) :
    k.ends.upstream ≠ h.ends.upstream ∧ k.ends.upstream ≠ h.ends.reply ∧ k.ends.reply ≠ h.ends.upstream ∧
      k.ends.reply ≠ h.ends.reply := by
  have pair := (sound.named h.ends (List.mem_map_of_mem (List.mem_of_getElem? stored))).pair
  have pair' := (sound.named k.ends (List.mem_map_of_mem (List.mem_of_getElem? other))).pair
  have ordered : ∀ (low high : Nat) (a b : FlowHolding), o.held[low]? = some a → o.held[high]? = some b → low < high →
      a.ends.reply < b.ends.upstream := by
    intro low high a b at' at'' less
    obtain ⟨inside, rfl⟩ := List.getElem?_eq_some_iff.mp at'
    obtain ⟨inside', rfl⟩ := List.getElem?_eq_some_iff.mp at''
    have spaced := List.pairwise_iff_getElem.mp sound.spaced low high (by simpa using inside) (by simpa using inside') less
    simpa using spaced
  rcases Nat.lt_or_gt_of_ne different with less | more
  · have gap := ordered first second h k stored other less
    omega
  · have gap := ordered second first k h other stored more
    omega

theorem closed_sockets (sockets : List (AddrPort × Nat)) (upstream reply socket : Nat) (apart : upstream ≠ reply) :
    ((sockets.modify upstream close).modify reply close)[socket]? =
      if socket = upstream ∨ socket = reply then (sockets[socket]?).map close else sockets[socket]? := by
  rw [List.getElem?_modify, List.getElem?_modify]
  by_cases first : upstream = socket
  · subst first
    simp [Ne.symm apart]
  · by_cases second : reply = socket
    · simp [first, second]
    · simp [first, second, Ne.symm first, Ne.symm second]

theorem sound_shut (sound : o.Sound net) (flow : Nat) (h : FlowHolding) (stored : o.held[flow]? = some h)
    (shutting : h.phase = .shutting) :
    Sound net
      { o with
        held := o.held.set flow ⟨h.ends, .done, true⟩
        sockets := (o.sockets.modify h.ends.upstream close).modify h.ends.reply close
        wg := o.wg - 1 } := by
  have same := Counting.map_set o.held flow h ⟨h.ends, .done, true⟩ FlowHolding.ends stored rfl
  have old : h ∈ o.held := List.mem_of_getElem? stored
  have unclosed : h.closed = false := by
    have still := (sound.ended h old).not.mpr (by simp [shutting])
    simpa using still
  have pair := (sound.named h.ends (List.mem_map_of_mem old)).pair
  have apart : h.ends.upstream ≠ h.ends.reply := by omega
  obtain ⟨upstream, reply⟩ := sound.bound h old
  rw [unclosed] at upstream reply
  refine ⟨fun key index => ?_, fun k member => ?_, same ▸ sound.named, same ▸ sound.spaced, fun k member => ?_,
    fun socket peer closes found => ?_, ?_⟩
  · rw [Counting.get_set o.held flow index h _ stored, sound.listed key index]
    by_cases here : index = flow
    · subst here
      simp [stored, shutting]
    · rw [if_neg here]
  · rcases List.mem_or_eq_of_mem_set member with before | rfl
    · exact sound.ended k before
    · simp
  · obtain ⟨index, place⟩ := List.mem_iff_getElem?.mp member
    rw [Counting.get_set o.held flow index h _ stored] at place
    rw [closed_sockets _ _ _ _ apart, closed_sockets _ _ _ _ apart]
    by_cases here : index = flow
    · rw [if_pos here] at place
      obtain rfl := Option.some.inj place
      simp [upstream, reply, close]
    · rw [if_neg here] at place
      obtain ⟨one, two, three, four⟩ := sockets_apart net o sound flow index h k stored place (Ne.symm here)
      rw [if_neg (by tauto), if_neg (by tauto)]
      exact sound.bound k (List.mem_of_getElem? place)
  · rw [closed_sockets _ _ _ _ apart] at found
    split_ifs at found with mine
    · left
      rcases mine with rfl | rfl
      · rw [upstream] at found
        simpa [close] using congrArg (Option.map Prod.snd) found.symm
      · rw [reply] at found
        simpa [close] using congrArg (Option.map Prod.snd) found.symm
    · rcases sound.owned socket peer closes found with spent | ⟨k, member, unclosed', theirs⟩
      · exact .inl spent
      · rcases Counting.mem_set o.held flow h ⟨h.ends, .done, true⟩ k stored member with rfl | kept
        · exact absurd (by tauto) mine
        · exact .inr ⟨k, kept, unclosed', theirs⟩
  · have counted := sound.counted
    have moved := Counting.count_set o.held flow h ⟨h.ends, .done, true⟩ (fun h => h.phase != .done) stored
    rw [if_pos (by simp [shutting]), if_neg nofun] at moved
    simp only [running] at counted ⊢
    omega

theorem sound_step (next : FlowHoldings) (sound : o.Sound net) (stepped : Step net o next) : next.Sound net := by
  cases stepped with
  | spend peers => exact sound_spend net o sound peers
  | begin src dst source target absent => exact sound_begin net o sound src dst source target absent
  | remove flow h stored listed => exact sound_remove net o sound flow h stored listed
  | shut flow h stored shutting => exact sound_shut net o sound flow h stored shutting
  | leave waits =>
      refine ⟨sound.listed, sound.ended, sound.named, sound.spaced, sound.bound, sound.owned, ?_⟩
      have counted := sound.counted
      simp only [running, waits] at counted ⊢
      rw [counted]
      simp

end Steps

end FlowHoldings

section Refinement

theorem modify_map_same {α β : Type} (entries : List α) (index : Nat) (change : α → α) (view : α → β)
    (same : ∀ entry, entries[index]? = some entry → view (change entry) = view entry) :
    (entries.modify index change).map view = entries.map view := by
  apply List.ext_getElem?
  intro position
  rw [List.getElem?_map, List.getElem?_map, List.getElem?_modify]
  cases stored : entries[position]? with
  | none => rfl
  | some entry =>
      by_cases here : index = position
      · simp [here, same entry (here ▸ stored)]
      · simp [here]

theorem modify_map_set {α β : Type} (entries : List α) (index : Nat) (change : α → α) (view : α → β) (entry : α)
    (stored : entries[index]? = some entry) :
    (entries.modify index change).map view = (entries.map view).set index (view (change entry)) := by
  obtain ⟨inside, rfl⟩ := List.getElem?_eq_some_iff.mp stored
  apply List.ext_getElem?
  intro position
  rw [List.getElem?_map, List.getElem?_modify, List.getElem?_set, List.getElem?_map]
  by_cases here : index = position
  · subst here
    simp [inside]
  · simp [here]

theorem modify_map_lift {α β : Type} (entries : List α) (index : Nat) (change : α → α) (view : α → β) (lifted : β → β)
    (commutes : ∀ entry, view (change entry) = lifted (view entry)) :
    (entries.modify index change).map view = (entries.map view).modify index lifted := by
  apply List.ext_getElem?
  intro position
  rw [List.getElem?_map, List.getElem?_modify, List.getElem?_modify, List.getElem?_map]
  cases entries[position]? with
  | none => rfl
  | some entry => by_cases here : index = position <;> simp [here, commutes]

theorem IP.addr_plain (ip : IP) (port : UInt16) : AddrPort.Plain ⟨ip.addr, port⟩ := .inr ⟨ip, port, rfl⟩

theorem source_plain (name : RawSockaddrAny) (src : AddrPort) (read : rawSockaddrToAddrPort name = some src) : src.Plain := by
  cases name with
  | inet4 addr port =>
      obtain rfl := Option.some.inj read
      exact .inr ⟨.four addr, _, rfl⟩
  | inet6 addr port =>
      obtain ⟨v4, _, rfl⟩ := Option.map_eq_some_iff.mp read
      split_ifs
      · exact .inr ⟨.four v4, _, rfl⟩
      · exact .inr ⟨.sixteen addr, _, rfl⟩
  | other =>
      obtain rfl := Option.some.inj read
      exact .inl rfl

theorem screen_plain (net : NetLib) (t : TPROXYListener) (d : Datagram) (src : AddrPort) (packet : PerPacket)
    (passed : t.screenUDP net d = .passed (src, packet)) : src.Plain ∧ packet.dst.Plain := by
  unfold TPROXYListener.screenUDP at passed
  split_ifs at passed
  split at passed
  · cases passed
  · rename_i source read
    dsimp only at passed
    split_ifs at passed with unnamed
    obtain ⟨rfl, rfl⟩ := Prod.mk.inj (Screened.passed.inj passed)
    obtain ⟨dst, form, port, carries⟩ := accepted_carries net d.control (by simpa using unnamed)
    rw [(origin_packet net d.control (dst.ip form) port carries).1]
    exact ⟨source_plain d.name source read, IP.addr_plain _ port⟩

namespace FlowRelay

variable (net : NetLib) (t : TPROXYListener) (st next : FlowRelay)

theorem holdings_heap (flow : Nat) (change : TPROXYUDPFlow → TPROXYUDPFlow)
    (same : ∀ f, st.heap[flow]? = some f → (change f).holding = f.holding) :
    (st.heap.modify flow change).map TPROXYUDPFlow.holding = st.heap.map TPROXYUDPFlow.holding :=
  modify_map_same st.heap flow change TPROXYUDPFlow.holding same

theorem holdings_moved (flow : Nat) (f : TPROXYUDPFlow) (point : PumpPoint) (stored : st.heap[flow]? = some f)
    (same : f.pump.phase = point.phase) : (st.setFlow flow (.moved point)).holdings = st.holdings := by
  unfold holdings
  rw [setFlow, holdings_heap st flow (.moved point)]
  intro g found
  obtain rfl := Option.some.inj (stored.symm.trans found)
  simp [TPROXYUDPFlow.holding, TPROXYUDPFlow.moved, same]

theorem holdings_stored (flow : Nat) (f : TPROXYUDPFlow) (stored : st.heap[flow]? = some f) :
    st.holdings.held[flow]? = some f.holding := by
  simp [holdings, stored]

theorem holdings_removed (flow : Nat) (f : TPROXYUDPFlow) (stored : st.heap[flow]? = some f) (leaving : f.pump = .leaving) :
    FlowHoldings.Step net st.holdings ((st.unlist f.key).setFlow flow (.moved .shutting)).holdings := by
  have listed : f.holding.phase = .listed := by simp [TPROXYUDPFlow.holding, leaving, PumpPoint.phase]
  have stepped : FlowHoldings.Step net st.holdings _ := .remove flow f.holding (holdings_stored st flow f stored) listed
  simp only [holdings, unlist, setFlow] at stepped ⊢
  rw [modify_map_set st.heap flow _ TPROXYUDPFlow.holding f stored]
  exact stepped

theorem holdings_shut (flow : Nat) (f : TPROXYUDPFlow) (stored : st.heap[flow]? = some f) (shutting : f.pump = .shutting) :
    FlowHoldings.Step net st.holdings ((st.release f.toFlowEnds).finish.setFlow flow .shutdown).holdings := by
  have phase : f.holding.phase = .shutting := by simp [TPROXYUDPFlow.holding, shutting, PumpPoint.phase]
  have stepped : FlowHoldings.Step net st.holdings _ := .shut flow f.holding (holdings_stored st flow f stored) phase
  simp only [holdings, release, finish, setFlow, setSocket] at stepped ⊢
  rw [modify_map_set st.heap flow _ TPROXYUDPFlow.holding f stored,
    modify_map_lift _ _ UDPSocket.close UDPSocket.holding FlowHoldings.close fun _ => rfl,
    modify_map_lift _ _ UDPSocket.close UDPSocket.holding FlowHoldings.close fun _ => rfl]
  exact stepped

theorem holdings_opened (src dst : AddrPort) (age : Nat) (source : src.Plain) (target : dst.Plain) (point : AcceptPoint)
    (runs : st.accept.accepting = point.accepting) (absent : st.flows.lookup (flowKey net src dst) = none) :
    FlowHoldings.Step net st.holdings ((st.openUDPFlow (flowKey net src dst) src dst age).setAccept point).holdings := by
  have stepped : FlowHoldings.Step net st.holdings _ := .begin src dst source target absent
  simp only [holdings, FlowHoldings.newEnds, openUDPFlow, setAccept, newFlow, List.map_append, List.length_map] at stepped ⊢
  rw [← runs]
  exact stepped

theorem turn_listed (flow : Nat) (f : TPROXYUDPFlow) (action : FlowAction) (point : PumpPoint) (turn : Turn t st flow f action point) :
    f.pump.phase = .listed ∧ point.phase = .listed := by
  cases turn <;> simp [PumpPoint.phase, *]

theorem applied_holding (applied is6 : Bool) (dscp : UInt8) (s : UDPSocket) :
    (applyDSCP applied is6 dscp s).holding = s.holding := by
  unfold applyDSCP
  split_ifs <;> rfl

theorem effect_holdings (action : FlowAction) (sound : st.holdings.Sound net) (effect : Effect net t st action next) :
    next.holdings = st.holdings ∨ FlowHoldings.Step net st.holdings next.holdings := by
  cases effect with
  | advance | stop | cancel | panicked => exact .inl rfl
  | enter top =>
      left
      simp [holdings, setAccept, top, AcceptPoint.accepting]
  | leave _ waits =>
      right
      have accepting : st.holdings.accepting = true := by
        rcases waits with at' | at' <;> simp [holdings, at', AcceptPoint.accepting]
      exact .leave accepting
  | receive _ point | retry _ point | drained _ point | skipped _ _ _ point =>
      left
      simp [holdings, setAccept, point, AcceptPoint.accepting]
  | found opening a rest src packet flow point | stamped _ _ point =>
      left
      simp [holdings, setAccept, point, AcceptPoint.accepting]
  | bumped item rest stamp storing =>
      left
      have heap := holdings_heap st item.flow (.bump stamp st.clock) fun f _ => rfl
      simp [holdings, setAccept, setFlow, heap, storing, AcceptPoint.accepting]
  | unopened opening a rest peers batch =>
      right
      have stepped : FlowHoldings.Step net st.holdings _ := .spend peers
      simp only [holdings, spend, setAccept, List.map_append, List.map_map, batch] at stepped ⊢
      exact stepped
  | opened age a rest src packet batch passed absent =>
      obtain ⟨source, target⟩ := screen_plain net t a.datagram src packet passed
      exact .inr (holdings_opened net st src packet.dst age source target _ (by rw [batch]; rfl) absent)
  | mark applied item rest f marking =>
      left
      have heap := holdings_heap st item.flow (.marked item.packet.dscp) fun f _ => rfl
      have sockets := modify_map_same st.sockets f.upstream _ UDPSocket.holding fun s _ =>
        applied_holding applied item.packet.dst.addr.is6 item.packet.dscp s
      simp [holdings, setAccept, setFlow, setSocket, heap, sockets, marking, AcceptPoint.accepting]
  | keep applied item rest f marking =>
      left
      have heap := holdings_heap st item.flow (.marked item.packet.dscp) fun f _ => rfl
      simp [holdings, setAccept, setFlow, heap, marking, AcceptPoint.accepting]
  | sent item rest f s writing =>
      left
      simp [holdings, writing, AcceptPoint.accepting]
  | unsent item rest writing =>
      left
      simp [holdings, setAccept, writing, AcceptPoint.accepting]
  | turned _ flow f point stored turn =>
      obtain ⟨before, after⟩ := turn_listed t st flow f action point turn
      exact .inl (holdings_moved st flow f point stored (before.trans after.symm))
  | recorded flow f payload stamp stored storing =>
      left
      have heap := holdings_heap st flow (fun f => (f.bump stamp st.clock).moved (.replying payload)) fun g found => by
        obtain rfl := Option.some.inj (stored.symm.trans found)
        simp [TPROXYUDPFlow.holding, TPROXYUDPFlow.moved, TPROXYUDPFlow.bump, storing, PumpPoint.phase]
      simp [holdings, setFlow, heap]
  | replied flow f s payload stored replying =>
      exact .inl (holdings_moved st flow f .checking stored (by rw [replying]; rfl))
  | removed flow f stored leaving => exact .inr (holdings_removed net st flow f stored leaving)
  | unlisted flow f stored leaving other =>
      have listed : f.holding.phase = .listed := by simp [TPROXYUDPFlow.holding, leaving, PumpPoint.phase]
      exact absurd ((sound.listed f.key flow).mpr ⟨f.holding, holdings_stored st flow f stored, rfl, listed⟩) other
  | shut flow f stored shutting => exact .inr (holdings_shut net st flow f stored shutting)
  | shutAgain flow f stored shutting again =>
      have ended := (sound.ended f.holding (List.mem_of_getElem? (holdings_stored st flow f stored))).mp again
      simp [TPROXYUDPFlow.holding, shutting, PumpPoint.phase] at ended

def Sound (st : FlowRelay) : Prop := st.holdings.Sound net

theorem sound_preserved (guard : FlowRelay → FlowAction → Prop) : Runs.Preserved (step net t) guard (Sound net) := by
  intro st action next sound _ taken
  rcases effect_holdings net t st next action sound (step_effect net t st next action taken) with same | stepped
  · rw [Sound, same]
    exact sound
  · exact FlowHoldings.sound_step net st.holdings next.holdings sound stepped

theorem start_sound : Sound net start := by
  refine ⟨?_, ?_, ?_, List.Pairwise.nil, ?_, ?_, rfl⟩ <;> simp [holdings, start]

theorem reach_sound (guard : FlowRelay → FlowAction → Prop) (reached : Runs.Reach (step net t) guard start st) : Sound net st :=
  Runs.reach_invariant (sound_preserved net t guard) reached (start_sound net)

theorem heap_holding (f : TPROXYUDPFlow) (member : f ∈ st.heap) : f.holding ∈ st.holdings.held := List.mem_map_of_mem member

theorem phase_done (point : PumpPoint) : point.phase = .done ↔ point = .done := by
  cases point <;> simp [PumpPoint.phase]

theorem running_counted : st.holdings.running =
    (if st.accept.accepting then 1 else 0) + st.heap.countP fun f => f.pump != .done := by
  have alike : (fun h : FlowHolding => h.phase != .done) ∘ TPROXYUDPFlow.holding = fun f => f.pump != .done := by
    funext f
    apply Bool.eq_iff_iff.mpr
    simp [TPROXYUDPFlow.holding, phase_done]
  rw [FlowHoldings.running, holdings, List.countP_map, alike]

theorem flow_socket_closes (sound : st.holdings.Sound net) (f : TPROXYUDPFlow) (member : f ∈ st.heap) (socket : Nat)
    (s : UDPSocket) (found : st.sockets[socket]? = some s) (mine : f.upstream = socket ∨ f.reply = socket) :
    s.closes = f.closed.toNat := by
  have held : st.holdings.sockets[socket]? = some (s.peer, s.closes) := by simp [holdings, found, UDPSocket.holding]
  obtain ⟨upstream, reply⟩ := sound.bound f.holding (heap_holding st f member)
  rcases mine with rfl | rfl
  · exact (Prod.mk.inj (Option.some.inj (held.symm.trans upstream))).2
  · exact (Prod.mk.inj (Option.some.inj (held.symm.trans reply))).2

theorem socket_owner (sound : st.holdings.Sound net) (socket : Nat) (s : UDPSocket) (found : st.sockets[socket]? = some s) :
    s.closes = 1 ∨ ∃ f ∈ st.heap, f.closed = false ∧ (f.upstream = socket ∨ f.reply = socket) := by
  have held : st.holdings.sockets[socket]? = some (s.peer, s.closes) := by simp [holdings, found, UDPSocket.holding]
  rcases sound.owned socket s.peer s.closes held with spent | ⟨h, member, unclosed, mine⟩
  · exact .inl spent
  · obtain ⟨f, inside, rfl⟩ := List.mem_map.mp member
    exact .inr ⟨f, inside, unclosed, mine⟩

theorem flow_over (sound : st.holdings.Sound net) (f : TPROXYUDPFlow) (member : f ∈ st.heap) :
    f.closed = true ↔ f.pump = .done :=
  (sound.ended f.holding (heap_holding st f member)).trans (phase_done f.pump)

theorem settled_released (sound : st.holdings.Sound net) (ended : ∀ f ∈ st.heap, f.pump = .done) :
    (∀ key, st.flows.lookup key = none) ∧ ∀ s ∈ st.sockets, s.closes = 1 := by
  refine ⟨fun key => ?_, fun s member => ?_⟩
  · cases found : st.flows.lookup key with
    | none => rfl
    | some flow =>
        obtain ⟨h, stored, _, listed⟩ := (sound.listed key flow).mp found
        obtain ⟨f, inside, rfl⟩ := List.mem_map.mp (List.mem_of_getElem? stored)
        simp [TPROXYUDPFlow.holding, ended f inside, PumpPoint.phase] at listed
  · obtain ⟨socket, found⟩ := List.mem_iff_getElem?.mp member
    rcases socket_owner net st sound socket s found with spent | ⟨f, inside, unclosed, _⟩
    · exact spent
    · rw [(flow_over net st sound f inside).mpr (ended f inside)] at unclosed
      cases unclosed

theorem goroutines_over (sound : st.holdings.Sound net) (zero : st.wg = 0) :
    st.accept = .returned ∧ ∀ f ∈ st.heap, f.pump = .done := by
  have counted : st.wg = _ := sound.counted.trans (running_counted st)
  have none : st.heap.countP (fun f => f.pump != .done) = 0 := by omega
  refine ⟨?_, fun f member => by simpa using List.countP_eq_zero.mp none f member⟩
  have halted : st.accept.accepting = false := by
    by_contra accepting
    rw [if_pos ((Bool.not_eq_false _).mp accepting)] at counted
    omega
  cases point : st.accept with
  | returned => rfl
  | top | receiving | batch | stamping | storing | marking | writing => simp [point, AcceptPoint.accepting] at halted

-- A socket is open exactly as long as the flow it belongs to, nothing is closed
-- twice, and once the WaitGroup is at zero nothing is left.
theorem udp_sockets_released (reached : Runs.Reach (step net t) (fun _ _ => True) start st) :
    (∀ socket s, st.sockets[socket]? = some s → s.closes ≤ 1 ∧
      (s.closes = 0 ↔ ∃ f ∈ st.heap, f.closed = false ∧ (f.upstream = socket ∨ f.reply = socket))) ∧
    (st.wg = (if st.accept.accepting then 1 else 0) + st.heap.countP fun f => f.pump != .done) ∧
    (st.wg = 0 → (∀ key, st.flows.lookup key = none) ∧ ∀ s ∈ st.sockets, s.closes = 1) := by
  have sound : st.holdings.Sound net := reach_sound net t st _ reached
  have counted : st.wg = _ := sound.counted.trans (running_counted st)
  refine ⟨fun socket s found => ?_, counted, fun zero => ?_⟩
  · have mine : ∀ f ∈ st.heap, f.closed = false → (f.upstream = socket ∨ f.reply = socket) → s.closes = 0 := by
      intro f member unclosed ends
      rw [flow_socket_closes net st sound f member socket s found ends, unclosed]
      rfl
    rcases socket_owner net st sound socket s found with spent | ⟨f, member, unclosed, ends⟩
    · refine ⟨by omega, by omega, ?_⟩
      rintro ⟨f, member, unclosed, ends⟩
      exact mine f member unclosed ends
    · have zero := mine f member unclosed ends
      exact ⟨by omega, fun _ => ⟨f, member, unclosed, ends⟩, fun _ => zero⟩
  · exact settled_released net st sound (goroutines_over net st sound zero).2

end FlowRelay

end Refinement

def resolverQuery : Arrival := ⟨tunnelSource, plainControl 1, [7]⟩

def stoppedFlowSteps : List FlowAction :=
  [.check, .receive (.batch [resolverQuery]), .take (.opened 0), .stamp, .store, .mark true, .write true, .stop, .pumpCheck 0,
    .pumpRemove 0, .pumpShut 0, .take (.opened 0), .check]

theorem udp_sockets_released_stopped :
    ∃ st, Runs.Reach (FlowRelay.step plainNet tunnelListener) (fun _ _ => True) .start st ∧ st.heap.length = 1 ∧
      (∀ key, st.flows.lookup key = none) ∧ ∀ s ∈ st.sockets, s.closes = 1 := by
  have observed : (Runs.execute (FlowRelay.step plainNet tunnelListener) (fun _ _ => True) .start stoppedFlowSteps).map
      (fun st => (st.heap.length, st.wg)) = some (1, 0) := by
    decide +kernel
  obtain ⟨st, completed, view⟩ := Option.map_eq_some_iff.mp observed
  obtain ⟨flows, zero⟩ := Prod.mk.inj view
  have reached := Runs.execute_reach _ _ _ completed
  exact ⟨st, reached, flows, (FlowRelay.udp_sockets_released plainNet tunnelListener st reached).2.2 zero⟩

end Packethose
