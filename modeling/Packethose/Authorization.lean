import Packethose.SessionPools

set_option autoImplicit false

namespace Packethose

def Conn.outcome (env : Env) (entry : Conn) : Except HandshakeFailure ClientHello :=
  readClientHello env (env.authorizer entry.users) entry.input

def Conn.Admits (env : Env) (entry : Conn) (clientID : ClientID) (userName : String) : Prop :=
  Nonempty (Admission env (env.authorizer entry.users) entry.input clientID userName)

def ConnPoint.Agrees (outcome : Except HandshakeFailure ClientHello) : ConnPoint → Prop
  | .greeting | .closed => True
  | .authorized hello | .assigning4 hello _ | .assigning6 hello _ _ | .replying hello _ => outcome = .ok hello
  | .failed clientID =>
      (∃ failure, outcome = .error failure ∧ failure.clientID = clientID) ∨ ∃ hello, outcome = .ok hello ∧ hello.clientID = clientID
  | .admitted ident => ∃ hello, outcome = .ok hello ∧ hello.clientID = ident.clientID
  | .overQuota clientID => ∃ hello, outcome = .ok hello ∧ hello.clientID = clientID
  | .joining _ | .attached _ _ => ∃ hello, outcome = .ok hello

namespace MCState

inductive Frees (st : MCState) (action : Action) (clientID : ClientID) : Prop where
  | conn (conn : Nat) (entry : Conn) (actor : action.conn = some conn) (found : st.conns[conn]? = some entry)
      (releasing : Releasing st action entry.point clientID) : Frees st action clientID
  | tearDown (ref : SessionRef) (same : action = .tearDown ref) : Frees st action clientID

inductive PoolEffect (env : Env) (st : MCState) (action : Action) (family : Family) (after : Option IPPool) : Prop where
  | same (kept : after = st.pool family) : PoolEffect env st action family after
  | allocated (conn : Nat) (entry : Conn) (hello : ClientHello) (db : Option UserDB) (asg : AssignmentResponse)
      (p changed : IPPool) (result : Except PoolError Addr) (actor : action.conn = some conn)
      (found : st.conns[conn]? = some entry) (assigning : Assigning entry.point family hello db asg)
      (pooled : st.pool family = some p)
      (called : p.allocateFor env.sha256 hello.userName hello.clientID (hello.request.wanted family) db = some (changed, result))
      (pool : after = some changed) : PoolEffect env st action family after
  | claimed (conn : Nat) (entry : Conn) (ident : LaneIdentity) (actor : action.conn = some conn)
      (found : st.conns[conn]? = some entry) (admitted : entry.point = .admitted ident)
      (pool : after = (st.pool family).map fun p => p.claim ident.clientID (ident.assigned family)) :
      PoolEffect env st action family after
  | freed (clientID : ClientID) (frees : Frees st action clientID)
      (pool : after = (st.pool family).map fun p => p.release clientID) : PoolEffect env st action family after

inductive Entered (env : Env) (userName : String) (clientID : ClientID) (before after : IPPool) : Prop where
  | allocateFor (preferred : Addr) (db : Option UserDB) (result : Except PoolError Addr)
      (called : before.allocateFor env.sha256 userName clientID preferred db = some (after, result)) :
      Entered env userName clientID before after
  | claim (addr : Addr) (called : after = before.claim clientID addr) : Entered env userName clientID before after

section Steps

variable (env : Env) (st next : MCState) (action : Action)

theorem effect_pool (effect : Effect env st action next) (family : Family) :
    PoolEffect env st action family (next.pool family) := by
  cases effect with
  | allocated conn entry called hello db asg p changed result found assigning pooled allocated =>
      by_cases here : family = called
      · subst here
        exact .allocated conn entry hello db asg p changed result rfl found assigning pooled allocated
          (by rw [allocated_pool, if_pos rfl])
      · exact .same (by rw [allocated_pool, if_neg here])
  | released _ conn entry clientID actor found releasing =>
      exact .freed clientID (.conn conn entry actor found releasing) (by cases family <;> rfl)
  | opened conn now entry ident db found admitted absent slot =>
      have pools := open_session_pool st ident db now family
      exact .claimed conn entry ident rfl found admitted (by cases family <;> exact pools)
  | laned _ conn entry ref s change _ found stored changed =>
      obtain ⟨pool4, pool6, _⟩ := lane_change_frame st conn ref s action entry.point change next changed
      exact .same (by cases family <;> assumption)
  | torn ref s => exact .freed s.id (.tearDown ref rfl) (by cases family <;> rfl)
  | accepted | moved | collected | cleared | tornAgain | reloaded | unreloaded | ignored | matched | queued | dropped =>
      exact .same (by cases family <;> rfl)

theorem moves_agrees (entry : Conn) (old new : ConnPoint) (moves : Moves env st entry old new)
    (agrees : old.Agrees (entry.outcome env)) : new.Agrees (entry.outcome env) := by
  cases moves with
  | greeted hello read => exact read
  | refused failure read known => exact .inl ⟨failure, read, rfl⟩
  | assigning | without4 | without6 => exact agrees
  | admitted hello => exact ⟨hello, agrees, rfl⟩
  | unanswered hello => exact .inr ⟨hello, agrees, rfl⟩
  | joined ident =>
      obtain ⟨hello, read, _⟩ := agrees
      exact ⟨hello, read⟩
  | overQuota => exact agrees
  | anonymous | unassigned | unanswerable | owned => trivial

theorem assigning_agrees (entry : Conn) (family : Family) (hello : ClientHello) (db : Option UserDB) (asg : AssignmentResponse)
    (point : ConnPoint) (assigning : Assigning point family hello db asg) (agrees : point.Agrees (entry.outcome env)) :
    entry.outcome env = .ok hello := by
  cases assigning <;> exact agrees

structure Continues (before after : Conn) : Prop where
  input : after.input = before.input
  users : after.users = before.users

theorem continues_outcome (before after : Conn) (continues : Continues before after) :
    after.outcome env = before.outcome env := by
  rw [Conn.outcome, Conn.outcome, continues.input, continues.users]

theorem effect_conns (effect : Effect env st action next) :
    next.conns = st.conns ∨ (∃ input, next.conns = st.conns ++ [⟨input, st.userDB, .greeting⟩]) ∨
      ∃ conn entry point, st.conns[conn]? = some entry ∧ next.conns = (st.setPoint conn point).conns ∧
        (entry.point.Agrees (entry.outcome env) → point.Agrees (entry.outcome env)) := by
  cases effect with
  | accepted input => exact .inr (.inl ⟨input, rfl⟩)
  | moved _ conn entry point _ found moves =>
      exact .inr (.inr ⟨conn, entry, point, found, rfl, moves_agrees env st entry entry.point point moves⟩)
  | allocated conn entry family hello db asg p changed result found assigning pooled called =>
      refine .inr (.inr ⟨conn, entry, assignedPoint hello db (answered env family asg result) family, found, by cases family <;> rfl,
        fun agrees => ?_⟩)
      have read := assigning_agrees env entry family hello db asg entry.point assigning agrees
      cases family <;> exact read
  | released _ conn entry clientID actor found releasing =>
      exact .inr (.inr ⟨conn, entry, .closed, found, rfl, fun _ => trivial⟩)
  | opened conn now entry ident db found admitted absent slot =>
      refine .inr (.inr ⟨conn, entry, .joining st.heap.length, found, ?_, fun agrees => ?_⟩)
      · simp only [setPoint, (open_session_frame st ident db now).2.2.1]
      · rw [admitted] at agrees
        obtain ⟨hello, read, _⟩ := agrees
        exact ⟨hello, read⟩
  | laned _ conn entry ref s change _ found stored changed =>
      generalize here : entry.point = point at changed
      cases changed with
      | attach =>
          refine .inr (.inr ⟨conn, entry, _, found, rfl, fun agrees => ?_⟩)
          rwa [here] at agrees
      | laneRead => exact .inl rfl
      | detach => exact .inr (.inr ⟨conn, entry, .closed, found, rfl, fun _ => trivial⟩)
  | collected | cleared | tornAgain | torn | reloaded | unreloaded | ignored | matched | queued | dropped => exact .inl rfl

def ConnsAgree : Prop := ∀ entry ∈ st.conns, entry.point.Agrees (entry.outcome env)

theorem effect_conns_agree (effect : Effect env st action next) (agree : ConnsAgree env st) : ConnsAgree env next := by
  intro entry member
  rcases effect_conns env st next action effect with same | ⟨input, same⟩ | ⟨conn, old, point, found, same, moves⟩
  · exact agree entry (same ▸ member)
  · rw [same, List.mem_append, List.mem_singleton] at member
    rcases member with before | rfl
    · exact agree entry before
    · trivial
  · rw [same] at member
    rcases set_point_mem st conn point entry member with before | ⟨stored, here, rfl⟩
    · exact agree entry before
    · obtain rfl : old = stored := Option.some.inj (found.symm.trans here)
      exact moves (agree old (List.mem_of_getElem? found))

theorem effect_continues (effect : Effect env st action next) (conn : Nat) (entry : Conn)
    (found : st.conns[conn]? = some entry) : ∃ after, next.conns[conn]? = some after ∧ Continues entry after := by
  rcases effect_conns env st next action effect with same | ⟨input, same⟩ | ⟨other, old, point, _, same, _⟩
  · exact ⟨entry, same ▸ found, rfl, rfl⟩
  · have inside := (List.getElem?_eq_some_iff.mp found).1
    exact ⟨entry, by rw [same, List.getElem?_append_left inside, found], rfl, rfl⟩
  · rw [same, set_point_conns, found, Option.map_some]
    refine ⟨_, rfl, ?_⟩
    split_ifs <;> exact ⟨rfl, rfl⟩

theorem effect_allocations (effect : Effect env st action next) :
    next.allocations = st.allocations ∨
      ∃ conn entry family hello db asg, st.conns[conn]? = some entry ∧ Assigning entry.point family hello db asg ∧
        next.allocations = st.allocations ++ [⟨conn, hello.userName, hello.clientID⟩] := by
  cases effect with
  | allocated conn entry family hello db asg p changed result found assigning pooled called =>
      exact .inr ⟨conn, entry, family, hello, db, asg, found, assigning, by cases family <;> rfl⟩
  | opened conn now entry ident db => exact .inl (open_session_frame st ident db now).2.2.2.2.2
  | laned _ conn entry ref s change _ found stored changed =>
      exact .inl (lane_change_frame st conn ref s action entry.point change next changed).2.2.2.2.2.2
  | accepted | moved | released | collected | cleared | tornAgain | torn | reloaded | unreloaded | ignored | matched | queued
  | dropped => exact .inl rfl

def Vouched : Prop :=
  ∀ a ∈ st.allocations, ∃ entry hello, st.conns[a.conn]? = some entry ∧ entry.outcome env = .ok hello ∧
    hello.clientID = a.clientID ∧ hello.userName = a.userName

theorem effect_vouched (effect : Effect env st action next) (agree : ConnsAgree env st) (vouched : Vouched env st) :
    Vouched env next := by
  intro a member
  have earlier : a ∈ st.allocations ∨ ∃ entry hello, st.conns[a.conn]? = some entry ∧ entry.outcome env = .ok hello ∧
      hello.clientID = a.clientID ∧ hello.userName = a.userName := by
    rcases effect_allocations env st next action effect with same | ⟨conn, entry, family, hello, db, asg, found, assigning, added⟩
    · exact .inl (same ▸ member)
    · rw [added, List.mem_append, List.mem_singleton] at member
      rcases member with before | rfl
      · exact .inl before
      · exact .inr ⟨entry, hello, found, assigning_agrees env entry family hello db asg entry.point assigning
          (agree entry (List.mem_of_getElem? found)), rfl, rfl⟩
  obtain ⟨entry, hello, found, read, rest⟩ := earlier.elim (vouched a) id
  obtain ⟨after, stored, continues⟩ := effect_continues env st next action effect a.conn entry found
  exact ⟨after, hello, stored, (continues_outcome env entry after continues).trans read, rest⟩

theorem effect_added (effect : Effect env st action next) (agree : ConnsAgree env st) (family : Family) (p : IPPool)
    (pooled : next.pool family = some p) (clientID : ClientID) (addr : Addr) (held : p.byClient.lookup clientID = some addr)
    (absent : ∀ before, st.pool family = some before → before.byClient.lookup clientID ≠ some addr) :
    ∃ conn entry hello before, action.conn = some conn ∧ st.conns[conn]? = some entry ∧ entry.outcome env = .ok hello ∧
      hello.clientID = clientID ∧ st.pool family = some before ∧ Entered env hello.userName clientID before p := by
  have recorded : ∀ (before : IPPool) (other : ClientID) (a : Addr), st.pool family = some before →
      p = before.record other a → other = clientID := by
    rintro before other a stored rfl
    rcases IPPool.record_row before other clientID a addr held with ⟨same, _⟩ | row
    · exact same.symm
    · exact absurd row (absent before stored)
  have effects := effect_pool env st next action effect family
  rw [pooled] at effects
  cases effects with
  | same kept => exact absurd held (absent p kept.symm)
  | allocated conn entry hello db asg before changed result actor found assigning stored called pool =>
      cases pool
      have read := assigning_agrees env entry family hello db asg entry.point assigning (agree entry (List.mem_of_getElem? found))
      rcases IPPool.allocate_for_cases _ before _ _ _ _ db result called with
        ⟨_, _, rfl, _⟩ | ⟨_, a, _, same, _⟩ | ⟨_, rfl, _⟩
      · exact absurd held (absent p stored)
      · obtain rfl := recorded before _ a stored same
        exact ⟨conn, entry, hello, before, actor, found, read, rfl, stored, .allocateFor _ db result called⟩
      · exact absurd held (absent p stored)
  | claimed conn entry ident actor found admitted pool =>
      obtain ⟨before, stored, same⟩ := Option.map_eq_some_iff.mp pool.symm
      have agrees := agree entry (List.mem_of_getElem? found)
      rw [admitted] at agrees
      obtain ⟨hello, read, named⟩ := agrees
      have whole := same
      unfold IPPool.claim at same
      split_ifs at same
      · exact absurd held (absent p (same ▸ stored))
      · exact absurd held (absent p (same ▸ stored))
      · exact absurd held (absent p (same ▸ stored))
      · obtain rfl := recorded before _ _ stored same.symm
        exact ⟨conn, entry, hello, before, actor, found, read, named, stored, .claim _ whole.symm⟩
  | freed other frees pool =>
      obtain ⟨before, stored, rfl⟩ := Option.map_eq_some_iff.mp pool.symm
      exact absurd (IPPool.release_row before other clientID addr held) (absent before stored)

theorem effect_refused (effect : Effect env st action next) (agree : ConnsAgree env st) (conn : Nat) (entry : Conn)
    (failure : HandshakeFailure) (actor : action.conn = some conn) (found : st.conns[conn]? = some entry)
    (refused : entry.outcome env = .error failure) (family : Family) :
    next.pool family = st.pool family ∨ (st.sessions.lookup failure.clientID = none ∧
      next.pool family = (st.pool family).map fun p => p.release failure.clientID) := by
  have agrees := agree entry (List.mem_of_getElem? found)
  have unread : ∀ hello, entry.outcome env ≠ .ok hello := by simp [refused]
  have mine : ∀ other stored, action.conn = some other → st.conns[other]? = some stored → entry = stored := by
    intro other stored acts there
    obtain rfl : conn = other := Option.some.inj (actor.symm.trans acts)
    exact Option.some.inj (found.symm.trans there)
  cases effect_pool env st next action effect family with
  | same kept => exact .inl kept
  | allocated other stored hello db asg p changed result acts there assigning =>
      obtain rfl := mine other stored acts there
      exact absurd (assigning_agrees env entry family hello db asg entry.point assigning agrees) (unread hello)
  | claimed other stored ident acts there admitted =>
      obtain rfl := mine other stored acts there
      rw [admitted] at agrees
      obtain ⟨hello, read, _⟩ := agrees
      exact absurd read (unread hello)
  | freed clientID frees pool =>
      cases frees with
      | tearDown ref same => exact absurd actor (by simp [same, Action.conn])
      | conn other stored acts there releasing =>
          obtain rfl := mine other stored acts there
          generalize entry.point = point at agrees releasing
          cases releasing with
          | orphan _ _ free =>
              rcases agrees with ⟨known, read, rfl⟩ | ⟨hello, read, _⟩
              · obtain rfl : failure = known := Except.error.inj (refused.symm.trans read)
                exact .inr ⟨free, pool⟩
              · exact absurd read (unread hello)
          | quota =>
              obtain ⟨hello, read, _⟩ := agrees
              exact absurd read (unread hello)

end Steps

def Proven (env : Env) (st : MCState) : Prop := ConnsAgree env st ∧ Vouched env st

theorem proven_preserved (env : Env) : Runs.Preserved (step env) (fun _ _ => True) (Proven env) := by
  rintro st action next ⟨agree, vouched⟩ _ taken
  have effect := step_effect env st next action taken
  exact ⟨effect_conns_agree env st next action effect agree, effect_vouched env st next action effect agree vouched⟩

theorem start_proven (env : Env) (pool4 pool6 : Option IPPool) (userDB : Option UserDB) (queues : Nat) :
    Proven env (start pool4 pool6 userDB queues) :=
  ⟨fun _ member => absurd member (by simp [start]), fun _ member => absurd member (by simp [start])⟩

def Adds (st next : MCState) (family : Family) (clientID : ClientID) (addr : Addr) : Prop :=
  ∃ p, next.pool family = some p ∧ p.byClient.lookup clientID = some addr ∧
    ∀ before, st.pool family = some before → before.byClient.lookup clientID ≠ some addr

structure GaveBack (before after : IPPool) (clientID : ClientID) : Prop where
  own : after.byClient.lookup clientID = none
  others : ∀ other, other ≠ clientID → after.byClient.lookup other = before.byClient.lookup other
  marks : ∀ addr, before.byClient.lookup clientID ≠ some addr → after.used.flag addr = before.used.flag addr
  subnet : after.subnet = before.subnet
  reserved : after.reserved = before.reserved

theorem release_gave_back (p : IPPool) (clientID : ClientID) : GaveBack p (p.release clientID) clientID where
  own := by rw [IPPool.release_lookup, if_pos rfl]
  others := fun other different => by rw [IPPool.release_lookup, if_neg different]
  marks := by
    intro addr spared
    unfold IPPool.release
    split
    · rename_i held found
      have different : addr ≠ held := by
        rintro rfl
        exact spared found
      simp only [Table.flag, Table.lookup_drop, if_neg different]
    · rfl
  subnet := by
    unfold IPPool.release
    split <;> rfl
  reserved := by
    unfold IPPool.release
    split <;> rfl

-- Every connection sends arbitrary bytes, the authorizer is arbitrary and the
-- steps of all goroutines interleave in any order. An error outcome includes
-- the exits for the payload and the cipher behind the authorizer.
theorem authorization_before_allocation (env : Env) (pool4 pool6 : Option IPPool) (userDB : Option UserDB) (queues : Nat)
    (st next : MCState) (action : Action)
    (reached : Runs.Reach (step env) (fun _ _ => True) (start pool4 pool6 userDB queues) st)
    (taken : step env st action = some next) :
    (∀ family clientID addr, Adds st next family clientID addr →
      ∃ conn entry userName before after, action.conn = some conn ∧ st.conns[conn]? = some entry ∧
        entry.Admits env clientID userName ∧ st.pool family = some before ∧ next.pool family = some after ∧
        Entered env userName clientID before after) ∧
    (∀ a ∈ next.allocations, ∃ entry, next.conns[a.conn]? = some entry ∧ entry.Admits env a.clientID a.userName) ∧
    (∀ conn entry failure, action.conn = some conn → st.conns[conn]? = some entry → entry.outcome env = .error failure →
      ∀ family, next.pool family = st.pool family ∨
        (st.sessions.lookup failure.clientID = none ∧ ∃ before after, st.pool family = some before ∧
          next.pool family = some after ∧ GaveBack before after failure.clientID)) := by
  have effect := step_effect env st next action taken
  obtain ⟨agree, vouched⟩ :=
    Runs.reach_invariant (proven_preserved env) reached (start_proven env pool4 pool6 userDB queues)
  refine ⟨?_, ?_, ?_⟩
  · rintro family clientID addr ⟨p, pooled, held, absent⟩
    obtain ⟨conn, entry, hello, before, actor, found, read, rfl, stored, entered⟩ :=
      effect_added env st next action effect agree family p pooled clientID addr held absent
    exact ⟨conn, entry, hello.userName, before, p, actor, found, read_client_hello_admission env _ _ hello read, stored, pooled,
      entered⟩
  · intro a member
    obtain ⟨entry, hello, found, read, identity, name⟩ := effect_vouched env st next action effect agree vouched a member
    refine ⟨entry, found, ?_⟩
    rw [← identity, ← name]
    exact read_client_hello_admission env _ _ hello read
  · intro conn entry failure actor found refused family
    rcases effect_refused env st next action effect agree conn entry failure actor found refused family with
      kept | ⟨free, released⟩
    · exact .inl kept
    · cases pooled : st.pool family with
      | none => exact .inl (by rw [released, pooled, Option.map_none])
      | some before =>
          exact .inr ⟨free, before, before.release failure.clientID, rfl, by rw [released, pooled, Option.map_some],
            release_gave_back before failure.clientID⟩

end MCState

def strangerSteps : List Action :=
  [.accept (helloBytes 0xAA), .accept (helloBytes 0xCC), .handshake 0, .handshake 1, .assign 0]

def rowOfAnn (st : MCState) : Option (Option Addr) := st.pool4.map fun p => p.byClient.lookup clientA

def refusedID (entry : Conn) : Option ClientID :=
  match entry.outcome pairEnv with
  | .error failure => some failure.clientID
  | .ok _ => none

theorem authorization_before_allocation_stranger :
    (∃ st next entry userName before after, MCState.step pairEnv st (.allocate 0) = some next ∧ rowOfAnn st = some none ∧
      rowOfAnn next = some (some (.v4 #v[10, 66, 0, 2])) ∧ st.conns[0]? = some entry ∧ entry.Admits pairEnv clientA userName ∧
      st.pool4 = some before ∧ next.pool4 = some after ∧ MCState.Entered pairEnv userName clientA before after) ∧
    ∃ st next, MCState.step pairEnv st (.releaseOrphan 1) = some next ∧
      (st.conns[1]?).bind refusedID = some (Vector.replicate 16 0xCC) ∧ rowOfAnn next = some (some (.v4 #v[10, 66, 0, 2])) := by
  have admitted : ((Runs.execute (MCState.step pairEnv) (fun _ _ => True) pairStart strangerSteps).bind
      fun st => (MCState.step pairEnv st (.allocate 0)).map fun next => (st, next)).map
      (fun pair => (rowOfAnn pair.1, rowOfAnn pair.2)) = some (some none, some (some (.v4 #v[10, 66, 0, 2]))) := by
    decide +kernel
  have refused : ((Runs.execute (MCState.step pairEnv) (fun _ _ => True) pairStart (strangerSteps ++ [.allocate 0])).bind
      fun st => (MCState.step pairEnv st (.releaseOrphan 1)).map fun next => (st, next)).map
      (fun pair => ((pair.1.conns[1]?).bind refusedID, rowOfAnn pair.1)) =
      some (some (Vector.replicate 16 0xCC), some (some (.v4 #v[10, 66, 0, 2]))) := by
    decide +kernel
  constructor
  · obtain ⟨⟨st, next⟩, found, view⟩ := Option.map_eq_some_iff.mp admitted
    obtain ⟨_, completed, stepped⟩ := Option.bind_eq_some_iff.mp found
    obtain ⟨_, taken, same⟩ := Option.map_eq_some_iff.mp stepped
    cases same
    obtain ⟨empty, held⟩ := Prod.mk.inj view
    obtain ⟨p, pooled, row⟩ := Option.map_eq_some_iff.mp held
    have absent : ∀ before, st.pool .v4 = some before → before.byClient.lookup clientA ≠ some (.v4 #v[10, 66, 0, 2]) := by
      intro before stored
      obtain ⟨old, present, none⟩ := Option.map_eq_some_iff.mp empty
      obtain rfl : old = before := Option.some.inj (present.symm.trans stored)
      simp [none]
    obtain ⟨conn, entry, userName, before, after, actor, here, admits, entered⟩ :=
      (MCState.authorization_before_allocation pairEnv _ _ _ _ st next (.allocate 0)
        (Runs.execute_reach _ _ strangerSteps completed) taken).1 .v4 clientA _ ⟨p, pooled, row, absent⟩
    cases actor
    exact ⟨st, next, entry, userName, before, after, taken, empty, held, here, admits, entered⟩
  · obtain ⟨⟨st, next⟩, found, view⟩ := Option.map_eq_some_iff.mp refused
    obtain ⟨_, completed, stepped⟩ := Option.bind_eq_some_iff.mp found
    obtain ⟨_, taken, same⟩ := Option.map_eq_some_iff.mp stepped
    cases same
    obtain ⟨unknown, held⟩ := Prod.mk.inj view
    obtain ⟨entry, here, outcome⟩ := Option.bind_eq_some_iff.mp unknown
    refine ⟨st, next, taken, unknown, ?_⟩
    unfold refusedID at outcome
    split at outcome
    · rename_i failure error
      have mine : failure.clientID = Vector.replicate 16 0xCC := Option.some.inj outcome
      have reached := Runs.execute_reach pairStart st _ completed
      rcases (MCState.authorization_before_allocation pairEnv _ _ _ _ st next (.releaseOrphan 1) reached taken).2.2
        1 entry failure rfl here error .v4 with kept | ⟨_, before, after, stored, pooled, gave⟩
      · rw [rowOfAnn, show next.pool4 = st.pool4 from kept]
        exact held
      · have other : clientA ≠ failure.clientID := by
          rw [mine]
          decide
        rw [rowOfAnn, show st.pool4 = some before from stored, Option.map_some] at held
        rw [rowOfAnn, show next.pool4 = some after from pooled, Option.map_some, gave.others clientA other]
        exact held
    · cases outcome

end Packethose
