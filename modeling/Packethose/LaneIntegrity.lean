import Packethose.LaneReceive

set_option autoImplicit false

namespace Packethose

def CountersMatch (events : List LaneEvent) : Prop :=
  ∀ before counter ciphertext result after, events = before ++ .opened counter ciphertext result :: after →
    counter.toNat = (openedPayloads before).length

-- Nothing at all happens behind an open that failed, not even a header read.
def FailedLast (events : List LaneEvent) : Prop :=
  ∀ before counter ciphertext after, events = before ++ .opened counter ciphertext none :: after → after = []

def Quiet (entries : List LaneEvent) : Prop :=
  ∀ counter ciphertext result, LaneEvent.opened counter ciphertext result ∉ entries

theorem event_split (events entries before after : List LaneEvent) (event : LaneEvent)
    (same : events ++ entries = before ++ event :: after) :
    (∃ middle, before = events ++ middle ∧ entries = middle ++ event :: after) ∨
      (∃ middle, events = before ++ event :: middle ∧ after = middle ++ entries) := by
  rcases List.append_eq_append_iff.mp same with ⟨middle, left, right⟩ | ⟨middle, left, right⟩
  · exact Or.inl ⟨middle, left, right⟩
  · cases middle with
    | nil => exact Or.inl ⟨[], by simpa using left.symm, by simpa using right.symm⟩
    | cons first rest =>
        rw [List.cons_append, List.cons.injEq] at right
        exact Or.inr ⟨rest, by rw [left, right.1], right.2⟩

theorem extend_front (front whole : List Bytes) (next : Bytes) (starts : front <+: whole)
    (found : whole[front.length]? = some next) : front ++ [next] <+: whole := by
  obtain ⟨rest, rfl⟩ := starts
  rw [List.getElem?_append_right (Nat.le_refl _), Nat.sub_self] at found
  cases rest with
  | nil => simp at found
  | cons first more =>
      obtain rfl : first = next := by simpa using found
      exact ⟨more, by simp⟩

theorem quiet_payloads (entries : List LaneEvent) (quiet : Quiet entries) : openedPayloads entries = [] := by
  apply List.filterMap_eq_nil_iff.mpr
  intro event member
  cases event with
  | header => rfl
  | wrote => rfl
  | opened counter ciphertext result => exact absurd member (quiet counter ciphertext result)

theorem quiet_wrote (packets : List Bytes) : Quiet (packets.map .wrote) := by
  intro counter ciphertext result member
  simp at member

namespace Receiver

structure Lockstep (aead : AEAD) (sealed : List Bytes) (r : Receiver) : Prop where
  direction : DirectionAfter (some aead) (openedPayloads r.events).length r.opener
  opened : openedPayloads r.events <+: sealed
  counters : CountersMatch r.events
  succeeded : ∀ counter ciphertext, LaneEvent.opened counter ciphertext none ∉ r.events

structure LockstepEnd (sealed : List Bytes) (r : Receiver) : Prop where
  opened : openedPayloads r.events <+: sealed
  counters : CountersMatch r.events
  failedLast : FailedLast r.events

theorem lockstep_end (aead : AEAD) (sealed : List Bytes) (r : Receiver) (lockstep : r.Lockstep aead sealed) :
    r.LockstepEnd sealed := by
  refine ⟨lockstep.opened, lockstep.counters, fun before counter ciphertext after same => ?_⟩
  exact absurd (by simp [same]) (lockstep.succeeded counter ciphertext)

theorem lockstep_log (aead : AEAD) (sealed : List Bytes) (r : Receiver) (entries : List LaneEvent) (quiet : Quiet entries)
    (lockstep : r.Lockstep aead sealed) : (r.log entries).Lockstep aead sealed := by
  have payloads : openedPayloads (r.events ++ entries) = openedPayloads r.events := by
    rw [openedPayloads, List.filterMap_append, ← openedPayloads, ← openedPayloads, quiet_payloads entries quiet, List.append_nil]
  refine ⟨?_, ?_, ?_, ?_⟩
  · rw [log, payloads]
    exact lockstep.direction
  · rw [log, payloads]
    exact lockstep.opened
  · intro before counter ciphertext result after same
    rcases event_split r.events entries before after _ same with ⟨middle, _, inside⟩ | ⟨middle, earlier, _⟩
    · exact absurd (by simp [inside]) (quiet counter ciphertext result)
    · exact lockstep.counters before counter ciphertext result middle earlier
  · intro counter ciphertext member
    rcases List.mem_append.mp member with earlier | later
    · exact lockstep.succeeded counter ciphertext earlier
    · exact quiet counter ciphertext none later

theorem counters_open (events : List LaneEvent) (matched : CountersMatch events) (counter : UInt64) (ciphertext : Bytes)
    (result : Option Bytes) (current : counter.toNat = (openedPayloads events).length) :
    CountersMatch (events ++ [.opened counter ciphertext result]) := by
  intro before other body outcome after same
  rcases event_split events _ before after _ same with ⟨middle, left, right⟩ | ⟨middle, earlier, _⟩
  · obtain ⟨rfl, here⟩ | ⟨_, _, absent⟩ := List.cons_eq_append_iff.mp right
    · obtain ⟨rfl, _, _⟩ := LaneEvent.opened.inj (List.cons.inj here).1
      rw [left, List.append_nil, current]
    · simp at absent
  · exact matched before other body outcome middle earlier

theorem failed_last_open (events : List LaneEvent)
    (succeeded : ∀ counter ciphertext, LaneEvent.opened counter ciphertext none ∉ events)
    (counter : UInt64) (ciphertext : Bytes) (result : Option Bytes) :
    FailedLast (events ++ [.opened counter ciphertext result]) := by
  intro before other body after same
  rcases event_split events _ before after _ same with ⟨middle, left, right⟩ | ⟨middle, earlier, _⟩
  · obtain ⟨rfl, here⟩ | ⟨_, _, absent⟩ := List.cons_eq_append_iff.mp right
    · exact (List.cons.inj here).2
    · simp at absent
  · exact absurd (by simp [earlier]) (succeeded other body)

theorem accept_keyed (r : Receiver) (f : FrameAEAD) (keyed : r.opener = some f) (body : Bytes) :
    r.accept body =
      (⟨some (f.openFrame body).1, r.events ++ [.opened f.counter body (f.openFrame body).2]⟩, (f.openFrame body).2) := by
  unfold accept
  rw [keyed]

theorem lockstep_accept (aead : AEAD) (sealed : List Bytes) (ideal : IdealOpening aead sealed) (r : Receiver)
    (lockstep : r.Lockstep aead sealed) (body : Bytes) :
    ((r.accept body).2 ≠ none → (r.accept body).1.Lockstep aead sealed) ∧ (r.accept body).1.LockstepEnd sealed := by
  have reached : (openedPayloads r.events).length ≤ sealed.length := lockstep.opened.length_le
  have bounded := ideal_run_bounded aead sealed ideal
  obtain ⟨f, keyed, after⟩ : ∃ f, r.opener = some f ∧ FrameAEAD.After aead (openedPayloads r.events).length f := by
    have direction := lockstep.direction
    generalize r.opener = opener at direction
    cases direction with
    | keyed _ _ f after => exact ⟨f, rfl, after⟩
  have current : f.counter.toNat = (openedPayloads r.events).length := by
    rw [after.counter, UInt64.toNat_ofNat', Nat.mod_eq_of_lt (Nat.lt_of_le_of_lt reached bounded)]
  obtain ⟨result, advanced⟩ := FrameAEAD.open_after aead _ f after body
  have counters := counters_open r.events lockstep.counters f.counter body (f.openFrame body).2 current
  have last := failed_last_open r.events lockstep.succeeded f.counter body (f.openFrame body).2
  rw [accept_keyed r f keyed body]
  cases outcome : (f.openFrame body).2 with
  | none =>
      rw [outcome] at counters last
      have payloads : openedPayloads (r.events ++ [.opened f.counter body none]) = openedPayloads r.events := by
        simp [openedPayloads, LaneEvent.payload]
      exact ⟨fun absent => absurd rfl absent, by rw [payloads]; exact lockstep.opened, counters, last⟩
  | some payload =>
      rw [outcome] at counters last result
      have payloads : openedPayloads (r.events ++ [.opened f.counter body (some payload)]) = openedPayloads r.events ++ [payload] := by
        simp [openedPayloads, LaneEvent.payload]
      have next := ideal_open_exact aead sealed ideal _ reached body payload result.symm
      have extended := extend_front _ sealed payload lockstep.opened next
      have still : Lockstep aead sealed ⟨some (f.openFrame body).1, r.events ++ [.opened f.counter body (some payload)]⟩ := by
        refine ⟨?_, by rw [payloads]; exact extended, counters, fun counter ciphertext member => ?_⟩
        · rw [payloads, List.length_append]
          exact .keyed aead _ _ advanced
        · rcases List.mem_append.mp member with earlier | here
          · exact lockstep.succeeded counter ciphertext earlier
          · simp at here
      exact ⟨fun _ => still, lockstep_end aead sealed _ still⟩

theorem lockstep_frame (aead : AEAD) (sealed : List Bytes) (ideal : IdealOpening aead sealed) (tun : Nat → TunWrite)
    (r : Receiver) (typ : UInt8) (body : Bytes) (lockstep : r.Lockstep aead sealed) :
    ((r.receiveFrame tun typ body).2 = none → (r.receiveFrame tun typ body).1.Lockstep aead sealed) ∧
      (r.receiveFrame tun typ body).1.LockstepEnd sealed := by
  obtain ⟨continued, ended⟩ := lockstep_accept aead sealed ideal r lockstep body
  cases accepted : (r.accept body).2 with
  | none =>
      rw [receive_frame_refused tun r typ body accepted]
      exact ⟨fun absent => absurd absent (by simp), ended⟩
  | some payload =>
      obtain ⟨packets, _, logged, _⟩ := receive_frame_opened tun r typ body payload accepted
      have still := lockstep_log aead sealed _ _ (quiet_wrote packets) (continued (by simp [accepted]))
      rw [logged]
      exact ⟨fun _ => still, lockstep_end aead sealed _ still⟩

theorem lockstep_run (aead : AEAD) (sealed : List Bytes) (ideal : IdealOpening aead sealed) (tun : Nat → TunWrite)
    (stream : Bytes) : ((fresh (some aead)).sockToTun tun stream).1.LockstepEnd sealed := by
  apply sock_to_tun_rule tun (Lockstep aead sealed) (LockstepEnd sealed) (lockstep_end aead sealed)
  · exact fun r typ size held => lockstep_log aead sealed r _ (by intro counter ciphertext result; simp) held
  · exact fun r typ body held => lockstep_frame aead sealed ideal tun r typ body held
  · refine ⟨direction_fresh (some aead), List.nil_prefix, ?_, ?_⟩
    · intro before counter ciphertext result after same
      simp [fresh] at same
    · simp [fresh]

end Receiver

theorem sender_nonces_fresh (aead : AEAD) (s : Sender) (tracked : s.Tracked (some aead)) (short : s.frames.length < UInt64.size) :
    s.nonces.Nodup := by
  rw [tracked.nonces rfl]
  apply List.Nodup.map_on _ List.nodup_range
  intro first inFirst second inSecond same
  rw [List.mem_range] at inFirst inSecond
  exact FrameAEAD.nonce_for_injective first second (by omega) (by omega) same

theorem counter_lockstep (aead : AEAD) (conn : Nat → WriteResult) (minRead : Nat) (reads : List LaneRead) :
    let s := (Sender.fresh (some aead)).sendReads conn minRead reads
    (s.nonces.length = s.frames.length ∧ (s.frames.length < UInt64.size → s.nonces.Nodup)) ∧
    (IdealOpening aead (s.frames.map Frame.payload) → ∀ (tun : Nat → TunWrite) (stream : Bytes),
      let events := ((Receiver.fresh (some aead)).sockToTun tun stream).1.events
      (∀ before counter ciphertext result after, events = before ++ .opened counter ciphertext result :: after →
        counter.toNat = (openedPayloads before).length) ∧
      openedPayloads events <+: s.frames.map Frame.payload ∧
      (∀ before counter ciphertext after, events = before ++ .opened counter ciphertext none :: after → after = [])) := by
  intro s
  have tracked := Sender.send_tracked (some aead) conn minRead reads
  refine ⟨⟨?_, sender_nonces_fresh aead s tracked⟩, fun ideal tun stream => ?_⟩
  · rw [tracked.nonces rfl, List.length_map, List.length_range]
  · have final := Receiver.lockstep_run aead _ ideal tun stream
    exact ⟨final.counters, final.opened, final.failedLast⟩

def onceAEAD (payload : Bytes) : AEAD where
  sealBytes _ plaintext := plaintext ++ List.replicate aeadOverhead 0
  openBytes nonce ciphertext :=
    if nonce = FrameAEAD.nonceFor 0 ∧ ciphertext = payload ++ List.replicate aeadOverhead 0 then some payload else none
  seal_length := zero_tag_length

theorem once_ideal (payload : Bytes) : IdealOpening (onceAEAD payload) [payload] := by
  refine ⟨fun count sent => ?_, fun count bounded ciphertext plaintext opened => ?_⟩
  · obtain rfl : count = 0 := by simpa using sent
    simp [onceAEAD]
  · dsimp only [onceAEAD] at opened
    split_ifs at opened with fits
    obtain rfl : count = 0 :=
      FrameAEAD.nonce_for_injective count 0 (Nat.lt_of_le_of_lt bounded (by simp [UInt64.size])) (by decide) fits.1
    exact ⟨by simp, fits.2⟩

theorem counter_lockstep_replayed_frame :
    openedPayloads ((Receiver.fresh (some (onceAEAD [7]))).sockToTun (fun _ => .accepted)
      (wireOf (some (onceAEAD [7])) 0 [⟨frTypeSingle, [7]⟩] ++ wireOf (some (onceAEAD [7])) 0 [⟨frTypeSingle, [7]⟩])).1.events <+:
        [[7]] :=
  ((counter_lockstep (onceAEAD [7]) (fun _ => .written) 1 [.plain (.got [7])]).2 (once_ideal [7]) (fun _ => .accepted) _).2.1

end Packethose
