import Packethose.Lib.Channels
import Packethose.Lib.Counting
import Packethose.Lib.Octets
import Packethose.Lib.Runs

set_option autoImplicit false

namespace Packethose

open Channels (Channel)

-- A call of WritePackets: the packets from the current one on, whether the
-- current one is past its check of closed, and how many were queued. The
-- result tells ErrClosedForSend from nil.
structure PacketWriter where
  packets : List Bytes
  passed : Bool
  written : Nat
  result : Option Bool
deriving DecidableEq

inductive CloserPoint where
  | entered
  | swapped
  | hooking
  | returned
deriving DecidableEq

-- The last six fields are histories: the calls of close(outQueue) and of
-- onClose, the packets WritePackets counted with the call that did, the
-- packets Read took off the queue with the size of its buffer, what it
-- returned of them, and whether a Read reported net.ErrClosed.
structure NetEndpoint where
  closed : Bool
  outQueue : Channel Bytes
  panicked : Bool
  writers : List PacketWriter
  closers : List CloserPoint
  closes : Nat
  hooks : Nat
  counted : List (Nat × Bytes)
  taken : List (Nat × Bytes)
  returned : List Bytes
  reported : Bool

inductive NetstackAction where
  | writePackets (packets : List Bytes)
  | check (writer : Nat)
  | send (writer : Nat)
  | close
  | swap (closer : Nat)
  | shut (closer : Nat)
  | hook (closer : Nat)
  | read (room : Nat)

namespace NetEndpoint

def newEndpoint : NetEndpoint where
  closed := false
  outQueue := .make 1024
  panicked := false
  writers := []
  closers := []
  closes := 0
  hooks := 0
  counted := []
  taken := []
  returned := []
  reported := false

def setWriter (e : NetEndpoint) (writer : Nat) (w : PacketWriter) : NetEndpoint :=
  { e with writers := e.writers.modify writer fun _ => w }

def setCloser (e : NetEndpoint) (closer : Nat) (point : CloserPoint) : NetEndpoint :=
  { e with closers := e.closers.modify closer fun _ => point }

def check (e : NetEndpoint) (writer : Nat) : Option NetEndpoint :=
  match e.writers[writer]? with
  | some ⟨[], false, written, none⟩ => some (e.setWriter writer ⟨[], false, written, some false⟩)
  | some ⟨packet :: rest, false, written, none⟩ =>
      if e.closed then some (e.setWriter writer ⟨packet :: rest, false, written, some true⟩)
      else some (e.setWriter writer ⟨packet :: rest, true, written, none⟩)
  | _ => none

def send (e : NetEndpoint) (writer : Nat) : Option NetEndpoint :=
  match e.writers[writer]? with
  | some ⟨packet :: rest, true, written, none⟩ =>
      match e.outQueue.trySend packet with
      | (queue, .sent) =>
          let queued : NetEndpoint := { e with outQueue := queue, counted := e.counted ++ [(writer, packet)] }
          some (queued.setWriter writer ⟨rest, false, written + 1, none⟩)
      | (_, .full) => some (e.setWriter writer ⟨rest, false, written, none⟩)
      | (_, .panics) => some { e with panicked := true }
  | _ => none

def swap (e : NetEndpoint) (closer : Nat) : Option NetEndpoint :=
  match e.closers[closer]? with
  | some .entered =>
      let marked : NetEndpoint := { e with closed := true }
      some (marked.setCloser closer (if e.closed then .returned else .swapped))
  | _ => none

def shut (e : NetEndpoint) (closer : Nat) : Option NetEndpoint :=
  match e.closers[closer]? with
  | some .swapped =>
      match e.outQueue.close with
      | some queue =>
          let ended : NetEndpoint := { e with outQueue := queue, closes := e.closes + 1 }
          some (ended.setCloser closer .hooking)
      | none => some { e with panicked := true }
  | _ => none

def hook (e : NetEndpoint) (closer : Nat) : Option NetEndpoint :=
  match e.closers[closer]? with
  | some .hooking =>
      let called : NetEndpoint := { e with hooks := e.hooks + 1 }
      some (called.setCloser closer .returned)
  | _ => none

def read (e : NetEndpoint) (room : Nat) : Option NetEndpoint :=
  match e.outQueue.receive with
  | (queue, .got packet) =>
      some { e with outQueue := queue, taken := e.taken ++ [(room, packet)], returned := e.returned ++ [packet.take room] }
  | (_, .drained) => some { e with reported := true }
  | (_, .blocks) => none

def step (e : NetEndpoint) (action : NetstackAction) : Option NetEndpoint :=
  if e.panicked then none
  else
    match action with
    | .writePackets packets => some { e with writers := e.writers ++ [⟨packets, false, 0, none⟩] }
    | .check writer => e.check writer
    | .send writer => e.send writer
    | .close => some { e with closers := e.closers ++ [.entered] }
    | .swap closer => e.swap closer
    | .shut closer => e.shut closer
    | .hook closer => e.hook closer
    | .read room => e.read room

inductive Effect (e : NetEndpoint) : NetstackAction → NetEndpoint → Prop where
  | begun (packets : List Bytes) : Effect e (.writePackets packets) { e with writers := e.writers ++ [⟨packets, false, 0, none⟩] }
  | checked (writer : Nat) (w next : PacketWriter) (found : e.writers[writer]? = some w) (fresh : w.passed = false)
      (same : next.written = w.written) (unclosed : next.passed = true → e.closed = false) :
      Effect e (.check writer) (e.setWriter writer next)
  | sent (writer : Nat) (packet : Bytes) (rest : List Bytes) (written : Nat) (queue : Channel Bytes)
      (found : e.writers[writer]? = some ⟨packet :: rest, true, written, none⟩)
      (taken : e.outQueue.trySend packet = (queue, .sent)) :
      Effect e (.send writer)
        (setWriter { e with outQueue := queue, counted := e.counted ++ [(writer, packet)] } writer ⟨rest, false, written + 1, none⟩)
  | dropped (writer : Nat) (packet : Bytes) (rest : List Bytes) (written : Nat)
      (found : e.writers[writer]? = some ⟨packet :: rest, true, written, none⟩) (opened : e.outQueue.shut = false) :
      Effect e (.send writer) (e.setWriter writer ⟨rest, false, written, none⟩)
  | crashed (writer : Nat) (w : PacketWriter) (found : e.writers[writer]? = some w) (passed : w.passed = true)
      (shut : e.outQueue.shut = true) : Effect e (.send writer) { e with panicked := true }
  | entered : Effect e .close { e with closers := e.closers ++ [.entered] }
  | swapped (closer : Nat) (found : e.closers[closer]? = some .entered) (opened : e.closed = false) :
      Effect e (.swap closer) (setCloser { e with closed := true } closer .swapped)
  | swappedAgain (closer : Nat) (found : e.closers[closer]? = some .entered) (closed : e.closed = true) :
      Effect e (.swap closer) (setCloser { e with closed := true } closer .returned)
  | shut (closer : Nat) (found : e.closers[closer]? = some .swapped) (opened : e.outQueue.shut = false) :
      Effect e (.shut closer)
        (setCloser { e with outQueue := { e.outQueue with shut := true }, closes := e.closes + 1 } closer .hooking)
  | shutAgain (closer : Nat) (found : e.closers[closer]? = some .swapped) (shut : e.outQueue.shut = true) :
      Effect e (.shut closer) { e with panicked := true }
  | hooked (closer : Nat) (found : e.closers[closer]? = some .hooking) :
      Effect e (.hook closer) (setCloser { e with hooks := e.hooks + 1 } closer .returned)
  | got (room : Nat) (packet : Bytes) (queue : Channel Bytes) (taken : e.outQueue.receive = (queue, .got packet)) :
      Effect e (.read room)
        { e with outQueue := queue, taken := e.taken ++ [(room, packet)], returned := e.returned ++ [packet.take room] }
  | drained (room : Nat) (shut : e.outQueue.shut = true) (empty : e.outQueue.items = []) :
      Effect e (.read room) { e with reported := true }

theorem check_effect (e next : NetEndpoint) (writer : Nat) (taken : e.check writer = some next) : Effect e (.check writer) next := by
  unfold check at taken
  split at taken
  · rename_i written found
    exact Option.some.inj taken ▸ .checked writer _ _ found rfl rfl nofun
  · rename_i packet rest written found
    split_ifs at taken with closed
    · exact Option.some.inj taken ▸ .checked writer _ _ found rfl rfl nofun
    · exact Option.some.inj taken ▸ .checked writer _ _ found rfl rfl fun _ => by simpa using closed
  · cases taken

theorem send_effect (e next : NetEndpoint) (writer : Nat) (taken : e.send writer = some next) : Effect e (.send writer) next := by
  unfold send at taken
  split at taken
  · rename_i packet rest written found
    split at taken
    · rename_i queue sending
      exact Option.some.inj taken ▸ .sent writer packet rest written queue found sending
    · rename_i queue sending
      have opened : e.outQueue.shut = false := by
        by_contra shut
        have crash := (Channels.try_send_panics e.outQueue packet e.outQueue).mpr ⟨by simpa using shut, rfl⟩
        rw [crash] at sending
        cases sending
      exact Option.some.inj taken ▸ .dropped writer packet rest written found opened
    · rename_i queue sending
      have shut := ((Channels.try_send_panics e.outQueue packet queue).mp sending).1
      exact Option.some.inj taken ▸ .crashed writer _ found rfl shut
  · cases taken

theorem closer_effect (e next : NetEndpoint) (closer : Nat) :
    (e.swap closer = some next → Effect e (.swap closer) next) ∧ (e.shut closer = some next → Effect e (.shut closer) next) ∧
      (e.hook closer = some next → Effect e (.hook closer) next) := by
  refine ⟨fun taken => ?_, fun taken => ?_, fun taken => ?_⟩
  · unfold swap at taken
    split at taken
    · rename_i found
      cases closed : e.closed with
      | false =>
          rw [closed] at taken
          exact Option.some.inj taken ▸ .swapped closer found closed
      | true =>
          rw [closed] at taken
          exact Option.some.inj taken ▸ .swappedAgain closer found closed
    · cases taken
  · unfold shut at taken
    split at taken
    · rename_i found
      split at taken
      · rename_i queue closing
        obtain ⟨opened, rfl⟩ := Channels.close_open e.outQueue queue closing
        exact Option.some.inj taken ▸ .shut closer found opened
      · rename_i closing
        refine Option.some.inj taken ▸ .shutAgain closer found ?_
        by_contra opened
        rw [Channel.close, if_neg opened] at closing
        cases closing
    · cases taken
  · unfold hook at taken
    split at taken
    · rename_i found
      exact Option.some.inj taken ▸ .hooked closer found
    · cases taken

theorem step_effect (e next : NetEndpoint) (action : NetstackAction) (taken : e.step action = some next) :
    e.panicked = false ∧ Effect e action next := by
  unfold step at taken
  split_ifs at taken with panicked
  refine ⟨by simpa using panicked, ?_⟩
  cases action with
  | writePackets packets => exact Option.some.inj taken ▸ .begun packets
  | check writer => exact check_effect e next writer taken
  | send writer => exact send_effect e next writer taken
  | close => exact Option.some.inj taken ▸ .entered
  | swap closer => exact (closer_effect e next closer).1 taken
  | shut closer => exact (closer_effect e next closer).2.1 taken
  | hook closer => exact (closer_effect e next closer).2.2 taken
  | read room =>
      change e.read room = some next at taken
      unfold read at taken
      split at taken
      · rename_i queue packet receiving
        exact Option.some.inj taken ▸ .got room packet queue receiving
      · rename_i queue receiving
        obtain ⟨shut, empty⟩ := Channels.receive_drained e.outQueue queue receiving
        exact Option.some.inj taken ▸ .drained room shut empty
      · cases taken

def turnsTaken (closers : List CloserPoint) : Nat := closers.countP (· == .swapped)

structure Orderly (e : NetEndpoint) : Prop where
  relayed : e.outQueue.Relayed (e.counted.map Prod.snd) (e.taken.map Prod.snd)
  known : ∀ entry ∈ e.counted, entry.1 < e.writers.length
  written : ∀ (writer : Nat) (w : PacketWriter), e.writers[writer]? = some w →
    w.written = e.counted.countP fun entry => entry.1 == writer
  turns : turnsTaken e.closers + e.closes = if e.closed then 1 else 0
  shut : e.outQueue.shut = decide (0 < e.closes)
  reported : e.reported = true → e.outQueue.shut = true ∧ e.outQueue.items = []

theorem set_writer_found (e : NetEndpoint) (writer other : Nat) (next w : PacketWriter)
    (found : (e.setWriter writer next).writers[other]? = some w) :
    (other = writer ∧ w = next) ∨ (other ≠ writer ∧ e.writers[other]? = some w) := by
  rw [setWriter, List.getElem?_modify] at found
  by_cases same : writer = other
  · subst same
    obtain ⟨_, _, rfl⟩ := Option.map_eq_some_iff.mp found
    exact .inl ⟨rfl, if_pos rfl⟩
  · exact .inr ⟨Ne.symm same, by simpa [same] using found⟩

theorem set_writer_orderly (e : NetEndpoint) (orderly : e.Orderly) (writer : Nat) (w next : PacketWriter)
    (found : e.writers[writer]? = some w) (same : next.written = w.written) : (e.setWriter writer next).Orderly := by
  refine ⟨orderly.relayed, fun entry member => ?_, fun other v stored => ?_, orderly.turns, orderly.shut, orderly.reported⟩
  · exact (List.length_modify ..).symm ▸ orderly.known entry member
  · rcases e.set_writer_found writer other next v stored with ⟨rfl, rfl⟩ | ⟨_, old⟩
    · exact same.trans (orderly.written other w found)
    · exact orderly.written other v old

theorem begun_orderly (e : NetEndpoint) (orderly : e.Orderly) (packets : List Bytes) :
    Orderly { e with writers := e.writers ++ [⟨packets, false, 0, none⟩] } := by
  refine ⟨orderly.relayed, fun entry member => ?_, fun writer w stored => ?_, orderly.turns, orderly.shut, orderly.reported⟩
  · have inside := orderly.known entry member
    simp only [List.length_append]
    omega
  · rw [List.getElem?_append] at stored
    split_ifs at stored with old
    · exact orderly.written writer w stored
    · rw [List.mem_singleton.mp (List.mem_of_getElem? stored), eq_comm, List.countP_eq_zero]
      intro entry member
      have inside := orderly.known entry member
      simp
      omega

theorem sent_orderly (e : NetEndpoint) (orderly : e.Orderly) (writer : Nat) (packet : Bytes) (rest : List Bytes) (written : Nat)
    (queue : Channel Bytes) (found : e.writers[writer]? = some ⟨packet :: rest, true, written, none⟩)
    (taken : e.outQueue.trySend packet = (queue, .sent)) :
    Orderly (setWriter { e with outQueue := queue, counted := e.counted ++ [(writer, packet)] } writer
      ⟨rest, false, written + 1, none⟩) := by
  obtain ⟨relayed, opened, unshut⟩ := Channels.relayed_sent e.outQueue queue packet taken _ _ orderly.relayed
  have more : (e.counted ++ [(writer, packet)]).map Prod.snd = e.counted.map Prod.snd ++ [packet] := by simp
  refine ⟨more.symm ▸ relayed, fun entry member => ?_, fun other v stored => ?_, orderly.turns,
    (unshut.trans opened.symm).trans orderly.shut, fun ended => ?_⟩
  · rw [setWriter, List.length_modify]
    rcases List.mem_append.mp member with old | new
    · exact orderly.known entry old
    · rw [List.mem_singleton.mp new]
      exact (List.getElem?_eq_some_iff.mp found).1
  · rw [setWriter, List.countP_append, List.countP_singleton]
    rcases set_writer_found _ writer other _ v stored with ⟨rfl, rfl⟩ | ⟨different, old⟩
    · rw [beq_self_eq_true, if_pos rfl, ← orderly.written other _ found]
    · rw [if_neg (by simpa using Ne.symm different), orderly.written other v old]
      rfl
  · rw [(orderly.reported ended).1] at opened
    cases opened

theorem turns_moved (closers : List CloserPoint) (closer : Nat) (before point : CloserPoint) (found : closers[closer]? = some before) :
    turnsTaken (closers.modify closer fun _ => point) + (if before == .swapped then 1 else 0) =
      turnsTaken closers + if point == .swapped then 1 else 0 :=
  Counting.count_modify closers closer (fun _ => point) (· == .swapped) before found

theorem effect_orderly (e next : NetEndpoint) (action : NetstackAction) (effect : Effect e action next) (orderly : e.Orderly) :
    next.Orderly := by
  have turns := orderly.turns
  have shut := orderly.shut
  cases effect with
  | begun packets => exact begun_orderly e orderly packets
  | checked writer w next found fresh same unclosed => exact set_writer_orderly e orderly writer w next found same
  | dropped writer packet rest written found opened => exact set_writer_orderly e orderly writer _ _ found rfl
  | sent writer packet rest written queue found taken => exact sent_orderly e orderly writer packet rest written queue found taken
  | crashed | shutAgain => exact ⟨orderly.relayed, orderly.known, orderly.written, turns, shut, orderly.reported⟩
  | entered =>
      have kept : turnsTaken (e.closers ++ [.entered]) = turnsTaken e.closers := by simp [turnsTaken]
      exact ⟨orderly.relayed, orderly.known, orderly.written, kept.symm ▸ turns, shut, orderly.reported⟩
  | swapped closer found opened =>
      have moved : turnsTaken (e.closers.modify closer fun _ => .swapped) = turnsTaken e.closers + 1 :=
        turns_moved e.closers closer .entered .swapped found
      have total : turnsTaken (e.closers.modify closer fun _ => .swapped) + e.closes = 1 := by
        rw [opened, if_neg nofun] at turns
        omega
      exact ⟨orderly.relayed, orderly.known, orderly.written, total, shut, orderly.reported⟩
  | swappedAgain closer found closed =>
      have moved : turnsTaken (e.closers.modify closer fun _ => .returned) = turnsTaken e.closers :=
        turns_moved e.closers closer .entered .returned found
      rw [← moved, closed] at turns
      exact ⟨orderly.relayed, orderly.known, orderly.written, turns, shut, orderly.reported⟩
  | shut closer found opened =>
      have moved : turnsTaken (e.closers.modify closer fun _ => .hooking) + 1 = turnsTaken e.closers :=
        turns_moved e.closers closer .swapped .hooking found
      have total : turnsTaken (e.closers.modify closer fun _ => .hooking) + (e.closes + 1) = if e.closed then 1 else 0 := by omega
      exact ⟨orderly.relayed, orderly.known, orderly.written, total, (decide_eq_true (Nat.succ_pos e.closes)).symm,
        fun ended => ⟨rfl, (orderly.reported ended).2⟩⟩
  | hooked closer found =>
      have moved : turnsTaken (e.closers.modify closer fun _ => .returned) = turnsTaken e.closers :=
        turns_moved e.closers closer .hooking .returned found
      rw [← moved] at turns
      exact ⟨orderly.relayed, orderly.known, orderly.written, turns, shut, orderly.reported⟩
  | got room packet queue taken =>
      obtain ⟨relayed, same⟩ := Channels.relayed_got e.outQueue queue packet taken _ _ orderly.relayed
      have more : (e.taken ++ [(room, packet)]).map Prod.snd = e.taken.map Prod.snd ++ [packet] := by simp
      refine ⟨more.symm ▸ relayed, orderly.known, orderly.written, turns, same.trans shut, fun ended => ?_⟩
      rw [Channel.receive, (orderly.reported ended).2] at taken
      dsimp only at taken
      split_ifs at taken <;> cases (Prod.mk.inj taken).2
  | drained room ended empty => exact ⟨orderly.relayed, orderly.known, orderly.written, turns, shut, fun _ => ⟨ended, empty⟩⟩

theorem orderly_preserved : Runs.Preserved step (fun _ _ => True) Orderly := fun e action next orderly _ taken =>
  effect_orderly e next action (step_effect e next action taken).2 orderly

theorem new_endpoint_orderly : newEndpoint.Orderly := ⟨rfl, nofun, nofun, rfl, rfl, nofun⟩

theorem orderly_closes (e : NetEndpoint) (orderly : e.Orderly) : e.closes ≤ 1 := by
  have turns := orderly.turns
  split_ifs at turns <;> omega

theorem shut_closed (e : NetEndpoint) (orderly : e.Orderly) (ended : e.outQueue.shut = true) : e.closed = true := by
  have turns := orderly.turns
  have closes := of_decide_eq_true (orderly.shut.symm.trans ended)
  split_ifs at turns with closed
  · exact closed
  · omega

theorem swapped_open (e : NetEndpoint) (orderly : e.Orderly) (closer : Nat) (found : e.closers[closer]? = some .swapped) :
    e.outQueue.shut = false := by
  have pending : 0 < turnsTaken e.closers := List.countP_pos_iff.mpr ⟨.swapped, List.mem_of_getElem? found, rfl⟩
  have turns := orderly.turns
  rw [orderly.shut]
  refine decide_eq_false fun closes => ?_
  split_ifs at turns <;> omega

def Doomed (e : NetEndpoint) : Prop :=
  e.outQueue.shut = true ∧ ∃ (writer : Nat) (w : PacketWriter), e.writers[writer]? = some w ∧ w.passed = true

structure Sound (e : NetEndpoint) : Prop where
  alive : e.panicked = false
  settled : ¬ e.Doomed

def Whole (e : NetEndpoint) : Prop := e.returned = e.taken.map Prod.snd

def quiet (e : NetEndpoint) : NetstackAction → Bool
  | .shut _ => e.writers.all fun w => !w.passed
  | .read room => e.outQueue.items.head?.all fun packet => packet.length ≤ room
  | _ => true

def Quiet (e : NetEndpoint) (action : NetstackAction) : Prop := e.quiet action = true

instance (e : NetEndpoint) (action : NetstackAction) : Decidable (e.Quiet action) :=
  inferInstanceAs (Decidable (e.quiet action = true))

theorem effect_sound (e next : NetEndpoint) (action : NetstackAction) (effect : Effect e action next) (orderly : e.Orderly)
    (calm : e.Quiet action) (sound : e.Sound) : next.Sound := by
  have alive := sound.alive
  have settled := sound.settled
  cases effect with
  | begun packets =>
      refine ⟨alive, fun ⟨ended, writer, w, found, passed⟩ => ?_⟩
      rw [List.getElem?_append] at found
      split_ifs at found
      · exact settled ⟨ended, writer, w, found, passed⟩
      · rw [List.mem_singleton.mp (List.mem_of_getElem? found)] at passed
        cases passed
  | checked writer w next found fresh same unclosed =>
      refine ⟨alive, fun ⟨ended, other, v, stored, passed⟩ => ?_⟩
      rcases e.set_writer_found writer other next v stored with ⟨rfl, rfl⟩ | ⟨_, old⟩
      · have closed := e.shut_closed orderly ended
        rw [unclosed passed] at closed
        cases closed
      · exact settled ⟨ended, other, v, old, passed⟩
  | sent writer packet rest written queue found taken =>
      obtain ⟨_, _, unshut⟩ := Channels.relayed_sent e.outQueue queue packet taken _ _ orderly.relayed
      refine ⟨alive, fun ⟨ended, _⟩ => ?_⟩
      rw [show queue.shut = true from ended] at unshut
      cases unshut
  | dropped writer packet rest written found opened =>
      refine ⟨alive, fun ⟨ended, _⟩ => ?_⟩
      rw [show e.outQueue.shut = true from ended] at opened
      cases opened
  | crashed writer w found passed ended => exact absurd ⟨ended, writer, w, found, passed⟩ settled
  | shut closer found opened =>
      refine ⟨alive, fun ⟨_, writer, w, stored, passed⟩ => ?_⟩
      have unpassed := List.all_eq_true.mp calm w (List.mem_of_getElem? stored)
      rw [passed] at unpassed
      cases unpassed
  | shutAgain closer found ended =>
      rw [e.swapped_open orderly closer found] at ended
      cases ended
  | got room packet queue taken =>
      obtain ⟨_, same⟩ := Channels.relayed_got e.outQueue queue packet taken _ _ orderly.relayed
      exact ⟨alive, fun ⟨ended, passed⟩ => settled ⟨same.symm.trans ended, passed⟩⟩
  | entered | swapped | swappedAgain | hooked | drained => exact ⟨alive, settled⟩

theorem got_front (e : NetEndpoint) (queue : Channel Bytes) (packet : Bytes) (taken : e.outQueue.receive = (queue, .got packet)) :
    e.outQueue.items.head? = some packet := by
  unfold Channel.receive at taken
  split at taken
  · rename_i first rest held
    rw [held, Channels.Receiving.got.inj (Prod.mk.inj taken).2]
    rfl
  · obtain ⟨_, same⟩ := Prod.mk.inj taken
    split_ifs at same

theorem got_whole (e : NetEndpoint) (room : Nat) (packet : Bytes) (queue : Channel Bytes)
    (taken : e.outQueue.receive = (queue, .got packet)) (whole : e.Whole) :
    e.returned ++ [packet.take room] = (e.taken ++ [(room, packet)]).map Prod.snd ↔ e.Quiet (.read room) := by
  have kept : e.returned = e.taken.map Prod.snd := whole
  have cut : packet.take room = packet ↔ packet.length ≤ room := by
    refine ⟨fun same => ?_, List.take_of_length_le⟩
    rw [← same, List.length_take]
    exact Nat.min_le_left _ _
  rw [List.map_append, ← kept, Quiet, quiet, e.got_front queue packet taken]
  simp [cut]

theorem effect_whole (e next : NetEndpoint) (action : NetstackAction) (effect : Effect e action next) (calm : e.Quiet action)
    (whole : e.Whole) : next.Whole := by
  cases effect with
  | got room packet queue taken => exact (e.got_whole room packet queue taken whole).mpr calm
  | begun | checked | sent | dropped | crashed | entered | swapped | swappedAgain | shut | shutAgain | hooked | drained => exact whole

theorem loud_effect (e next : NetEndpoint) (action : NetstackAction) (effect : Effect e action next) (orderly : e.Orderly)
    (whole : e.Whole) (sound : next.Sound) (kept : next.Whole) : e.Quiet action := by
  cases effect with
  | shut closer found opened =>
      refine List.all_eq_true.mpr fun w member => ?_
      obtain ⟨writer, stored⟩ := List.mem_iff_getElem?.mp member
      cases passed : w.passed with
      | false => rfl
      | true => exact absurd ⟨rfl, writer, w, stored, passed⟩ sound.settled
  | shutAgain closer found ended =>
      rw [e.swapped_open orderly closer found] at ended
      cases ended
  | got room packet queue taken => exact (e.got_whole room packet queue taken whole).mp kept
  | drained room shut empty => simp [Quiet, quiet, empty]
  | begun | checked | sent | dropped | crashed | entered | swapped | swappedAgain | hooked => rfl

theorem sound_preserved : Runs.Preserved step Quiet fun e => e.Orderly ∧ e.Sound ∧ e.Whole := by
  intro e action next held calm taken
  obtain ⟨_, effect⟩ := step_effect e next action taken
  exact ⟨effect_orderly e next action effect held.1, effect_sound e next action effect held.1 calm held.2.1,
    effect_whole e next action effect calm held.2.2⟩

theorem drain_run (room : Nat) (items : List Bytes) (e : NetEndpoint) (alive : e.panicked = false) (held : e.outQueue.items = items)
    (fits : ∀ packet ∈ items, packet.length ≤ room) :
    ∃ trace final, Runs.Run step e trace final ∧ (∀ entry ∈ trace, entry.2 = .read room) ∧ final.returned = e.returned ++ items := by
  induction items generalizing e with
  | nil => exact ⟨[], e, .nil e, nofun, by simp⟩
  | cons packet rest ih =>
      let next : NetEndpoint :=
        { e with
          outQueue := { e.outQueue with items := rest }
          taken := e.taken ++ [(room, packet)]
          returned := e.returned ++ [packet.take room] }
      obtain ⟨trace, final, run, onlyReads, drained⟩ := ih next alive rfl fun other member => fits other (by simp [member])
      have taken : e.step (.read room) = some next := by
        simp only [step, alive, Bool.false_eq_true, if_false, read, Channel.receive, held, next]
      refine ⟨(e, .read room) :: trace, final, .cons e next final _ trace taken run, fun entry member => ?_, ?_⟩
      · rcases List.mem_cons.mp member with rfl | later
        · rfl
        · exact onlyReads entry later
      · rw [drained]
        simp [next, List.take_of_length_le (fits packet (by simp))]

structure Accounted (e : NetEndpoint) : Prop where
  closedOnce : e.closes ≤ 1
  written : ∀ (writer : Nat) (w : PacketWriter), e.writers[writer]? = some w →
    w.written = e.counted.countP fun entry => entry.1 == writer
  taken : e.counted.map Prod.snd = e.taken.map Prod.snd ++ e.outQueue.items

structure Delivered (e : NetEndpoint) : Prop where
  inOrder : e.counted.map Prod.snd = e.returned ++ e.outQueue.items
  reported : e.reported = true → e.returned = e.counted.map Prod.snd
  later : ∀ room, (∀ packet ∈ e.outQueue.items, packet.length ≤ room) → ∃ trace final, Runs.Run step e trace final ∧
    (∀ entry ∈ trace, entry.2 = .read room) ∧ final.returned = e.counted.map Prod.snd

theorem orderly_accounted (e : NetEndpoint) (orderly : e.Orderly) : e.Accounted :=
  ⟨e.orderly_closes orderly, orderly.written, orderly.relayed⟩

theorem delivered_iff (e : NetEndpoint) (orderly : e.Orderly) (sound : e.Sound) : e.Delivered ↔ e.Whole := by
  have relayed : e.counted.map Prod.snd = e.taken.map Prod.snd ++ e.outQueue.items := orderly.relayed
  constructor
  · intro delivered
    exact List.append_cancel_right (delivered.inOrder.symm.trans relayed)
  · intro whole
    have inOrder : e.counted.map Prod.snd = e.returned ++ e.outQueue.items := by rw [relayed, show e.returned = _ from whole]
    refine ⟨inOrder, fun reported => ?_, fun room fits => ?_⟩
    · rw [inOrder, (orderly.reported reported).2, List.append_nil]
    · rw [inOrder]
      exact drain_run room _ e sound.alive rfl fits

end NetEndpoint

-- The queue is closed once and gives out what was counted in every run. That
-- nothing panics, or can, and that Read returns it all, is so just when the
-- queue was closed between the turns of the writers and no buffer was short.
theorem netstack_close_safe_iff (trace : List (NetEndpoint × NetstackAction)) (final : NetEndpoint)
    (run : Runs.Run NetEndpoint.step .newEndpoint trace final) :
    (∀ e, Runs.Visited trace final e → e.Accounted) ∧
      ((∀ e, Runs.Visited trace final e → e.Sound ∧ e.Delivered) ↔ Runs.Allowed NetEndpoint.Quiet trace) := by
  have orderly : ∀ e, Runs.Visited trace final e → e.Orderly := fun e visited =>
    Runs.visited_invariant NetEndpoint.orderly_preserved run (fun _ _ => trivial) NetEndpoint.new_endpoint_orderly visited
  refine ⟨fun e visited => e.orderly_accounted (orderly e visited), fun held entry member => ?_, fun calm e visited => ?_⟩
  · have whole : ∀ e, Runs.Visited trace final e → e.Whole := fun e visited =>
      (e.delivered_iff (orderly e visited) (held e visited).1).mp (held e visited).2
    obtain ⟨next, taken⟩ := Runs.run_taken run entry member
    have before : Runs.Visited trace final entry.1 := .inr ⟨entry.2, member⟩
    have after := Runs.visited_next run entry member taken
    exact NetEndpoint.loud_effect entry.1 next entry.2 (NetEndpoint.step_effect _ next _ taken).2 (orderly _ before) (whole _ before)
      (held next after).1 (whole next after)
  · obtain ⟨kept, sound, whole⟩ := Runs.visited_invariant NetEndpoint.sound_preserved run calm
      ⟨NetEndpoint.new_endpoint_orderly, ⟨rfl, fun doomed => absurd doomed.1 nofun⟩, rfl⟩ visited
    exact ⟨sound, (e.delivered_iff kept sound).mpr whole⟩

def calmSteps : List NetstackAction :=
  [.writePackets [[1, 2, 3], [4]], .check 0, .send 0, .close, .close, .swap 1, .check 0, .swap 0, .shut 1, .hook 1, .read 3, .read 3]

theorem netstack_close_safe_calm :
    ∃ trace final, Runs.Run NetEndpoint.step .newEndpoint trace final ∧ final.counted = [(0, [1, 2, 3])] ∧
      final.returned = [[1, 2, 3]] ∧ final.reported = true ∧ ∀ e, Runs.Visited trace final e → e.Sound ∧ e.Delivered := by
  have observed : (Runs.execute NetEndpoint.step NetEndpoint.Quiet .newEndpoint calmSteps).map
      (fun e => (e.counted, e.returned, e.reported)) = some ([(0, [1, 2, 3])], [[1, 2, 3]], true) := by
    decide +kernel
  obtain ⟨trace, final, run, calm, _, view⟩ := Runs.execute_seen _ _ _ calmSteps observed
  simp only [Prod.mk.injEq] at view
  exact ⟨trace, final, run, view.1, view.2.1, view.2.2, (netstack_close_safe_iff trace final run).2.mpr calm⟩

theorem netstack_send_panics :
    ∃ trace final, Runs.Run NetEndpoint.step .newEndpoint trace final ∧
      trace.map Prod.snd = [.writePackets [[1]], .check 0, .close, .swap 0, .shut 0, .send 0] ∧ final.panicked = true := by
  have observed : (Runs.execute NetEndpoint.step (fun _ _ => True) .newEndpoint
      [.writePackets [[1]], .check 0, .close, .swap 0, .shut 0, .send 0]).map NetEndpoint.panicked = some true := by
    decide +kernel
  obtain ⟨trace, final, run, _, same, panicked⟩ := Runs.execute_seen _ _ _ _ observed
  exact ⟨trace, final, run, same, panicked⟩

end Packethose
