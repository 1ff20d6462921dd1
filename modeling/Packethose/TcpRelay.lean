import Packethose.Lib.Counting
import Packethose.Lib.Runs
import Packethose.Lib.Splices
import Packethose.Relay

set_option autoImplicit false

namespace Packethose

open Splices

inductive TcpPhase where
  | checking
  | dialling (dst : AddrPort)
  | joined (dst : AddrPort)
  | closed (upstream : Option AddrPort)

def TcpPhase.upstream : TcpPhase → Option AddrPort
  | .joined dst => some dst
  | .closed upstream => upstream
  | _ => none

def TcpPhase.opened : TcpPhase → Bool
  | .closed _ => false
  | _ => true

-- handleTCP with its relayTCP. The near connection of the splice is the
-- client's, the far one is the upstream's.
structure TcpFlow where
  localAddr : TCPAddr
  phase : TcpPhase
  splice : Splice UInt8
  clientCloses : Nat
  upstreamCloses : Nat

-- tcpAcceptLoop, the flows it starts and its part of the WaitGroup; closed is
-- the channel, listening the listener.
structure TcpRelay where
  accepting : Bool
  closed : Bool
  listening : Bool
  wg : Nat
  flows : List TcpFlow

inductive TcpMove where
  | check
  | dial (connected : Bool)
  | relay (action : SpliceAction UInt8)
  | finish

inductive TcpAction where
  | accept (localAddr : TCPAddr)
  | acceptFailed
  | close
  | shut
  | flow (index : Nat) (move : TcpMove)

def clientSends : SpliceAction UInt8 → Bool
  | .forth (.send _) | .forth .shut => true
  | _ => false

namespace TcpFlow

def accepted (localAddr : TCPAddr) : TcpFlow := ⟨localAddr, .checking, .fresh, 0, 0⟩

def close (f : TcpFlow) : TcpFlow :=
  { f with
    phase := .closed f.phase.upstream
    clientCloses := f.clientCloses + 1
    upstreamCloses := f.upstreamCloses + if f.phase.upstream.isSome then 1 else 0 }

def relay (f : TcpFlow) (action : SpliceAction UInt8) : Option TcpFlow :=
  (f.splice.step action).map fun splice => { f with splice := splice }

def step (net : NetLib) (t : TPROXYListener) (f : TcpFlow) : TcpMove → Option TcpFlow
  | .check =>
      match f.phase with
      | .checking =>
          match t.screenTCP net f.localAddr with
          | .passed dst => some { f with phase := .dialling dst }
          | _ => some f.close
      | _ => none
  | .dial connected =>
      match f.phase with
      | .dialling dst => some (if connected then { f with phase := .joined dst } else f.close)
      | _ => none
  | .relay action =>
      match f.phase with
      | .joined _ => f.relay action
      | .closed _ => none
      | _ => if clientSends action then f.relay action else none
  | .finish =>
      match f.phase with
      | .joined _ => if f.splice.isOver then some f.close else none
      | _ => none

end TcpFlow

namespace TcpRelay

def start : TcpRelay := ⟨true, false, true, 1, []⟩

-- handleTCP is started without a place in the WaitGroup.
def step (net : NetLib) (t : TPROXYListener) (st : TcpRelay) : TcpAction → Option TcpRelay
  | .accept localAddr =>
      if st.accepting && st.listening then some { st with flows := st.flows ++ [.accepted localAddr] } else none
  | .acceptFailed =>
      if st.accepting then
        if st.closed || !st.listening then some { st with accepting := false, wg := st.wg - 1 } else some st
      else none
  | .close => some { st with closed := true }
  | .shut => some { st with listening := false }
  | .flow index move =>
      (st.flows[index]?).bind fun f => (f.step net t move).map fun next => { st with flows := st.flows.set index next }

end TcpRelay

namespace TcpFlow

variable (net : NetLib) (t : TPROXYListener)

structure Sound (f : TcpFlow) : Prop where
  splice : f.splice.Sound
  closes : f.clientCloses = (if f.phase.opened then 0 else 1) ∧
    f.upstreamCloses = if f.phase.opened then 0 else if f.phase.upstream.isSome then 1 else 0
  behind : ∀ dst, f.phase = .closed (some dst) → f.splice.isOver = true
  allowed : ∀ dst, f.phase.upstream = some dst ∨ f.phase = .dialling dst → t.screenTCP net f.localAddr = .passed dst
  quiet : f.phase.upstream = none → f.splice.forth.delivered = [] ∧ f.splice.back = .fresh

theorem accepted_sound (localAddr : TCPAddr) : (accepted localAddr).Sound net t :=
  ⟨Splice.fresh_sound, ⟨rfl, rfl⟩, by simp [accepted], by simp [accepted, TcpPhase.upstream], fun _ => ⟨rfl, rfl⟩⟩

theorem close_sound (f : TcpFlow) (sound : f.Sound net t) (opened : f.phase.opened = true)
    (finished : ∀ dst, f.phase = .joined dst → f.splice.isOver = true) : f.close.Sound net t := by
  obtain ⟨splice, ⟨client, upstream⟩, _, allowed, quiet⟩ := sound
  rw [if_pos opened] at client upstream
  refine ⟨splice, ?_, fun dst closed => ?_, fun dst named => ?_, quiet⟩
  · refine ⟨by simp [close, client, TcpPhase.opened], ?_⟩
    rw [close, upstream, Nat.zero_add]
    rfl
  · have there : f.phase.upstream = some dst := TcpPhase.closed.inj closed
    cases phase : f.phase with
    | joined other => exact finished other phase
    | closed other => simp [phase, TcpPhase.opened] at opened
    | checking | dialling => simp [phase, TcpPhase.upstream] at there
  · rcases named with there | pending
    · exact allowed dst (.inl there)
    · cases pending

theorem client_sends_forth (s next : Splice UInt8) (action : SpliceAction UInt8) (sends : clientSends action = true)
    (taken : s.step action = some next) : next.forth.delivered = s.forth.delivered ∧ next.back = s.back := by
  cases action with
  | forth action =>
      obtain ⟨pipe, moved, rfl⟩ := Option.map_eq_some_iff.mp taken
      cases action with
      | send bytes =>
          rw [Pipe.step] at moved
          split_ifs at moved
          cases moved
          exact ⟨rfl, rfl⟩
      | shut =>
          cases moved
          exact ⟨rfl, rfl⟩
      | read | eof | readFailed | write => cases sends
  | back | shutFar | shutNear => cases sends

theorem relay_sound (f next : TcpFlow) (action : SpliceAction UInt8) (sound : f.Sound net t) (opened : f.phase.opened = true)
    (early : f.phase.upstream = none → clientSends action = true) (taken : f.relay action = some next) : next.Sound net t := by
  obtain ⟨splice, moved, rfl⟩ := Option.map_eq_some_iff.mp taken
  refine ⟨Splice.step_sound _ _ action sound.splice moved, sound.closes, fun dst closed => ?_, sound.allowed, fun missing => ?_⟩
  · have same : f.phase = .closed (some dst) := closed
    simp [same, TcpPhase.opened] at opened
  · obtain ⟨delivered, back⟩ := client_sends_forth f.splice splice action (early missing) moved
    exact ⟨delivered.trans (sound.quiet missing).1, back.trans (sound.quiet missing).2⟩

theorem step_sound (f next : TcpFlow) (move : TcpMove) (sound : f.Sound net t) (taken : f.step net t move = some next) :
    next.Sound net t := by
  cases phase : f.phase with
  | checking =>
      have opened : f.phase.opened = true := by rw [phase]; rfl
      have quiet := sound.quiet (by rw [phase]; rfl)
      cases move with
      | check =>
          simp only [step, phase] at taken
          split at taken
          · rename_i dst passed
            cases taken
            refine ⟨sound.splice, ?_, by simp, fun other named => ?_, fun _ => quiet⟩
            · simpa [phase, TcpPhase.opened] using sound.closes
            · rcases named with there | pending
              · cases there
              · obtain rfl := TcpPhase.dialling.inj pending
                exact passed
          · cases taken
            exact close_sound net t f sound opened (by simp [phase])
      | relay action =>
          simp only [step, phase] at taken
          split_ifs at taken with sends
          exact relay_sound net t f next action sound opened (fun _ => sends) taken
      | dial | finish => simp [step, phase] at taken
  | dialling dst =>
      have opened : f.phase.opened = true := by rw [phase]; rfl
      have quiet := sound.quiet (by rw [phase]; rfl)
      cases move with
      | dial connected =>
          simp only [step, phase] at taken
          cases connected with
          | true =>
              cases taken
              refine ⟨sound.splice, ?_, by simp, fun other named => ?_, by simp [TcpPhase.upstream]⟩
              · simpa [phase, TcpPhase.opened] using sound.closes
              · rcases named with there | pending
                · obtain rfl := Option.some.inj there
                  exact sound.allowed dst (.inr phase)
                · cases pending
          | false =>
              cases taken
              exact close_sound net t f sound opened (by simp [phase])
      | relay action =>
          simp only [step, phase] at taken
          split_ifs at taken with sends
          exact relay_sound net t f next action sound opened (fun _ => sends) taken
      | check | finish => simp [step, phase] at taken
  | joined dst =>
      have opened : f.phase.opened = true := by rw [phase]; rfl
      cases move with
      | relay action =>
          simp only [step, phase] at taken
          exact relay_sound net t f next action sound opened (by simp [phase, TcpPhase.upstream]) taken
      | finish =>
          simp only [step, phase] at taken
          split_ifs at taken with finished
          cases taken
          exact close_sound net t f sound opened fun _ _ => finished
      | check | dial => simp [step, phase] at taken
  | closed upstream => cases move <;> simp [step, phase] at taken

end TcpFlow

namespace TcpRelay

variable (net : NetLib) (t : TPROXYListener)

structure Sound (st : TcpRelay) : Prop where
  flows : ∀ f ∈ st.flows, f.Sound net t
  counted : st.wg = if st.accepting then 1 else 0

theorem sound_preserved (guard : TcpRelay → TcpAction → Prop) : Runs.Preserved (step net t) guard (Sound net t) := by
  intro st action next sound _ taken
  cases action with
  | accept localAddr =>
      rw [step] at taken
      split_ifs at taken
      cases taken
      refine ⟨fun f member => ?_, sound.counted⟩
      rcases List.mem_append.mp member with before | fresh
      · exact sound.flows f before
      · obtain rfl := List.mem_singleton.mp fresh
        exact TcpFlow.accepted_sound net t localAddr
  | acceptFailed =>
      rw [step] at taken
      split_ifs at taken with accepting cancelled
      · cases taken
        exact ⟨sound.flows, by simp [sound.counted, accepting]⟩
      · cases taken
        exact sound
  | close | shut =>
      cases taken
      exact ⟨sound.flows, sound.counted⟩
  | flow index move =>
      obtain ⟨f, found, moved⟩ := Option.bind_eq_some_iff.mp taken
      obtain ⟨changed, stepped, rfl⟩ := Option.map_eq_some_iff.mp moved
      have still := TcpFlow.step_sound net t f changed move (sound.flows f (List.mem_of_getElem? found)) stepped
      exact ⟨Counting.all_set st.flows index changed _ sound.flows still, sound.counted⟩

theorem start_sound : Sound net t start := ⟨by simp [start], rfl⟩

end TcpRelay

def shortFlowMoves : List TcpMove :=
  [.check, .dial true] ++
    ([.forth (.send [1, 2, 3]), .forth (.read 2), .forth (.write 2 false), .forth .shut, .forth (.read 1), .forth (.write 1 false),
      .forth .eof, .shutFar, .back .shut, .back .eof, .shutNear].map .relay) ++ [.finish]

def shortFlowSteps : List TcpAction := .accept ⟨.four (tunnelBytes 1), 53, ""⟩ :: shortFlowMoves.map (.flow 0)

end Packethose
