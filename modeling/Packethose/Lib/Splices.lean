import Packethose.Lib.Runs

set_option autoImplicit false

-- Two connections joined by a copy loop in each direction. The far side's write
-- end is shut behind the loop that feeds it, and the join is over behind both.
namespace Splices

universe u

inductive CopyPoint (Byte : Type u) where
  | reading
  | writing (chunk : List Byte)
  | ended (clean : Bool)

structure Pipe (Byte : Type u) where
  sent : List Byte
  fin : Bool
  position : Nat
  delivered : List Byte
  point : CopyPoint Byte

inductive PipeAction (Byte : Type u) where
  | send (bytes : List Byte)
  | shut
  | read (count : Nat)
  | eof
  | readFailed
  | write (count : Nat) (failed : Bool)

variable {Byte : Type u}

namespace Pipe

def fresh : Pipe Byte := ⟨[], false, 0, [], .reading⟩

def step (p : Pipe Byte) : PipeAction Byte → Option (Pipe Byte)
  | .send bytes => if p.fin then none else some { p with sent := p.sent ++ bytes }
  | .shut => some { p with fin := true }
  | .read count =>
      match p.point with
      | .reading =>
          if 0 < count ∧ p.position + count ≤ p.sent.length then
            some { p with position := p.position + count, point := .writing ((p.sent.drop p.position).take count) }
          else none
      | _ => none
  | .eof =>
      match p.point with
      | .reading => if p.fin = true ∧ p.position = p.sent.length then some { p with point := .ended true } else none
      | _ => none
  | .readFailed =>
      match p.point with
      | .reading => some { p with point := .ended false }
      | _ => none
  | .write count failed =>
      match p.point with
      | .writing chunk =>
          some { p with
            delivered := p.delivered ++ chunk.take count
            point := if failed || count < chunk.length then .ended false else .reading }
      | _ => none

def held (p : Pipe Byte) : List Byte :=
  match p.point with
  | .writing chunk => chunk
  | _ => []

def isOver (p : Pipe Byte) : Bool :=
  match p.point with
  | .ended _ => true
  | _ => false

structure Intact (p : Pipe Byte) : Prop where
  inside : p.position ≤ p.sent.length
  running : p.isOver = false → p.delivered ++ p.held = p.sent.take p.position
  front : p.delivered <+: p.sent
  whole : p.point = .ended true → p.fin = true ∧ p.delivered = p.sent

theorem fresh_intact : (fresh : Pipe Byte).Intact :=
  ⟨Nat.le_refl 0, fun _ => rfl, List.prefix_rfl, by simp [fresh]⟩

theorem read_whole (p : Pipe Byte) (count : Nat) :
    p.sent.take p.position ++ (p.sent.drop p.position).take count = p.sent.take (p.position + count) :=
  List.take_add.symm

theorem step_intact (p next : Pipe Byte) (action : PipeAction Byte) (intact : p.Intact) (taken : p.step action = some next) :
    next.Intact := by
  obtain ⟨inside, running, front, whole⟩ := intact
  cases action with
  | send bytes =>
      rw [step] at taken
      split_ifs at taken with fin
      cases taken
      refine ⟨?_, fun going => ?_, front.trans (List.prefix_append ..), fun ended => absurd (whole ended).1 fin⟩
      · exact Nat.le_trans inside (List.prefix_append ..).length_le
      · rw [List.take_append_of_le_length inside]
        exact running going
  | shut =>
      cases taken
      exact ⟨inside, running, front, fun ended => ⟨rfl, (whole ended).2⟩⟩
  | read count =>
      rw [step] at taken
      split at taken
      · rename_i reading
        split_ifs at taken with enough
        cases taken
        have before : p.delivered = p.sent.take p.position := by
          simpa [held, reading] using running (by simp [isOver, reading])
        refine ⟨enough.2, fun _ => ?_, front, fun ended => by cases ended⟩
        rw [held, before, read_whole]
      · cases taken
  | eof =>
      rw [step] at taken
      split at taken
      · rename_i reading
        split_ifs at taken with finished
        cases taken
        have before : p.delivered = p.sent.take p.position := by
          simpa [held, reading] using running (by simp [isOver, reading])
        refine ⟨inside, fun going => by simp [isOver] at going, front, fun _ => ⟨finished.1, ?_⟩⟩
        rw [before, finished.2, List.take_length]
      · cases taken
  | readFailed =>
      rw [step] at taken
      split at taken
      · cases taken
        exact ⟨inside, fun going => by simp [isOver] at going, front, fun ended => by cases ended⟩
      · cases taken
  | write count failed =>
      rw [step] at taken
      split at taken
      · rename_i chunk writing
        cases taken
        have before : p.delivered ++ chunk = p.sent.take p.position := by
          simpa [held, writing] using running (by simp [isOver, writing])
        have piece : p.delivered ++ chunk.take count <+: p.sent := by
          refine List.IsPrefix.trans ?_ ( List.take_prefix p.position p.sent)
          rw [← before]
          exact (List.prefix_append_right_inj _).mpr ( List.take_prefix count chunk)
        split_ifs with short
        · exact ⟨inside, fun going => by simp [isOver] at going, piece, fun ended => by cases ended⟩
        · simp only [Bool.or_eq_true, decide_eq_true_eq, not_or, Nat.not_lt] at short
          rw [List.take_of_length_le short.2] at piece ⊢
          exact ⟨inside, fun _ => by simpa [held] using before, piece, fun ended => by cases ended⟩
      · cases taken

end Pipe

structure Splice (Byte : Type u) where
  forth : Pipe Byte
  back : Pipe Byte
  shutFar : Bool
  shutNear : Bool

inductive SpliceAction (Byte : Type u) where
  | forth (action : PipeAction Byte)
  | back (action : PipeAction Byte)
  | shutFar
  | shutNear

namespace Splice

def fresh : Splice Byte := ⟨.fresh, .fresh, false, false⟩

def step (s : Splice Byte) : SpliceAction Byte → Option (Splice Byte)
  | .forth action => (s.forth.step action).map fun next => { s with forth := next }
  | .back action => (s.back.step action).map fun next => { s with back := next }
  | .shutFar => if s.forth.isOver && !s.shutFar then some { s with shutFar := true } else none
  | .shutNear => if s.back.isOver && !s.shutNear then some { s with shutNear := true } else none

def isOver (s : Splice Byte) : Bool := s.shutFar && s.shutNear

structure Sound (s : Splice Byte) : Prop where
  forth : s.forth.Intact
  back : s.back.Intact
  far : s.shutFar = true → s.forth.isOver = true
  near : s.shutNear = true → s.back.isOver = true

theorem fresh_sound : (fresh : Splice Byte).Sound :=
  ⟨Pipe.fresh_intact, Pipe.fresh_intact, by simp [fresh], by simp [fresh]⟩

theorem is_over_kept (p next : Pipe Byte) (action : PipeAction Byte) (ended : p.isOver = true) (taken : p.step action = some next) :
    next.isOver = true := by
  unfold Pipe.isOver at ended
  split at ended
  · rename_i clean point
    cases action with
    | send bytes =>
        rw [Pipe.step] at taken
        split_ifs at taken
        cases taken
        simp [Pipe.isOver, point]
    | shut =>
        cases taken
        simp [Pipe.isOver, point]
    | read | eof | readFailed | write => simp [Pipe.step, point] at taken
  · cases ended

theorem step_sound (s next : Splice Byte) (action : SpliceAction Byte) (sound : s.Sound) (taken : s.step action = some next) :
    next.Sound := by
  obtain ⟨forth, back, far, near⟩ := sound
  cases action with
  | forth action =>
      obtain ⟨pipe, moved, rfl⟩ := Option.map_eq_some_iff.mp taken
      exact ⟨Pipe.step_intact _ _ action forth moved, back, fun shut => is_over_kept _ _ action (far shut) moved, near⟩
  | back action =>
      obtain ⟨pipe, moved, rfl⟩ := Option.map_eq_some_iff.mp taken
      exact ⟨forth, Pipe.step_intact _ _ action back moved, far, fun shut => is_over_kept _ _ action (near shut) moved⟩
  | shutFar =>
      rw [step] at taken
      split_ifs at taken with ready
      cases taken
      exact ⟨forth, back, fun _ => (Bool.and_eq_true_iff.mp ready).1, near⟩
  | shutNear =>
      rw [step] at taken
      split_ifs at taken with ready
      cases taken
      exact ⟨forth, back, far, fun _ => (Bool.and_eq_true_iff.mp ready).1⟩

end Splice

end Splices
