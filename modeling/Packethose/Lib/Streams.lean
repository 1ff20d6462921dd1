import Packethose.Lib.Octets

set_option autoImplicit false

-- Readers of a byte stream. A reader returns its result and the bytes it left
-- unread; bytes taken before a failure stay taken.
namespace Streams

universe u v w

abbrev Reader (Error : Type u) (Value : Type v) := Bytes → Except Error Value × Bytes

inductive Shortage where
  | eof
  | unexpectedEOF
deriving DecidableEq, Repr

variable {Error : Type u} {Value : Type v} {Result : Type w}

def readFull (wrap : Shortage → Error) (count : Nat) : Reader Error Bytes := fun input =>
  if count ≤ input.length then (.ok (input.take count), input.drop count)
  else (.error (wrap (if input.isEmpty then .eof else .unexpectedEOF)), [])

def andThen (first : Reader Error Value) (next : Value → Reader Error Result) : Reader Error Result := fun input =>
  match first input with
  | (.ok value, rest) => next value rest
  | (.error problem, rest) => (.error problem, rest)

def done (value : Value) : Reader Error Value := fun input => (.ok value, input)

def fail (problem : Error) : Reader Error Value := fun input => (.error problem, input)

def repeated (reader : Reader Error Value) : Nat → Reader Error (List Value)
  | 0 => done []
  | count + 1 => andThen reader fun value => andThen (repeated reader count) fun more => done (value :: more)

def Takes (reader : Reader Error Value) (limit : Nat) : Prop :=
  ∀ input, ∃ taken, input = taken ++ (reader input).2 ∧ taken.length ≤ limit

theorem and_then_ok (first : Reader Error Value) (next : Value → Reader Error Result) (input rest : Bytes) (value : Value)
    (read : first input = (.ok value, rest)) : andThen first next input = next value rest := by
  rw [andThen, read]

theorem read_full_short (wrap : Shortage → Error) (input : Bytes) (count : Nat) (short : input.length < count) :
    ∃ shortage, readFull wrap count input = (.error (wrap shortage), []) :=
  ⟨_, by rw [readFull, if_neg (Nat.not_le.mpr short)]⟩

theorem and_then_error (first : Reader Error Value) (next : Value → Reader Error Result) (input rest : Bytes)
    (problem : Error) (read : first input = (.error problem, rest)) : andThen first next input = (.error problem, rest) := by
  rw [andThen, read]

theorem read_full_takes (wrap : Shortage → Error) (count : Nat) : Takes (readFull wrap count) count := by
  intro input
  by_cases enough : count ≤ input.length
  · refine ⟨input.take count, ?_, List.length_take_le count input⟩
    rw [readFull, if_pos enough, List.take_append_drop]
  · refine ⟨input, ?_, by omega⟩
    rw [readFull, if_neg enough, List.append_nil]

theorem done_takes (value : Value) : Takes (done value : Reader Error Value) 0 := fun _ => ⟨[], rfl, Nat.le_refl 0⟩

theorem and_then_takes (first : Reader Error Value) (next : Value → Reader Error Result) (early late : Nat)
    (firstTakes : Takes first early) (nextTakes : ∀ value, Takes (next value) late) :
    Takes (andThen first next) (early + late) := by
  intro input
  obtain ⟨taken, split, few⟩ := firstTakes input
  rw [andThen]
  split
  · rename_i value rest read
    rw [read] at split
    obtain ⟨more, tail, fewMore⟩ := nextTakes value rest
    refine ⟨taken ++ more, ?_, ?_⟩
    · rw [List.append_assoc, ← tail, ← split]
    · rw [List.length_append]
      omega
  · rename_i problem rest read
    rw [read] at split
    exact ⟨taken, split, by omega⟩

theorem repeated_reads {Message : Type w} (reader : Reader Error Value) (encode : Message → Bytes) (content : Message → Value)
    (messages : List Message)
    (each : ∀ message ∈ messages, ∀ rest, reader (encode message ++ rest) = (.ok (content message), rest)) (rest : Bytes) :
    repeated reader messages.length (messages.flatMap encode ++ rest) = (.ok (messages.map content), rest) := by
  induction messages with
  | nil => rfl
  | cons message others ih =>
      have later := ih fun other member => each other (List.mem_cons_of_mem message member)
      have here := each message (by simp) (others.flatMap encode ++ rest)
      rw [List.flatMap_cons, List.append_assoc, List.length_cons, repeated, and_then_ok _ _ _ _ _ here,
        and_then_ok _ _ _ _ _ later]
      rfl

def Extends (reader : Reader Error Value) : Prop :=
  ∀ input more value rest, reader input = (.ok value, rest) → reader (input ++ more) = (.ok value, rest ++ more)

theorem read_full_extends (wrap : Shortage → Error) (count : Nat) : Extends (readFull wrap count) := by
  intro input more value rest read
  by_cases enough : count ≤ input.length
  · rw [readFull, if_pos enough] at read
    obtain ⟨taken, dropped⟩ := Prod.mk.inj read
    obtain rfl := Except.ok.inj taken
    rw [← dropped, readFull, if_pos (by rw [List.length_append]; omega), List.take_append_of_le_length enough,
      List.drop_append_of_le_length enough]
  · rw [readFull, if_neg enough] at read
    cases (Prod.mk.inj read).1

theorem done_extends (value : Value) : Extends (done value : Reader Error Value) := by
  intro input more found rest read
  obtain ⟨same, rfl⟩ := Prod.mk.inj read
  rw [← Except.ok.inj same]
  rfl

theorem fail_extends (problem : Error) : Extends (fail problem : Reader Error Value) := by
  intro input more found rest read
  cases (Prod.mk.inj read).1

theorem and_then_extends (first : Reader Error Value) (next : Value → Reader Error Result) (firstExtends : Extends first)
    (nextExtends : ∀ value, Extends (next value)) : Extends (andThen first next) := by
  intro input more result rest read
  rw [andThen] at read
  split at read
  · rename_i value middle found
    rw [and_then_ok first next (input ++ more) (middle ++ more) value (firstExtends input more value middle found)]
    exact nextExtends value middle more result rest read
  · cases (Prod.mk.inj read).1

end Streams
