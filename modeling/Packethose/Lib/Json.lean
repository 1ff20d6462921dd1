import Mathlib.Data.UInt

set_option autoImplicit false

-- JSON values and their decoding into records, as the decoder of a statically
-- typed language does it. A number is a plain natural literal or another one,
-- which no unsigned field takes. Fields keep their order and may repeat.
inductive Json where
  | null
  | bool (value : Bool)
  | natural (value : Nat)
  | otherNumber (literal : String)
  | string (text : String)
  | array (items : List Json)
  | object (fields : List (String × Json))

namespace Json

abbrev Decode (T : Type) := T → Json → T × Bool

def foldChar (c : Char) : Char :=
  if c = Char.ofNat 0x17F then 'S' else if c = Char.ofNat 0x212A then 'K' else c.toUpper

def sameKey (key name : String) : Bool := key.toList.map foldChar == name.toList.map foldChar

def asString : Decode String
  | old, .null => (old, true)
  | _, .string text => (text, true)
  | old, _ => (old, false)

def asUint64 : Decode UInt64
  | old, .null => (old, true)
  | old, .natural value => if value < 18446744073709551616 then (UInt64.ofNat value, true) else (old, false)
  | old, _ => (old, false)

def asRaw : Decode Json := fun _ json => (json, true)

variable {T F : Type}

def asPointer (zero : T) (decode : Decode T) : Decode (Option T)
  | _, .null => (none, true)
  | old, json => (some (decode (old.getD zero) json).1, (decode (old.getD zero) json).2)

def items (zero : T) (decode : Decode T) : List T → List Json → List T × Bool
  | _, [] => ([], true)
  | old, json :: rest =>
      ((decode (old.headD zero) json).1 :: (items zero decode old.tail rest).1,
        (decode (old.headD zero) json).2 && (items zero decode old.tail rest).2)

def asSlice (zero : T) (decode : Decode T) : Decode (List T)
  | _, .null => ([], true)
  | old, .array elements => items zero decode old elements
  | old, _ => (old, false)

structure Field (T : Type) where
  name : String
  decode : Decode T

def field (name : String) (get : T → F) (put : T → F → T) (decode : Decode F) : Field T :=
  ⟨name, fun old json => (put old (decode (get old) json).1, (decode (get old) json).2)⟩

def decodeField (known : List (Field T)) (state : T × Bool) (entry : String × Json) : T × Bool :=
  match known.find? fun f => sameKey entry.1 f.name with
  | some f => ((f.decode state.1 entry.2).1, state.2 && (f.decode state.1 entry.2).2)
  | none => state

def asRecord (known : List (Field T)) : Decode T
  | old, .null => (old, true)
  | old, .object entries => entries.foldl (decodeField known) (old, true)
  | old, _ => (old, false)

theorem as_uint64_natural (old value : UInt64) : asUint64 old (.natural value.toNat) = (value, true) := by
  rw [asUint64, if_pos value.toNat_lt, UInt64.ofNat_toNat]

theorem items_clean {S : Type} (zero : T) (decode : Decode T) (shown : S → Json) (value : S → T) (sources : List S)
    (reads : ∀ source ∈ sources, decode zero (shown source) = (value source, true)) :
    items zero decode [] (sources.map shown) = (sources.map value, true) := by
  induction sources with
  | nil => rfl
  | cons source rest ih =>
      have here := reads source (by simp)
      have later := ih fun other listed => reads other (by simp [listed])
      simp only [List.map_cons, items, List.headD_nil, List.tail_nil, here, later, Bool.and_self]

end Json
