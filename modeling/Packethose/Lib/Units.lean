import Packethose.Lib.Octets

set_option autoImplicit false

namespace Units

def unit (bytes : Bytes) : Bytes := Octets.putUint16 bytes.length ++ bytes

def encode (units : List Bytes) : Bytes := units.flatMap unit

-- The units in front of the first malformed one, and whether the end was
-- reached without one. A single trailing byte is not reported.
def split (payload : Bytes) : List Bytes × Bool :=
  match payload with
  | high :: low :: rest =>
      if rest.length < Octets.getUint16 high low then ([], false)
      else
        let later := split (rest.drop (Octets.getUint16 high low))
        (rest.take (Octets.getUint16 high low) :: later.1, later.2)
  | _ => ([], true)
termination_by payload.length
decreasing_by
  simp only [List.length_drop, List.length_cons]
  omega

theorem unit_length (bytes : Bytes) : (unit bytes).length = bytes.length + 2 := by
  simp [unit, Octets.putUint16]

theorem split_unit (bytes rest : Bytes) (bounded : bytes.length < 65536) :
    split (unit bytes ++ rest) = (bytes :: (split rest).1, (split rest).2) := by
  simp only [unit, Octets.putUint16, List.cons_append, List.nil_append]
  rw [split]
  have size := Octets.get_put_uint16 bytes.length bounded
  simp [size]

theorem split_short (payload : Bytes) (short : payload.length < 2) : split payload = ([], true) := by
  match payload with
  | [] => rw [split]; simp
  | [byte] => rw [split]; simp
  | high :: low :: rest => exact absurd short (by simp)

theorem split_malformed (high low : UInt8) (rest : Bytes) (excess : rest.length < Octets.getUint16 high low) :
    split (high :: low :: rest) = ([], false) := by
  rw [split, if_pos excess]

theorem split_first (high low : UInt8) (rest : Bytes) (fits : ¬ rest.length < Octets.getUint16 high low) :
    ∃ later, (split (high :: low :: rest)).1 = rest.take (Octets.getUint16 high low) :: later := by
  rw [split, if_neg fits]
  exact ⟨_, rfl⟩

theorem split_encode (units : List Bytes) (bounded : ∀ bytes ∈ units, bytes.length < 65536) :
    split (encode units) = (units, true) := by
  induction units with
  | nil => exact split_short [] (by decide)
  | cons bytes rest ih =>
      rw [encode, List.flatMap_cons, split_unit bytes _ (bounded bytes (by simp))]
      have later := ih fun other member => bounded other (by simp [member])
      rw [encode] at later
      rw [later]

theorem encode_concat (units : List Bytes) (bytes : Bytes) : encode (units ++ [bytes]) = encode units ++ unit bytes := by
  simp [encode]

def Overrunning (rest : Bytes) : Prop :=
  ∃ high low more, rest = high :: low :: more ∧ more.length < Octets.getUint16 high low

theorem split_append (units : List Bytes) (rest : Bytes) (bounded : ∀ bytes ∈ units, bytes.length < 65536) :
    split (encode units ++ rest) = (units ++ (split rest).1, (split rest).2) := by
  induction units with
  | nil => rfl
  | cons bytes more ih =>
      have later := ih fun other member => bounded other (by simp [member])
      rw [encode, List.flatMap_cons, List.append_assoc, split_unit bytes _ (bounded bytes (by simp)), ← encode, later]
      rfl

theorem unit_of_take (high low : UInt8) (rest : Bytes) (fits : Octets.getUint16 high low ≤ rest.length) :
    unit (rest.take (Octets.getUint16 high low)) = high :: low :: rest.take (Octets.getUint16 high low) := by
  have length : (rest.take (Octets.getUint16 high low)).length = Octets.getUint16 high low := List.length_take_of_le fits
  rw [unit, length, Octets.put_get_uint16]
  rfl

theorem split_division (payload : Bytes) :
    ∃ rest, payload = encode (split payload).1 ++ rest ∧ (∀ bytes ∈ (split payload).1, bytes.length < 65536) ∧
      (((split payload).2 = true ∧ rest.length < 2) ∨ ((split payload).2 = false ∧ Overrunning rest)) := by
  fun_induction split payload with
  | case1 high low rest excess => exact ⟨high :: low :: rest, rfl, by simp, .inr ⟨rfl, high, low, rest, rfl, excess⟩⟩
  | case2 high low rest fits later ih =>
      obtain ⟨remainder, divided, bounded, ending⟩ := ih
      refine ⟨remainder, ?_, ?_, ending⟩
      · rw [encode, List.flatMap_cons, unit_of_take high low rest (Nat.le_of_not_gt fits), List.append_assoc, ← encode]
        simp only [List.cons_append, ← divided, List.take_append_drop, later]
      · intro bytes member
        rcases List.mem_cons.mp member with rfl | further
        · have width := Octets.get_uint16_lt high low
          simp only [List.length_take]
          omega
        · exact bounded bytes further
  | case3 payload short =>
      refine ⟨payload, rfl, by simp, .inl ⟨rfl, ?_⟩⟩
      match payload with
      | [] => decide
      | [byte] => simp
      | high :: low :: rest => exact absurd rfl (short high low rest)

end Units
