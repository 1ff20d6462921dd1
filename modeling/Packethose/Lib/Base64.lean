import Packethose.Lib.Octets

set_option autoImplicit false

-- The padded standard encoding of encoding/base64. A text is its bytes.
namespace Base64

def pad : UInt8 := 61

def lineBreak (char : UInt8) : Bool := char == 10 || char == 13

def letter (value : Fin 64) : UInt8 :=
  if value.val < 26 then UInt8.ofNat (value.val + 65)
  else if value.val < 52 then UInt8.ofNat (value.val + 71)
  else if value.val < 62 then UInt8.ofNat (value.val - 4)
  else if value.val = 62 then 43
  else 47

def sextet (char : UInt8) : Option (Fin 64) :=
  if 65 ≤ char.toNat ∧ char.toNat ≤ 90 then some (Fin.ofNat 64 (char.toNat - 65))
  else if 97 ≤ char.toNat ∧ char.toNat ≤ 122 then some (Fin.ofNat 64 (char.toNat - 71))
  else if 48 ≤ char.toNat ∧ char.toNat ≤ 57 then some (Fin.ofNat 64 (char.toNat + 4))
  else if char.toNat = 43 then some 62
  else if char.toNat = 47 then some 63
  else none

@[simp]
theorem sextet_letter (value : Fin 64) : sextet (letter value) = some value := by
  have table : ∀ value : Fin 64, sextet (letter value) = some value := by decide
  exact table value

@[simp]
theorem sextet_pad : sextet pad = none := by decide

def joined (first second third : UInt8) : Nat := first.toNat * 65536 + second.toNat * 256 + third.toNat

def joinedSextets (first second third fourth : Fin 64) : Nat :=
  first.val * 262144 + second.val * 4096 + third.val * 64 + fourth.val

def sextetAt (value place : Nat) : Fin 64 := Fin.ofNat 64 (value / place)

def byteAt (value place : Nat) : UInt8 := UInt8.ofNat (value / place)

theorem sextets_of_joined (first second third : UInt8) :
    joinedSextets (sextetAt (joined first second third) 262144) (sextetAt (joined first second third) 4096)
      (sextetAt (joined first second third) 64) (sextetAt (joined first second third) 1) = joined first second third := by
  have high := first.toNat_lt
  have middle := second.toNat_lt
  have low := third.toNat_lt
  simp only [joinedSextets, sextetAt, joined, Fin.val_ofNat]
  omega

theorem bytes_of_joined (first second third : UInt8) :
    byteAt (joined first second third) 65536 = first ∧ byteAt (joined first second third) 256 = second ∧
      byteAt (joined first second third) 1 = third := by
  have high := first.toNat_lt
  have middle := second.toNat_lt
  have low := third.toNat_lt
  simp only [byteAt, joined, ← UInt8.toNat_inj, UInt8.toNat_ofNat']
  omega

theorem fourth_sextet_zero (first second : UInt8) : sextetAt (joined first second 0) 1 = 0 := by
  apply Fin.ext
  simp only [sextetAt, joined, Fin.val_ofNat, UInt8.toNat_zero]
  change _ = 0
  omega

theorem third_sextet_zero (first : UInt8) : sextetAt (joined first 0 0) 64 = 0 := by
  apply Fin.ext
  simp only [sextetAt, joined, Fin.val_ofNat, UInt8.toNat_zero]
  change _ = 0
  omega

def letterAt (value place : Nat) : UInt8 := letter (sextetAt value place)

def encode : Bytes → Bytes
  | [] => []
  | [first] => [letterAt (joined first 0 0) 262144, letterAt (joined first 0 0) 4096, pad, pad]
  | [first, second] =>
      [letterAt (joined first second 0) 262144, letterAt (joined first second 0) 4096, letterAt (joined first second 0) 64, pad]
  | first :: second :: third :: rest =>
      letterAt (joined first second third) 262144 :: letterAt (joined first second third) 4096 ::
        letterAt (joined first second third) 64 :: letterAt (joined first second third) 1 :: encode rest

def padded (dbuf : List (Fin 64)) (rest : Bytes) : Option Bytes :=
  match dbuf with
  | [first, second] =>
      match rest.dropWhile lineBreak with
      | [] => none
      | char :: after =>
          if char = pad ∧ after.all lineBreak then some [byteAt (joinedSextets first second 0 0) 65536] else none
  | [first, second, third] =>
      if rest.all lineBreak then
        some [byteAt (joinedSextets first second third 0) 65536, byteAt (joinedSextets first second third 0) 256]
      else none
  | _ => none

def decodeQuanta (dbuf : List (Fin 64)) : Bytes → Option Bytes
  | [] => if dbuf.isEmpty then some [] else none
  | char :: rest =>
      match sextet char with
      | some value =>
          match dbuf with
          | [first, second, third] =>
              (decodeQuanta [] rest).map fun bytes =>
                byteAt (joinedSextets first second third value) 65536 :: byteAt (joinedSextets first second third value) 256 ::
                  byteAt (joinedSextets first second third value) 1 :: bytes
          | _ => decodeQuanta (dbuf ++ [value]) rest
      | none =>
          if lineBreak char then decodeQuanta dbuf rest
          else if char ≠ pad then none
          else padded dbuf rest

def decode (text : Bytes) : Option Bytes := decodeQuanta [] text

theorem decode_quantum (first second third fourth : Fin 64) (rest : Bytes) :
    decode (letter first :: letter second :: letter third :: letter fourth :: rest) =
      (decode rest).map fun bytes =>
        byteAt (joinedSextets first second third fourth) 65536 :: byteAt (joinedSextets first second third fourth) 256 ::
          byteAt (joinedSextets first second third fourth) 1 :: bytes := by
  simp [decode, decodeQuanta]

theorem decode_one_byte (first second : Fin 64) :
    decode [letter first, letter second, pad, pad] = some [byteAt (joinedSextets first second 0 0) 65536] := by
  simp [decode, decodeQuanta, padded, show lineBreak pad = false from rfl]

theorem decode_two_bytes (first second third : Fin 64) :
    decode [letter first, letter second, letter third, pad] =
      some [byteAt (joinedSextets first second third 0) 65536, byteAt (joinedSextets first second third 0) 256] := by
  simp [decode, decodeQuanta, padded, show lineBreak pad = false from rfl]

theorem decode_encode (bytes : Bytes) : decode (encode bytes) = some bytes := by
  induction bytes using encode.induct with
  | case1 => rfl
  | case2 first =>
      have whole := sextets_of_joined first 0 0
      rw [third_sextet_zero, fourth_sextet_zero] at whole
      rw [encode, letterAt, letterAt, decode_one_byte, whole, (bytes_of_joined first 0 0).1]
  | case3 first second =>
      have whole := sextets_of_joined first second 0
      rw [fourth_sextet_zero] at whole
      obtain ⟨high, middle, _⟩ := bytes_of_joined first second 0
      rw [encode, letterAt, letterAt, letterAt, decode_two_bytes, whole, high, middle]
  | case4 first second third rest ih =>
      obtain ⟨high, middle, low⟩ := bytes_of_joined first second third
      rw [encode, letterAt, letterAt, letterAt, letterAt, decode_quantum, ih, sextets_of_joined, high, middle, low]
      rfl

theorem letters_length (text : Bytes) (letters : ∀ char ∈ text, (sextet char).isSome = true) (dbuf : List (Fin 64))
    (opened : dbuf.length < 4) (bytes : Bytes) (decoded : decodeQuanta dbuf text = some bytes) :
    4 * bytes.length = 3 * (dbuf.length + text.length) := by
  induction text generalizing dbuf bytes with
  | nil =>
      simp only [decodeQuanta] at decoded
      split_ifs at decoded with closed
      cases decoded
      simp [List.isEmpty_iff.mp closed]
  | cons char rest ih =>
      have others : ∀ char ∈ rest, (sextet char).isSome = true := fun other member =>
        letters other (List.mem_cons_of_mem char member)
      obtain ⟨value, found⟩ := Option.isSome_iff_exists.mp (letters char List.mem_cons_self)
      simp only [decodeQuanta, found] at decoded
      split at decoded
      · obtain ⟨tail, remaining, rfl⟩ := Option.map_eq_some_iff.mp decoded
        have count := ih others [] (by decide) tail remaining
        simp only [List.length_cons, List.length_nil] at count ⊢
        omega
      · rename_i unfilled
        have room : dbuf.length < 3 := by
          match dbuf, opened with
          | [], _ | [_], _ | [_, _], _ => simp
          | [first, second, third], _ => exact absurd rfl (unfilled first second third)
        have count := ih others _ (by rw [List.length_append]; exact Nat.succ_lt_succ room) bytes decoded
        simp only [List.length_append, List.length_cons, List.length_nil] at count ⊢
        omega

end Base64
