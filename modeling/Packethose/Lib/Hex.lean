import Packethose.Lib.Octets
import Packethose.Lib.Outcomes

set_option autoImplicit false

-- encoding/hex. A text is its bytes.
namespace Hex

inductive Problem where
  | invalidByte (char : UInt8)
  | length
deriving DecidableEq, Repr

def printable (char : UInt8) : Bool :=
  (0x20 ≤ char.toNat && char.toNat < 0x7F) || (0xA1 ≤ char.toNat && char.toNat != 0xAD)

def upperDigits (char : UInt8) : String :=
  String.ofList [(char.toNat / 16).digitChar.toUpper, (char.toNat % 16).digitChar.toUpper]

def Problem.message : Problem → String
  | .invalidByte char =>
      "encoding/hex: invalid byte: U+00" ++ upperDigits char ++
        if printable char then " '" ++ String.ofList [Char.ofNat char.toNat] ++ "'" else ""
  | .length => "encoding/hex: odd length hex string"

def digit (upper : Bool) (value : Fin 16) : UInt8 :=
  if value.val < 10 then UInt8.ofNat (value.val + 48)
  else if upper then UInt8.ofNat (value.val + 55)
  else UInt8.ofNat (value.val + 87)

def fromHexChar (char : UInt8) : Except Problem (Fin 16) :=
  if 48 ≤ char.toNat ∧ char.toNat ≤ 57 then .ok (Fin.ofNat 16 (char.toNat - 48))
  else if 97 ≤ char.toNat ∧ char.toNat ≤ 102 then .ok (Fin.ofNat 16 (char.toNat - 87))
  else if 65 ≤ char.toNat ∧ char.toNat ≤ 70 then .ok (Fin.ofNat 16 (char.toNat - 55))
  else .error (.invalidByte char)

theorem from_hex_digit (upper : Bool) (value : Fin 16) : fromHexChar (digit upper value) = .ok value := by
  have table : ∀ (upper : Bool) (value : Fin 16), fromHexChar (digit upper value) = .ok value := by decide
  exact table upper value

def highHalf (byte : UInt8) : Fin 16 := Fin.ofNat 16 (byte.toNat / 16)

def lowHalf (byte : UInt8) : Fin 16 := Fin.ofNat 16 byte.toNat

def fromHalves (high low : Fin 16) : UInt8 := UInt8.ofNat (high.val * 16 + low.val)

theorem from_halves (byte : UInt8) : fromHalves (highHalf byte) (lowHalf byte) = byte := by
  have bound := byte.toNat_lt
  apply UInt8.toNat_inj.mp
  simp only [fromHalves, highHalf, lowHalf, UInt8.toNat_ofNat', Fin.val_ofNat]
  omega

def encode (upper : Bool) : Bytes → Bytes
  | [] => []
  | byte :: rest => digit upper (highHalf byte) :: digit upper (lowHalf byte) :: encode upper rest

-- The first invalid byte is reported, also when it is the odd one at the end.
def decode : Bytes → Except Problem Bytes
  | [] => .ok []
  | [last] => (fromHexChar last).bind fun _ => .error .length
  | p :: q :: rest =>
      (fromHexChar p).bind fun a => (fromHexChar q).bind fun b => (decode rest).map (fromHalves a b :: ·)

theorem decode_encode (upper : Bool) (bytes : Bytes) : decode (encode upper bytes) = .ok bytes := by
  induction bytes with
  | nil => rfl
  | cons byte rest ih =>
      rw [encode, decode, from_hex_digit, from_hex_digit, ih, Except.bind, Except.bind, Except.map, from_halves]

theorem decoded_digits (text bytes : Bytes) (decoded : decode text = .ok bytes) :
    text.length = 2 * bytes.length ∧ ∀ char ∈ text, ∃ value, fromHexChar char = .ok value := by
  induction text using decode.induct generalizing bytes with
  | case1 =>
      cases decoded
      exact ⟨rfl, by simp⟩
  | case2 last =>
      obtain ⟨_, _, impossible⟩ := Outcomes.bind_ok decoded
      cases impossible
  | case3 p q rest ih =>
      obtain ⟨a, first, after⟩ := Outcomes.bind_ok decoded
      obtain ⟨b, second, others⟩ := Outcomes.bind_ok after
      obtain ⟨tail, remaining, rfl⟩ := Outcomes.map_ok others
      obtain ⟨pairs, digits⟩ := ih tail remaining
      constructor
      · simp only [List.length_cons]
        omega
      · intro char member
        rcases List.mem_cons.mp member with rfl | later
        · exact ⟨a, first⟩
        · rcases List.mem_cons.mp later with rfl | deeper
          · exact ⟨b, second⟩
          · exact digits char deeper

end Hex
