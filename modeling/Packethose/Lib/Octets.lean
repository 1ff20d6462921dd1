import Mathlib.Data.List.Basic
import Mathlib.Data.List.FinRange

set_option autoImplicit false

abbrev Bytes := List UInt8

namespace Octets

def putUint16 (value : Nat) : Bytes := [UInt8.ofNat (value / 256), UInt8.ofNat value]

def getUint16 (high low : UInt8) : Nat := high.toNat * 256 + low.toNat

theorem get_put_uint16 (value : Nat) (bounded : value < 65536) :
    getUint16 (UInt8.ofNat (value / 256)) (UInt8.ofNat value) = value := by
  simp only [getUint16, UInt8.toNat_ofNat']
  omega

theorem put_get_uint16 (high low : UInt8) : putUint16 (getUint16 high low) = [high, low] := by
  have first := high.toNat_lt
  have second := low.toNat_lt
  simp only [putUint16, getUint16]
  congr 1
  · apply UInt8.toNat_inj.mp
    rw [UInt8.toNat_ofNat']
    omega
  · congr 1
    apply UInt8.toNat_inj.mp
    rw [UInt8.toNat_ofNat']
    omega

theorem get_uint16_lt (high low : UInt8) : getUint16 high low < 65536 := by
  have first := high.toNat_lt
  have second := low.toNat_lt
  unfold getUint16
  omega

def pairs : Bytes → List Nat
  | high :: low :: rest => getUint16 high low :: pairs rest
  | _ => []

theorem pairs_put (bytes : Bytes) (even : bytes.length % 2 = 0) : (pairs bytes).flatMap putUint16 = bytes := by
  fun_induction pairs bytes with
  | case1 high low rest ih =>
      have shorter : rest.length % 2 = 0 := by
        simp only [List.length_cons] at even
        omega
      rw [List.flatMap_cons, put_get_uint16, ih shorter]
      rfl
  | case2 bytes short =>
      match bytes with
      | [] => rfl
      | [byte] => simp at even
      | high :: low :: rest => exact absurd rfl (short high low rest)

theorem pairs_length (bytes : Bytes) : (pairs bytes).length = bytes.length / 2 := by
  fun_induction pairs bytes with
  | case1 high low rest ih =>
      simp only [List.length_cons, ih]
      omega
  | case2 bytes short =>
      match bytes with
      | [] => rfl
      | [byte] => simp
      | high :: low :: rest => exact absurd rfl (short high low rest)

theorem pairs_lt (bytes : Bytes) : ∀ number ∈ pairs bytes, number < 65536 := by
  fun_induction pairs bytes with
  | case1 high low rest ih => exact List.forall_mem_cons.mpr ⟨get_uint16_lt high low, ih⟩
  | case2 bytes short => simp

def littleEndian (bytes : Bytes) : Nat := bytes.foldr (fun byte total => byte.toNat + 256 * total) 0

-- Copying into a zeroed array: what the source does not reach stays zero.
def window (width : Nat) (source : Bytes) (start : Nat) : Vector UInt8 width :=
  Vector.ofFn fun index => source.getD (start + index) 0

theorem window_bytes (width : Nat) (source : Bytes) (start : Nat) (complete : start + width ≤ source.length) :
    (window width source start).toList = (source.drop start).take width := by
  apply List.ext_getElem
  · simp
    omega
  · intro index inVector inList
    simp only [Vector.length_toList] at inVector
    have inside : start + index < source.length := by omega
    simp [window, List.getElem?_eq_getElem inside]

theorem window_all {width : Nat} (bytes : Vector UInt8 width) : window width bytes.toList 0 = bytes := by
  apply Vector.toList_inj.mp
  rw [window_bytes _ _ _ (by simp), List.drop_zero, List.take_of_length_le (by simp)]

-- The index-th byte of a mask whose first bits are ones and whose other bits
-- are zeros, counting from the most significant bit of byte zero.
def leadingMask (bits index : Nat) : UInt8 :=
  if 8 * (index + 1) ≤ bits then 0xFF
  else if bits ≤ 8 * index then 0
  else 0xFF <<< UInt8.ofNat (8 * (index + 1) - bits)

def maskBytes {width : Nat} (bits : Nat) (bytes : Vector UInt8 width) : Vector UInt8 width :=
  Vector.ofFn fun index => bytes[index] &&& leadingMask bits index

def agree {width : Nat} (bits : Nat) (left right : Vector UInt8 width) : Bool :=
  (List.finRange width).all fun index => (left[index] ^^^ right[index]) &&& leadingMask bits index == 0

theorem agree_iff {width : Nat} (bits : Nat) (left right : Vector UInt8 width) :
    agree bits left right = true ↔
      ∀ index : Fin width, (left[index] ^^^ right[index]) &&& leadingMask bits index = 0 := by
  simp [agree]

theorem byte_masked_xor (byte other mask : UInt8) : (byte &&& mask ^^^ other) &&& mask = (byte ^^^ other) &&& mask := by
  apply UInt8.eq_of_toBitVec_eq
  ext index bound
  simp only [UInt8.toBitVec_and, UInt8.toBitVec_xor, BitVec.getElem_and, BitVec.getElem_xor]
  cases byte.toBitVec[index] <;> cases other.toBitVec[index] <;> cases mask.toBitVec[index] <;> rfl

theorem agree_masked {width : Nat} (bits : Nat) (left right : Vector UInt8 width) :
    agree bits (maskBytes bits left) right = agree bits left right := by
  unfold agree maskBytes
  congr 1
  funext index
  rw [Fin.getElem_fin, Vector.getElem_ofFn, byte_masked_xor]

theorem leading_mask_boundary (bits index : Nat) (below : 8 * index ≤ bits) (above : bits < 8 * (index + 1)) :
    leadingMask bits index = ~~~((0xFF : UInt8) >>> UInt8.ofNat (bits - 8 * index)) := by
  obtain ⟨offset, total⟩ : ∃ offset, bits = 8 * index + offset := ⟨bits - 8 * index, by omega⟩
  subst total
  have small : offset < 8 := by omega
  have shift : 8 * (index + 1) - (8 * index + offset) = 8 - offset := by omega
  rw [Nat.add_sub_cancel_left]
  unfold leadingMask
  rw [if_neg (by omega), shift]
  by_cases start : offset = 0
  · subst start
    rw [if_pos (by omega)]
    decide
  · have table : ∀ position : Fin 8, position.val ≠ 0 →
        (0xFF : UInt8) <<< UInt8.ofNat (8 - position) = ~~~((0xFF : UInt8) >>> UInt8.ofNat position) := by decide
    rw [if_neg (by omega)]
    exact table ⟨offset, small⟩ start

def word (bytes : Vector UInt8 4) : Nat :=
  (((bytes.get 0).toNat * 256 + (bytes.get 1).toNat) * 256 + (bytes.get 2).toNat) * 256 + (bytes.get 3).toNat

def ofWord (value : Nat) : Vector UInt8 4 :=
  #v[UInt8.ofNat (value / 16777216), UInt8.ofNat (value / 65536), UInt8.ofNat (value / 256), UInt8.ofNat value]

theorem word_lt (bytes : Vector UInt8 4) : word bytes < 4294967296 := by
  have first := (bytes.get 0).toNat_lt
  have second := (bytes.get 1).toNat_lt
  have third := (bytes.get 2).toNat_lt
  have fourth := (bytes.get 3).toNat_lt
  unfold word
  omega

theorem word_of_word (value : Nat) : word (ofWord value) = value % 4294967296 := by
  change (((UInt8.ofNat (value / 16777216)).toNat * 256 + (UInt8.ofNat (value / 65536)).toNat) * 256 +
    (UInt8.ofNat (value / 256)).toNat) * 256 + (UInt8.ofNat value).toNat = _
  simp only [UInt8.toNat_ofNat']
  omega

theorem word_injective (left right : Vector UInt8 4) (same : word left = word right) : left = right := by
  have below : ∀ (bytes : Vector UInt8 4) (index : Fin 4), (bytes.get index).toNat < 256 := fun bytes index => (bytes.get index).toNat_lt
  have left1 := below left 1
  have left2 := below left 2
  have left3 := below left 3
  have right1 := below right 1
  have right2 := below right 2
  have right3 := below right 3
  unfold word at same
  have equal : ∀ index : Fin 4, (left.get index).toNat = (right.get index).toNat := by
    intro index
    match index with
    | 0 => omega
    | 1 => omega
    | 2 => omega
    | 3 => omega
  apply Vector.ext
  intro index bound
  exact UInt8.toNat_inj.mp (equal ⟨index, bound⟩)

theorem low_bit (high : Nat) (byte : UInt8) (bit : Nat) (inside : bit < 8) :
    (high * 256 + byte.toNat).testBit bit = byte.toNat.testBit bit := by
  rw [Nat.mul_comm, Nat.testBit_two_pow_mul_add high byte.toNat_lt bit, if_pos inside]

theorem high_bit (high : Nat) (byte : UInt8) (bit : Nat) :
    (high * 256 + byte.toNat).testBit (bit + 8) = high.testBit bit := by
  rw [Nat.mul_comm, Nat.testBit_two_pow_mul_add high byte.toNat_lt (bit + 8), if_neg (by omega), Nat.add_sub_cancel]

theorem word_bit (bytes : Vector UInt8 4) (index : Fin 4) (bit : Nat) (inside : bit < 8) :
    (word bytes).testBit (bit + 8 * (3 - index.val)) = bytes[index].toNat.testBit bit := by
  obtain ⟨position, bound⟩ := index
  unfold word
  match position with
  | 3 => exact low_bit _ _ bit inside
  | 2 => exact (high_bit _ _ bit).trans (low_bit _ _ bit inside)
  | 1 => exact (high_bit _ _ (bit + 8)).trans ((high_bit _ _ bit).trans (low_bit _ _ bit inside))
  | 0 =>
      rw [show bit + 8 * (3 - 0) = bit + 8 + 8 + 8 from rfl, high_bit, high_bit]
      exact high_bit (bytes.get 0).toNat (bytes.get 1) bit

theorem leading_mask_bit (bits : Nat) (index : Nat) (bit : Nat) (inside : bit < 8) :
    (leadingMask bits index).toNat.testBit bit = decide (8 * (index + 1) ≤ bits + bit) := by
  unfold leadingMask
  split_ifs with whole none
  · have table : ∀ bit : Fin 8, (0xFF : UInt8).toNat.testBit bit = true := by decide
    rw [table ⟨bit, inside⟩, decide_eq_true (by omega)]
  · rw [decide_eq_false (by omega)]
    exact Nat.zero_testBit bit
  · have table : ∀ shift bit : Fin 8,
        ((0xFF : UInt8) <<< UInt8.ofNat shift).toNat.testBit bit = decide (shift.val ≤ bit.val) := by decide
    rw [table ⟨8 * (index + 1) - bits, by omega⟩ ⟨bit, inside⟩]
    exact decide_eq_decide.mpr (by simp only; omega)

theorem byte_equal_iff (left right : UInt8) :
    left = right ↔ ∀ bit, bit < 8 → left.toNat.testBit bit = right.toNat.testBit bit := by
  constructor
  · rintro rfl bit _
    rfl
  · intro equal
    apply UInt8.toNat_inj.mp
    apply Nat.eq_of_testBit_eq
    intro bit
    by_cases inside : bit < 8
    · exact equal bit inside
    · have beyond : ∀ byte : UInt8, byte.toNat.testBit bit = false := fun byte =>
        Nat.testBit_lt_two_pow (Nat.lt_of_lt_of_le byte.toNat_lt (Nat.pow_le_pow_right (by decide) (Nat.le_of_not_lt inside)))
      rw [beyond, beyond]

theorem masked_equal_iff (left right mask : UInt8) :
    (left ^^^ right) &&& mask = 0 ↔
      ∀ bit, bit < 8 → mask.toNat.testBit bit = true → left.toNat.testBit bit = right.toNat.testBit bit := by
  simp only [byte_equal_iff ((left ^^^ right) &&& mask), UInt8.toNat_and, UInt8.toNat_xor, UInt8.toNat_zero, Nat.testBit_and,
    Nat.testBit_xor, Nat.zero_testBit]
  refine forall_congr' fun bit => forall_congr' fun _ => ?_
  cases mask.toNat.testBit bit <;> simp

theorem mixed_bit (left right mask : UInt8) (bit : Nat) (inside : bit < 8) :
    (left &&& mask ||| right &&& ~~~mask).toNat.testBit bit =
      if mask.toNat.testBit bit = true then left.toNat.testBit bit else right.toNat.testBit bit := by
  have flipped : (~~~mask).toNat.testBit bit = !mask.toNat.testBit bit := by
    change (~~~mask).toBitVec.toNat.testBit bit = !mask.toBitVec.toNat.testBit bit
    rw [BitVec.testBit_toNat, BitVec.testBit_toNat, UInt8.toBitVec_not, BitVec.getLsbD_not, decide_eq_true inside, Bool.true_and]
  rw [UInt8.toNat_or, UInt8.toNat_and, UInt8.toNat_and, Nat.testBit_or, Nat.testBit_and, Nat.testBit_and, flipped]
  cases mask.toNat.testBit bit <;> simp

def bitAt {width : Nat} (bytes : Vector UInt8 width) (position : Nat) : Bool :=
  (bytes.toList.getD (position / 8) 0).toNat.testBit (7 - position % 8)

theorem bit_at_get {width : Nat} (bytes : Vector UInt8 width) (position : Nat) (inside : position / 8 < width) :
    bitAt bytes position = bytes[position / 8].toNat.testBit (7 - position % 8) := by
  simp [bitAt, inside]

theorem bit_at_byte {width : Nat} (bytes : Vector UInt8 width) (index : Fin width) (bit : Nat) (inside : bit < 8) :
    bitAt bytes (8 * index.val + (7 - bit)) = bytes[index].toNat.testBit bit := by
  have place : (8 * index.val + (7 - bit)) / 8 = index.val := by omega
  have offset : 7 - (8 * index.val + (7 - bit)) % 8 = bit := by omega
  rw [bitAt, place, offset]
  simp

theorem bytes_equal_iff {width : Nat} (left right : Vector UInt8 width) :
    left = right ↔ ∀ position, position < 8 * width → bitAt left position = bitAt right position := by
  constructor
  · rintro rfl position _
    rfl
  · intro equal
    apply Vector.ext
    intro index bound
    rw [byte_equal_iff]
    intro bit inside
    have here := equal (8 * index + (7 - bit)) (by omega)
    rwa [bit_at_byte left ⟨index, bound⟩ bit inside, bit_at_byte right ⟨index, bound⟩ bit inside] at here

theorem agree_bits {width : Nat} (bits : Nat) (left right : Vector UInt8 width) (most : bits ≤ 8 * width) :
    agree bits left right = true ↔ ∀ position, position < bits → bitAt left position = bitAt right position := by
  rw [agree_iff]
  simp only [masked_equal_iff]
  constructor
  · intro equal position before
    have here := equal ⟨position / 8, by omega⟩ (7 - position % 8) (by omega)
    rw [leading_mask_bit _ _ _ (by omega)] at here
    rw [bit_at_get _ _ (by omega), bit_at_get _ _ (by omega)]
    exact here (decide_eq_true (by simp only; omega))
  · intro equal index bit inside kept
    have position := index.isLt
    rw [leading_mask_bit _ _ _ inside, decide_eq_true_eq] at kept
    rw [← bit_at_byte left index bit inside, ← bit_at_byte right index bit inside]
    exact equal _ (by omega)

theorem masked_bit {width : Nat} (bits : Nat) (bytes : Vector UInt8 width) (position : Nat) (inside : position < 8 * width) :
    bitAt (maskBytes bits bytes) position = (decide (position < bits) && bitAt bytes position) := by
  rw [bit_at_get _ _ (by omega), bit_at_get _ _ (by omega), maskBytes, Vector.getElem_ofFn, UInt8.toNat_and, Nat.testBit_and,
    leading_mask_bit _ _ _ (by omega), Bool.and_comm]
  congr 1
  exact decide_eq_decide.mpr (by simp only; omega)

theorem mask_bytes_twice {width : Nat} (bits : Nat) (bytes : Vector UInt8 width) :
    maskBytes bits (maskBytes bits bytes) = maskBytes bits bytes := by
  rw [bytes_equal_iff]
  intro position inside
  rw [masked_bit _ _ _ inside, masked_bit _ _ _ inside, ← Bool.and_assoc, Bool.and_self]

theorem word_bit_at (bytes : Vector UInt8 4) (position : Nat) (inside : position < 32) :
    (word bytes).testBit position = bitAt bytes (31 - position) := by
  have here := word_bit bytes ⟨3 - position / 8, by omega⟩ (position % 8) (by omega)
  rw [← bit_at_byte _ _ _ (by omega)] at here
  have whole : position % 8 + 8 * (3 - (3 - position / 8)) = position := by omega
  have mirrored : 8 * (3 - position / 8) + (7 - position % 8) = 31 - position := by omega
  simpa only [whole, mirrored] using here

theorem agree_word (bits : Nat) (left right : Vector UInt8 4) (most : bits ≤ 32) :
    agree bits left right = true ↔ word left >>> (32 - bits) = word right >>> (32 - bits) := by
  have bitwise : agree bits left right = true ↔
      ∀ position, position < 32 → 32 ≤ bits + position → (word left).testBit position = (word right).testBit position := by
    rw [agree_bits bits left right most]
    constructor
    · intro equal position low high
      rw [word_bit_at left position low, word_bit_at right position low]
      exact equal _ (by omega)
    · intro equal position before
      have here := equal (31 - position) (by omega) (by omega)
      rw [word_bit_at left _ (by omega), word_bit_at right _ (by omega)] at here
      rwa [show 31 - (31 - position) = position by omega] at here
  rw [bitwise]
  constructor
  · intro equal
    apply Nat.eq_of_testBit_eq
    intro offset
    rw [Nat.testBit_shiftRight, Nat.testBit_shiftRight]
    by_cases inside : 32 - bits + offset < 32
    · exact equal _ inside (by omega)
    · have beyond : ∀ bytes : Vector UInt8 4, (word bytes).testBit (32 - bits + offset) = false := fun bytes =>
        Nat.testBit_lt_two_pow (Nat.lt_of_lt_of_le (word_lt bytes)
          (Nat.pow_le_pow_right (n := 2) (by decide) (Nat.le_of_not_lt inside)))
      rw [beyond, beyond]
  · intro equal position low high
    have here := congrArg (fun value : Nat => value.testBit (position - (32 - bits))) equal
    simp only [Nat.testBit_shiftRight] at here
    rwa [show 32 - bits + (position - (32 - bits)) = position by omega] at here

theorem masked_low_bit (bits : Nat) (bytes : Vector UInt8 4) (position : Nat) (low : bits + position < 32) :
    (word (maskBytes bits bytes)).testBit position = false := by
  rw [word_bit_at _ _ (by omega), masked_bit _ _ _ (by omega), decide_eq_false (by omega), Bool.false_and]

theorem masked_word (bits : Nat) (bytes : Vector UInt8 4) :
    word (maskBytes bits bytes) = word (maskBytes bits bytes) >>> (32 - bits) <<< (32 - bits) := by
  apply Nat.eq_of_testBit_eq
  intro position
  rw [Nat.testBit_shiftLeft, Nat.testBit_shiftRight]
  by_cases high : position ≥ 32 - bits
  · rw [decide_eq_true high, Bool.true_and, Nat.add_sub_cancel' high]
  · rw [decide_eq_false high, Bool.false_and, masked_low_bit bits bytes position (by omega)]

theorem agree_interval (bits : Nat) (net bytes : Vector UInt8 4) (most : bits ≤ 32) :
    agree bits (maskBytes bits net) bytes = true ↔
      word (maskBytes bits net) ≤ word bytes ∧ word bytes < word (maskBytes bits net) + 1 <<< (32 - bits) := by
  have positive : 0 < 2 ^ (32 - bits) := Nat.two_pow_pos _
  have base := masked_word bits net
  rw [agree_word bits _ _ most]
  rw [Nat.shiftLeft_eq] at base
  rw [Nat.shiftRight_eq_div_pow, Nat.shiftRight_eq_div_pow, Nat.shiftLeft_eq, Nat.one_mul]
  rw [Nat.shiftRight_eq_div_pow] at base
  generalize word (maskBytes bits net) / 2 ^ (32 - bits) = block at base ⊢
  rw [base, eq_comm, Nat.div_eq_iff positive]
  omega

theorem interval_end (bits : Nat) (net : Vector UInt8 4) (most : bits ≤ 32) :
    word (maskBytes bits net) + 1 <<< (32 - bits) ≤ 4294967296 := by
  have base := masked_word bits net
  have small := word_lt (maskBytes bits net)
  rw [Nat.shiftRight_eq_div_pow, Nat.shiftLeft_eq] at base
  rw [Nat.shiftLeft_eq, Nat.one_mul]
  generalize word (maskBytes bits net) / 2 ^ (32 - bits) = block at base
  have total : 4294967296 = 2 ^ bits * 2 ^ (32 - bits) := by
    rw [← Nat.pow_add, Nat.add_sub_cancel' most]
  have fewer : block < 2 ^ bits := by
    rw [base, total] at small
    exact Nat.lt_of_mul_lt_mul_right small
  calc word (maskBytes bits net) + 2 ^ (32 - bits) = (block + 1) * 2 ^ (32 - bits) := by rw [base, Nat.succ_mul]
    _ ≤ 2 ^ bits * 2 ^ (32 - bits) := Nat.mul_le_mul_right _ fewer
    _ = 4294967296 := total.symm

end Octets
