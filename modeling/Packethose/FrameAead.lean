import Packethose.Lib.Octets

set_option autoImplicit false

namespace Packethose

def aeadOverhead : Nat := 16

abbrev Nonce := Vector UInt8 12

-- A keyed cipher.AEAD as the data path sees it: sealing adds exactly the tag.
-- What opening accepts is stated where it is needed.
structure AEAD where
  sealBytes : Nonce → Bytes → Bytes
  openBytes : Nonce → Bytes → Option Bytes
  seal_length : ∀ nonce plaintext, (sealBytes nonce plaintext).length = plaintext.length + aeadOverhead

theorem zero_tag_length (_ : Nonce) (plaintext : Bytes) :
    (plaintext ++ List.replicate aeadOverhead 0).length = plaintext.length + aeadOverhead := by
  simp

structure FrameAEAD where
  aead : AEAD
  counter : UInt64
  nonce : Nonce

namespace FrameAEAD

def newFrameAEAD (aead : AEAD) : FrameAEAD := ⟨aead, 0, Vector.replicate 12 0⟩

def putCounter (nonce : Nonce) (counter : UInt64) : Nonce :=
  Vector.ofFn fun index =>
    if index.val < 8 then (counter >>> UInt64.ofNat (8 * index.val)).toUInt8 else nonce[index]

def sealFrame (f : FrameAEAD) (plaintext : Bytes) : FrameAEAD × Bytes :=
  let nonce := putCounter f.nonce f.counter
  (⟨f.aead, f.counter + 1, nonce⟩, f.aead.sealBytes nonce plaintext)

def openFrame (f : FrameAEAD) (ciphertext : Bytes) : FrameAEAD × Option Bytes :=
  let nonce := putCounter f.nonce f.counter
  (⟨f.aead, f.counter + 1, nonce⟩, f.aead.openBytes nonce ciphertext)

def overhead (_ : FrameAEAD) : Nat := aeadOverhead

def nonceFor (count : Nat) : Nonce := putCounter (Vector.replicate 12 0) (UInt64.ofNat count)

theorem put_counter_twice (nonce : Nonce) (first second : UInt64) :
    putCounter (putCounter nonce first) second = putCounter nonce second := by
  apply Vector.ext
  intro index bound
  by_cases low : index < 8 <;> simp [putCounter, low]

theorem counter_byte_bit (counter : UInt64) (index : Nat) (bound : index < 64) :
    (counter >>> UInt64.ofNat (8 * (index / 8))).toUInt8.toBitVec.getLsbD (index % 8) =
      counter.toBitVec.getLsbD index := by
  have shift : (8 * (index / 8)) % 18446744073709551616 % 64 = 8 * (index / 8) := by omega
  have inside : index % 8 < 8 := Nat.mod_lt _ (by decide)
  have position : 8 * (index / 8) + index % 8 = index := Nat.div_add_mod index 8
  simp [UInt64.toBitVec_shiftRight, BitVec.getLsbD_ushiftRight, inside, shift, position]

theorem put_counter_injective (nonce : Nonce) (first second : UInt64)
    (same : putCounter nonce first = putCounter nonce second) : first = second := by
  apply UInt64.eq_of_toBitVec_eq
  apply BitVec.eq_of_getLsbD_eq
  intro index bound
  have byte := congrArg (fun bytes : Nonce => bytes[index / 8]) same
  simp only [putCounter, Vector.getElem_ofFn, if_pos (show index / 8 < 8 by omega)] at byte
  rw [← counter_byte_bit first index bound, ← counter_byte_bit second index bound, byte]

theorem nonce_for_injective (first second : Nat) (small : first < UInt64.size) (small' : second < UInt64.size)
    (same : nonceFor first = nonceFor second) : first = second := by
  have counters := put_counter_injective _ _ _ same
  have values := congrArg UInt64.toNat counters
  rwa [UInt64.toNat_ofNat', UInt64.toNat_ofNat', Nat.mod_eq_of_lt small, Nat.mod_eq_of_lt small'] at values

structure After (aead : AEAD) (count : Nat) (f : FrameAEAD) : Prop where
  key : f.aead = aead
  counter : f.counter = UInt64.ofNat count
  nonce : ∀ counter, putCounter f.nonce counter = putCounter (Vector.replicate 12 0) counter

theorem new_after (aead : AEAD) : After aead 0 (newFrameAEAD aead) := ⟨rfl, rfl, fun _ => rfl⟩

theorem advance_after (aead : AEAD) (count : Nat) (f : FrameAEAD) (after : After aead count f) :
    After aead (count + 1) ⟨f.aead, f.counter + 1, putCounter f.nonce f.counter⟩ := by
  refine ⟨after.key, ?_, fun counter => ?_⟩
  · rw [after.counter, UInt64.ofNat_add]
    rfl
  · rw [put_counter_twice, after.nonce]

theorem seal_after (aead : AEAD) (count : Nat) (f : FrameAEAD) (after : After aead count f) (plaintext : Bytes) :
    (f.sealFrame plaintext).2 = aead.sealBytes (nonceFor count) plaintext ∧
      After aead (count + 1) (f.sealFrame plaintext).1 ∧ (f.sealFrame plaintext).1.nonce = nonceFor count := by
  refine ⟨?_, advance_after aead count f after, ?_⟩
  · simp only [sealFrame, after.key, after.counter, after.nonce, nonceFor]
  · simp only [sealFrame, after.counter, after.nonce, nonceFor]

theorem open_after (aead : AEAD) (count : Nat) (f : FrameAEAD) (after : After aead count f) (ciphertext : Bytes) :
    (f.openFrame ciphertext).2 = aead.openBytes (nonceFor count) ciphertext ∧
      After aead (count + 1) (f.openFrame ciphertext).1 := by
  refine ⟨?_, advance_after aead count f after⟩
  simp only [openFrame, after.key, after.counter, after.nonce, nonceFor]

end FrameAEAD

def sealBody (sealer : Option FrameAEAD) (payload : Bytes) : Option FrameAEAD × Bytes :=
  match sealer with
  | none => (none, payload)
  | some f => (some (f.sealFrame payload).1, (f.sealFrame payload).2)

inductive DirectionAfter : Option AEAD → Nat → Option FrameAEAD → Prop where
  | plain (count : Nat) : DirectionAfter none count none
  | keyed (aead : AEAD) (count : Nat) (f : FrameAEAD) (after : FrameAEAD.After aead count f) :
      DirectionAfter (some aead) count (some f)

def bodyOf (aead : Option AEAD) (count : Nat) (payload : Bytes) : Bytes :=
  match aead with
  | none => payload
  | some cipher => cipher.sealBytes (FrameAEAD.nonceFor count) payload

def payloadOf (aead : Option AEAD) (count : Nat) (body : Bytes) : Option Bytes :=
  match aead with
  | none => some body
  | some cipher => cipher.openBytes (FrameAEAD.nonceFor count) body

theorem direction_fresh (aead : Option AEAD) : DirectionAfter aead 0 (aead.map FrameAEAD.newFrameAEAD) := by
  cases aead with
  | none => exact .plain 0
  | some cipher => exact .keyed cipher 0 _ (FrameAEAD.new_after cipher)

theorem seal_body_after (aead : Option AEAD) (count : Nat) (sealer : Option FrameAEAD)
    (after : DirectionAfter aead count sealer) (payload : Bytes) :
    (sealBody sealer payload).2 = bodyOf aead count payload ∧
      DirectionAfter aead (count + 1) (sealBody sealer payload).1 := by
  cases after with
  | plain => exact ⟨rfl, .plain _⟩
  | keyed cipher count f held =>
      obtain ⟨output, advanced, _⟩ := FrameAEAD.seal_after cipher count f held payload
      exact ⟨output, .keyed cipher _ _ advanced⟩

-- Ideal opening relative to what one sender sealed: it succeeds on the sealed
-- ciphertexts, and under the counter k only on the k-th of them; under the
-- next unused counter it never succeeds.
structure IdealOpening (aead : AEAD) (sealed : List Bytes) : Prop where
  accepts : ∀ count (sent : count < sealed.length),
    aead.openBytes (FrameAEAD.nonceFor count) (aead.sealBytes (FrameAEAD.nonceFor count) sealed[count]) = some sealed[count]
  rejects : ∀ count ≤ sealed.length, ∀ ciphertext plaintext,
    aead.openBytes (FrameAEAD.nonceFor count) ciphertext = some plaintext →
      ∃ sent : count < sealed.length, ciphertext = aead.sealBytes (FrameAEAD.nonceFor count) sealed[count]

theorem ideal_open_exact (aead : AEAD) (sealed : List Bytes) (ideal : IdealOpening aead sealed) (count : Nat)
    (bounded : count ≤ sealed.length) (ciphertext plaintext : Bytes)
    (opened : aead.openBytes (FrameAEAD.nonceFor count) ciphertext = some plaintext) :
    sealed[count]? = some plaintext := by
  obtain ⟨sent, exact⟩ := ideal.rejects count bounded ciphertext plaintext opened
  rw [exact, ideal.accepts count sent] at opened
  rw [List.getElem?_eq_getElem sent, opened]

theorem ideal_run_bounded (aead : AEAD) (sealed : List Bytes) (ideal : IdealOpening aead sealed) :
    sealed.length < UInt64.size := by
  by_contra long
  rw [UInt64.size] at long
  have earlier : sealed.length - 2 ^ 64 < sealed.length := by omega
  have wrapped : FrameAEAD.nonceFor sealed.length = FrameAEAD.nonceFor (sealed.length - 2 ^ 64) := by
    have counters : UInt64.ofNat sealed.length = UInt64.ofNat (sealed.length - 2 ^ 64) := by
      apply UInt64.toNat_inj.mp
      simp only [UInt64.toNat_ofNat']
      omega
    rw [FrameAEAD.nonceFor, FrameAEAD.nonceFor, counters]
  have accepted := ideal.accepts _ earlier
  rw [← wrapped] at accepted
  obtain ⟨sent, _⟩ := ideal.rejects sealed.length (Nat.le_refl _) _ _ accepted
  omega

end Packethose
