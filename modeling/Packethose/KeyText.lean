import Packethose.FileConfig
import Packethose.Lib.Base64
import Packethose.Lib.Hex

set_option autoImplicit false

namespace Packethose

def parseKeyText (text : Bytes) : Except KeyError Bytes :=
  if text = [] then .ok []
  else
    match (Base64.decode text).filter fun key => key.length == pubKeyLen with
    | some key => .ok key
    | none =>
        match Hex.decode text with
        | .error problem => .error (.encoding problem.message)
        | .ok key => if key.length ≠ pubKeyLen then .error (.length key.length) else .ok key

def formatKey (key : Bytes) : Bytes := Base64.encode key

def GoLib.withKeyText (go : GoLib) : GoLib :=
  { go with
    decodeBase64 := fun text => Base64.decode text.toUTF8.data.toList
    decodeHex := fun text => (Hex.decode text.toUTF8.data.toList).mapError Hex.Problem.message }

theorem text_bytes_empty (text : String) : text.toUTF8.data.toList = [] ↔ text = "" := by
  rw [Array.toList_eq_nil_iff, ← String.toByteArray_inj, ByteArray.ext_iff]
  rfl

theorem parse_key_text (go : GoLib) (text : String) : parseKey go.withKeyText text = parseKeyText text.toUTF8.data.toList := by
  unfold parseKey parseKeyText
  simp only [text_bytes_empty, GoLib.withKeyText]
  cases Hex.decode text.toUTF8.data.toList <;> rfl

theorem hex_digit_letter (char : UInt8) (value : Fin 16) (digit : Hex.fromHexChar char = .ok value) :
    (Base64.sextet char).isSome = true := by
  have range : 48 ≤ char.toNat ∧ char.toNat ≤ 57 ∨ 97 ≤ char.toNat ∧ char.toNat ≤ 102 ∨ 65 ≤ char.toNat ∧ char.toNat ≤ 70 := by
    unfold Hex.fromHexChar at digit
    split_ifs at digit with decimal lower upper
    · exact .inl decimal
    · exact .inr (.inl lower)
    · exact .inr (.inr upper)
  unfold Base64.sextet
  split_ifs <;> first | rfl | omega

theorem readings_length (text key other : Bytes) (base64 : Base64.decode text = some key) (hex : Hex.decode text = .ok other) :
    2 * key.length = 3 * other.length := by
  obtain ⟨pairs, digits⟩ := Hex.decoded_digits text other hex
  have letters : ∀ char ∈ text, (Base64.sextet char).isSome = true := by
    intro char member
    obtain ⟨value, digit⟩ := digits char member
    exact hex_digit_letter char value digit
  have count := Base64.letters_length text letters [] (by decide) key base64
  rw [List.length_nil, pairs] at count
  omega

theorem parse_key_text_ok (text key : Bytes) (given : text ≠ []) :
    parseKeyText text = .ok key ↔ key.length = pubKeyLen ∧ (Base64.decode text = some key ∨ Hex.decode text = .ok key) := by
  unfold parseKeyText
  rw [if_neg given]
  cases reading : (Base64.decode text).filter fun key => key.length == pubKeyLen with
  | some found =>
      obtain ⟨decoded, full⟩ := Option.filter_eq_some_iff.mp reading
      have long : found.length = pubKeyLen := beq_iff_eq.mp full
      constructor
      · intro same
        cases same
        exact ⟨long, .inl decoded⟩
      · rintro ⟨exact32, base64 | hex⟩
        · rw [decoded] at base64
          exact congrArg Except.ok (Option.some.inj base64)
        · have lengths := readings_length text found key decoded hex
          rw [long, exact32] at lengths
          cases lengths
  | none =>
      have unread : ∀ key, Base64.decode text = some key → key.length ≠ pubKeyLen := by
        intro key decoded
        rw [decoded] at reading
        simpa using reading
      cases hex : Hex.decode text with
      | error problem =>
          constructor
          · intro failed
            cases failed
          · rintro ⟨full, base64 | failed⟩
            · exact absurd full (unread key base64)
            · cases failed
      | ok found =>
          simp only
          constructor
          · intro accepted
            split_ifs at accepted with long
            cases accepted
            exact ⟨not_not.mp long, .inr rfl⟩
          · rintro ⟨full, base64 | same⟩
            · exact absurd full (unread key base64)
            · cases same
              rw [if_neg (not_not.mpr full)]

theorem format_key_given (key : Bytes) (full : key.length = pubKeyLen) : formatKey key ≠ [] := by
  intro empty
  have decoded := Base64.decode_encode key
  rw [show Base64.encode key = [] from empty] at decoded
  cases decoded
  cases full

theorem parse_format_key (key : Bytes) (full : key.length = pubKeyLen) : parseKeyText (formatKey key) = .ok key :=
  (parse_key_text_ok _ key (format_key_given key full)).mpr ⟨full, .inl (Base64.decode_encode key)⟩

-- Base64 is tried first and never takes a hex key for another key.
theorem parse_hex_key (text key : Bytes) (hex : Hex.decode text = .ok key) (full : key.length = pubKeyLen) :
    parseKeyText text = .ok key := by
  have given : text ≠ [] := by
    rintro rfl
    cases hex
    cases full
  exact (parse_key_text_ok text key given).mpr ⟨full, .inr hex⟩

theorem key_text_unambiguous :
    (∀ key : Bytes, key.length = pubKeyLen →
      parseKeyText (formatKey key) = .ok key ∧ ∀ upper, parseKeyText (Hex.encode upper key) = .ok key) ∧
    (∀ text key, text ≠ [] → parseKeyText text = .ok key → key.length = pubKeyLen) ∧
    (∀ text key other, Base64.decode text = some key → Hex.decode text = .ok other →
      ¬ (key.length = pubKeyLen ∧ other.length = pubKeyLen)) ∧
    ∀ text key, Hex.decode text = .ok key → key.length = pubKeyLen → parseKeyText text = .ok key := by
  refine ⟨?_, ?_, ?_, parse_hex_key⟩
  · intro key full
    constructor
    · exact parse_format_key key full
    · intro upper
      exact parse_hex_key _ key (Hex.decode_encode upper key) full
  · intro text key given accepted
    exact ((parse_key_text_ok text key given).mp accepted).1
  · rintro text key other base64 hex ⟨full, both⟩
    have lengths := readings_length text key other base64 hex
    rw [full, both] at lengths
    cases lengths

theorem key_text_unambiguous_at :
    parseKeyText (formatKey (List.replicate 32 7)) = .ok (List.replicate 32 7) ∧
      parseKeyText (Hex.encode true (List.replicate 32 0xAB)) = .ok (List.replicate 32 0xAB) :=
  ⟨(key_text_unambiguous.1 _ rfl).1, (key_text_unambiguous.1 _ rfl).2 true⟩

theorem user_key_read (go : GoLib) (u : UserFile) (index : Nat) (key : Bytes) (full : key.length = pubKeyLen)
    (written : u.publicKey.toUTF8.data.toList = formatKey key ∨ ∃ upper, u.publicKey.toUTF8.data.toList = Hex.encode upper key) :
    u.toUser go.withKeyText index =
      (parseReserved go.withKeyText u.name u.reserved).map fun reserved => ⟨u.name, key, u.maxConcurrent, reserved⟩ := by
  have read : parseKey go.withKeyText u.publicKey = .ok key := by
    rw [parse_key_text]
    rcases written with base64 | ⟨upper, hex⟩
    · rw [base64]
      exact parse_format_key key full
    · rw [hex]
      exact parse_hex_key _ key (Hex.decode_encode upper key) full
  have present : key.isEmpty = false := by
    cases key with
    | nil => cases full
    | cons byte rest => rfl
  rw [UserFile.toUser, read, Except.mapError, Except.bind, present]
  rfl

end Packethose
