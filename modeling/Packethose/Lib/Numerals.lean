import Mathlib.Data.List.TakeWhile

set_option autoImplicit false

-- Numbers written out in a base, and lists of them with a separator between.
namespace Numerals

def digitValue (c : Char) : Nat := if c.toNat < 58 then c.toNat - 48 else c.toNat - 87

def value (base : Nat) (text : List Char) : Nat := text.foldl (fun total c => total * base + digitValue c) 0

def field (base limit : Nat) (text : List Char) : Option Nat :=
  if value base text < limit ∧ Nat.toDigits base (value base text) = text then some (value base text) else none

def joined (separator : Char) (base : Nat) (numbers : List Nat) : List Char :=
  [separator].intercalate (numbers.map (Nat.toDigits base))

def fields (separator : Char) (base limit : Nat) (text : List Char) : Option (List Nat) :=
  (text.splitOn separator).mapM (field base limit)

def cut (separator : Char) (text : List Char) : Option (List Char × List Char) :=
  match text.dropWhile (· != separator) with
  | [] => none
  | _ :: rest => some (text.takeWhile (· != separator), rest)

def cutLast (separator : Char) (text : List Char) : Option (List Char × List Char) :=
  (cut separator text.reverse).map fun parts => (parts.2.reverse, parts.1.reverse)

section Digits

variable (base : Nat) (least : 1 < base) (most : base ≤ 16)

theorem digit_value (digit : Nat) (small : digit < 16) : digitValue digit.digitChar = digit := by
  have table : ∀ digit : Fin 16, digitValue digit.val.digitChar = digit.val := by decide
  exact table ⟨digit, small⟩

include least most

theorem value_digits (number : Nat) : value base (Nat.toDigits base number) = number := by
  induction number using Nat.strongRecOn with
  | ind number ih =>
      by_cases small : number < base
      · rw [Nat.toDigits_of_lt_base small]
        simp [value, digit_value number (by omega)]
      · have front := ih (number / base) (Nat.div_lt_self (by omega) least)
        have last := digit_value (number % base) (by have := Nat.mod_lt number (by omega : base > 0); omega)
        rw [Nat.toDigits_of_base_le least (by omega), value, List.foldl_append, List.foldl_cons, List.foldl_nil, last]
        rw [value] at front
        rw [front]
        exact Nat.div_add_mod' number base

theorem mem_digits (number : Nat) (c : Char) (member : c ∈ Nat.toDigits base number) : ∃ digit, digit < 16 ∧ c = digit.digitChar := by
  induction number using Nat.strongRecOn with
  | ind number ih =>
      by_cases small : number < base
      · rw [Nat.toDigits_of_lt_base small, List.mem_singleton] at member
        exact ⟨number, by omega, member⟩
      · rw [Nat.toDigits_of_base_le least (by omega), List.mem_append, List.mem_singleton] at member
        rcases member with inside | here
        · exact ih (number / base) (Nat.div_lt_self (by omega) least) inside
        · exact ⟨number % base, by have := Nat.mod_lt number (by omega : base > 0); omega, here⟩

theorem digits_avoid (number : Nat) (c : Char) (apart : ∀ digit : Fin 16, digit.val.digitChar ≠ c) : c ∉ Nat.toDigits base number := by
  intro member
  obtain ⟨digit, small, rfl⟩ := mem_digits base least most number c member
  exact apart ⟨digit, small⟩ rfl

theorem field_digits (limit number : Nat) (below : number < limit) : field base limit (Nat.toDigits base number) = some number := by
  rw [field, value_digits base least most, if_pos ⟨below, rfl⟩]

theorem joined_avoid (separator : Char) (numbers : List Nat) (c : Char) (other : c ≠ separator)
    (undigit : ∀ digit : Fin 16, digit.val.digitChar ≠ c) : c ∉ joined separator base numbers := by
  have digits := fun number => digits_avoid base least most number c undigit
  induction numbers with
  | nil => simp [joined, List.intercalate_nil]
  | cons number rest ih =>
      cases rest with
      | nil => simpa [joined, List.intercalate_singleton] using digits number
      | cons next rest =>
          have later : c ∉ joined separator base (next :: rest) := ih
          simp only [joined, List.map_cons, List.intercalate_cons_cons, List.mem_append, List.mem_singleton] at later ⊢
          rintro ((inside | here) | inside)
          · exact digits number inside
          · exact other here
          · exact later inside

variable (separator : Char) (apart : ∀ digit : Fin 16, digit.val.digitChar ≠ separator)

include apart

theorem fields_joined (limit : Nat) (numbers : List Nat) (nonempty : numbers ≠ []) (below : ∀ number ∈ numbers, number < limit) :
    fields separator base limit (joined separator base numbers) = some numbers := by
  have split : (joined separator base numbers).splitOn separator = numbers.map (Nat.toDigits base) := by
    refine List.splitOn_intercalate separator (fun text member => ?_) (by simpa using nonempty)
    obtain ⟨number, _, rfl⟩ := List.mem_map.mp member
    exact digits_avoid base least most number separator apart
  rw [fields, split]
  clear split nonempty
  induction numbers with
  | nil => rfl
  | cons number rest ih =>
      have later := ih fun other member => below other (by simp [member])
      rw [List.map_cons, List.mapM_cons, field_digits base least most limit number (below number (by simp)), later]
      rfl

end Digits

theorem cut_front (separator : Char) (front rest : List Char) (apart : separator ∉ front) :
    cut separator (front ++ separator :: rest) = some (front, rest) := by
  have kept : ∀ c ∈ front, (c != separator) = true := by
    intro c member
    exact bne_iff_ne.mpr fun same => apart (same ▸ member)
  rw [cut, List.dropWhile_append_of_pos kept, List.takeWhile_append_of_pos kept]
  simp

theorem cut_last (separator : Char) (front rest : List Char) (apart : separator ∉ rest) :
    cutLast separator (front ++ separator :: rest) = some (front, rest) := by
  have turned : (front ++ separator :: rest).reverse = rest.reverse ++ separator :: front.reverse := by simp
  rw [cutLast, turned, cut_front separator rest.reverse front.reverse (by simpa using apart)]
  simp

theorem cut_none (separator : Char) (text : List Char) (apart : separator ∉ text) : cut separator text = none := by
  have kept : ∀ c ∈ text, (c != separator) = true := by
    intro c member
    exact bne_iff_ne.mpr fun same => apart (same ▸ member)
  have all : text.dropWhile (· != separator) = [] := List.dropWhile_eq_nil_iff.mpr kept
  rw [cut, all]

end Numerals
