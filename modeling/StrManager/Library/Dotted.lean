import StrManager.Library.Text
import Mathlib.Data.BitVec
import Mathlib.Tactic.IntervalCases

namespace StrManager.Library

/-! Internet addresses in dotted notation, as `inet_aton` reads and `inet_ntoa`
prints them. -/

namespace Dotted

open Text

def isOctal (c : Char) : Bool := 48 ≤ c.toNat && c.toNat ≤ 55

def hexValue (c : Char) : Option Nat :=
  if c.isDigit then some (c.toNat - 48)
  else if 97 ≤ c.toNat ∧ c.toNat ≤ 102 then some (c.toNat - 87)
  else if 65 ≤ c.toNat ∧ c.toNat ≤ 70 then some (c.toNat - 55)
  else none

def isHex (c : Char) : Bool := (hexValue c).isSome

def hexNumber (text : Text) : Nat :=
  text.foldl (fun value c => 16 * value + (hexValue c).getD 0) 0

/-- One number at the head of the text, hexadecimal after `0x` and octal after
another 0, and what is behind it. -/
def number (text : Text) : Nat × Text :=
  match text with
  | '0' :: 'x' :: rest =>
      if (rest.head?.map isHex).getD false then
        (hexNumber (rest.takeWhile isHex), rest.dropWhile isHex)
      else (0, 'x' :: rest)
  | '0' :: 'X' :: rest =>
      if (rest.head?.map isHex).getD false then
        (hexNumber (rest.takeWhile isHex), rest.dropWhile isHex)
      else (0, 'X' :: rest)
  | '0' :: rest =>
      (Nat.ofDigitChars 8 (rest.takeWhile isOctal) 0, rest.dropWhile isOctal)
  | text =>
      (Nat.ofDigitChars 10 (text.takeWhile Char.isDigit) 0,
        text.dropWhile Char.isDigit)

def ends : Text → Bool
  | [] => true
  | c :: _ => c == Char.ofNat 0 || isSpace c

/-- The parts from here on, of which at most `dots` have a dot behind them;
the last one fills the bytes that are left. -/
def parts : Nat → Nat → Text → Option Nat
  | dots, value, text =>
      if (text.head?.map Char.isDigit).getD false then
        match number text with
        | (part, '.' :: rest) =>
            match dots with
            | 0 => none
            | dots + 1 =>
                if part < 256 then parts dots (256 * value + part) rest
                else none
        | (part, rest) =>
            if ends rest ∧ part < 256 ^ (dots + 1) then
              some (256 ^ (dots + 1) * value + part)
            else none
      else none

/-- `inet_aton`, with the first part as the highest byte. -/
def inetAton (text : Text) : Option (BitVec 32) :=
  (parts 3 0 text).map (BitVec.ofNat 32)

def byte (word : BitVec 32) (place : Nat) : Nat :=
  word.toNat / 256 ^ place % 256

/-- `inet_ntoa`. -/
def inetNtoa (word : BitVec 32) : Text :=
  Nat.toDigits 10 (byte word 3) ++ '.' :: (Nat.toDigits 10 (byte word 2) ++
    '.' :: (Nat.toDigits 10 (byte word 1) ++
      '.' :: Nat.toDigits 10 (byte word 0)))

theorem number_octal {rest : Text}
    (next : ∀ c ∈ rest.head?, c ≠ 'x' ∧ c ≠ 'X') :
    number ('0' :: rest) =
      (Nat.ofDigitChars 8 (rest.takeWhile isOctal) 0,
        rest.dropWhile isOctal) := by
  unfold number
  split
  · rename_i same
    cases same
    exact absurd rfl (next 'x' rfl).1
  · rename_i same
    cases same
    exact absurd rfl (next 'X' rfl).2
  · rename_i same
    cases same
    rfl
  · rename_i octal
    exact absurd rfl (octal rest)

theorem number_decimal {c : Char} (different : c ≠ '0') (rest : Text) :
    number (c :: rest) =
      (Nat.ofDigitChars 10 ((c :: rest).takeWhile Char.isDigit) 0,
        (c :: rest).dropWhile Char.isDigit) := by
  unfold number
  split
  · rename_i same
    cases same
    exact absurd rfl different
  · rename_i same
    cases same
    exact absurd rfl different
  · rename_i same
    cases same
    exact absurd rfl different
  · rfl

theorem head_toDigits {value : Nat} (positive : 0 < value) :
    ∃ c rest, Nat.toDigits 10 value = c :: rest ∧ c ≠ '0' := by
  induction value using Nat.strongRecOn with
  | ind value ih =>
      rcases Nat.lt_or_ge value 10 with small | large
      · rw [Nat.toDigits_of_lt_base small]
        refine ⟨_, [], rfl, ?_⟩
        interval_cases value <;> decide
      · rw [Nat.toDigits_of_base_le (by decide) large]
        obtain ⟨c, rest, written, different⟩ :=
          ih (value / 10) (by omega) (by omega)
        rw [written]
        exact ⟨c, _, rfl, different⟩

theorem isOctal_isDigit {c : Char} (octal : isOctal c = true) :
    c.isDigit = true := by
  rw [Char.isDigit_iff_toNat]
  simp only [isOctal, Bool.and_eq_true, decide_eq_true_eq] at octal
  change 48 ≤ c.toNat ∧ c.toNat ≤ 57
  omega

/-- A number that is printed is read back, whatever comes behind it but digits
and the mark of a hexadecimal number. -/
theorem number_toDigits (value : Nat) {rest : Text}
    (next : ∀ c ∈ rest.head?, c.isDigit = false ∧ c ≠ 'x' ∧ c ≠ 'X') :
    number (Nat.toDigits 10 value ++ rest) = (value, rest) := by
  rcases Nat.eq_zero_or_pos value with rfl | positive
  · rw [Nat.toDigits_zero, List.singleton_append,
      number_octal fun c first => (next c first).2]
    cases rest with
    | nil => rfl
    | cons c rest =>
        have notOctal : isOctal c = false := by
          rw [Bool.eq_false_iff]
          intro octal
          have digit := isOctal_isDigit octal
          rw [(next c rfl).1] at digit
          cases digit
        simp [notOctal]
  · have kept := takeWhile_toDigits value fun c first => (next c first).1
    have behind : (Nat.toDigits 10 value ++ rest).dropWhile Char.isDigit =
        rest := by
      rw [List.dropWhile_append_of_pos isDigit_toDigits]
      cases rest with
      | nil => rfl
      | cons c rest => simp [(next c rfl).1]
    obtain ⟨c, text, written, different⟩ := head_toDigits positive
    have read := number_decimal different (text ++ rest)
    rw [← List.cons_append, ← written, kept, behind] at read
    rw [read, Nat.ofDigitChars_ten_toDigits]

theorem head_digit (value : Nat) (rest : Text) :
    ((Nat.toDigits 10 value ++ rest).head?.map Char.isDigit).getD false =
      true := by
  cases written : Nat.toDigits 10 value with
  | nil => exact absurd written Nat.toDigits_ne_nil
  | cons c text =>
      have member : c ∈ Nat.toDigits 10 value := by
        rw [written]
        exact List.mem_cons_self
      have digit := isDigit_toDigits c member
      simp [digit]

theorem parts_dot {value part : Nat} (dots : Nat) (small : part < 256)
    (rest : Text) :
    parts (dots + 1) value (Nat.toDigits 10 part ++ '.' :: rest) =
      parts dots (256 * value + part) rest := by
  have read : number (Nat.toDigits 10 part ++ '.' :: rest) =
      (part, '.' :: rest) := by
    apply number_toDigits
    intro c first
    cases first
    decide
  rw [parts, if_pos (head_digit part _), read]
  simp [small]

theorem parts_last {value part : Nat} (small : part < 256) :
    parts 0 value (Nat.toDigits 10 part) = some (256 * value + part) := by
  have read : number (Nat.toDigits 10 part ++ []) = (part, []) :=
    number_toDigits part (by simp)
  have digit := head_digit part []
  rw [List.append_nil] at read digit
  rw [parts, if_pos digit, read]
  simp [ends, small]

theorem inetAton_inetNtoa (word : BitVec 32) :
    inetAton (inetNtoa word) = some word := by
  have small (place : Nat) : byte word place < 256 := Nat.mod_lt _ (by decide)
  have whole : 256 * (256 * (256 * (256 * 0 + byte word 3) + byte word 2) +
      byte word 1) + byte word 0 = word.toNat := by
    have bound := word.isLt
    unfold byte
    omega
  unfold inetAton inetNtoa
  rw [parts_dot 2 (small 3), parts_dot 1 (small 2), parts_dot 0 (small 1),
    parts_last (small 0), whole, Option.map_some, BitVec.ofNat_toNat,
    BitVec.setWidth_eq]

theorem mem_inetNtoa {word : BitVec 32} {c : Char}
    (member : c ∈ inetNtoa word) : c.isDigit = true ∨ c = '.' := by
  have digit {value : Nat} (member : c ∈ Nat.toDigits 10 value) :
      c.isDigit = true := isDigit_toDigits c member
  unfold inetNtoa at member
  simp only [List.mem_append, List.mem_cons] at member
  grind

theorem inetNtoa_not_mem {c : Char} (notDigit : c.isDigit = false)
    (notDot : c ≠ '.') (address : BitVec 32) : c ∉ inetNtoa address := by
  intro member
  cases mem_inetNtoa member with
  | inl digit => cases notDigit.symm.trans digit
  | inr dot => exact notDot dot

end Dotted

end StrManager.Library
