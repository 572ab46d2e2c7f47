import Mathlib.Data.List.Basic

namespace StrManager.Library

/-! Text as C and C++ programs take it apart: places of characters,
substrings and decimal numbers. -/

abbrev Text := List Char

inductive TextFault where
  | outOfRange
  /-- The number does not fit into an `int`, where `atoi` is undefined. -/
  | unrepresentable
  deriving DecidableEq, Repr

namespace Text

def find (text : Text) (c : Char) : Option Nat := text.idxOf? c

def findLastOf (text : Text) (c : Char) : Option Nat :=
  (find text.reverse c).map fun place => text.length - 1 - place

/-- The place behind one that was found; `npos + 1` is 0. -/
def past : Option Nat → Nat
  | none => 0
  | some place => place + 1

/-- `substr`; nothing as the length stands for `npos`, the rest of the text. -/
def substr (text : Text) (start : Nat) (length : Option Nat) :
    Except TextFault Text :=
  if start ≤ text.length then
    match length with
    | none => .ok (text.drop start)
    | some length => .ok ((text.drop start).take length)
  else .error .outOfRange

def isSpace (c : Char) : Bool := c == ' ' || (9 ≤ c.toNat && c.toNat ≤ 13)

def IntRange (value : Int) : Prop := -2147483648 ≤ value ∧ value ≤ 2147483647

instance (value : Int) : Decidable (IntRange value) :=
  inferInstanceAs (Decidable (_ ∧ _))

def digits (text : Text) : Int :=
  Nat.ofDigitChars 10 (text.takeWhile Char.isDigit) 0

/-- The number at the head of the text, behind white space and a sign. -/
def numeral (text : Text) : Int :=
  match text.dropWhile isSpace with
  | '-' :: rest => - digits rest
  | '+' :: rest => digits rest
  | rest => digits rest

def atoi (text : Text) : Except TextFault Int :=
  if IntRange text.numeral then .ok text.numeral
  else .error .unrepresentable

def decimal : Int → Text
  | .ofNat value => Nat.toDigits 10 value
  | .negSucc value => '-' :: Nat.toDigits 10 (value + 1)

theorem find_append {first : Text} {c : Char} (absent : c ∉ first)
    (rest : Text) : (first ++ c :: rest).find c = some first.length := by
  induction first with
  | nil => simp [find, List.idxOf?_cons]
  | cons head first ih =>
      have different : head ≠ c := by
        rintro rfl
        exact absent List.mem_cons_self
      have found := ih fun member => absent (List.mem_cons_of_mem _ member)
      unfold find at found ⊢
      rw [List.cons_append, List.idxOf?_cons, found]
      simp [different]

theorem findLastOf_append (first : Text) {c : Char} {last : Text}
    (absent : c ∉ last) :
    (first ++ c :: last).findLastOf c = some first.length := by
  have reversed : (first ++ c :: last).reverse =
      last.reverse ++ c :: first.reverse := by simp
  unfold findLastOf
  rw [reversed, find_append fun member => absent (List.mem_reverse.mp member)]
  simp

theorem exists_split {text : Text} {c : Char} (member : c ∈ text) :
    ∃ first rest, c ∉ first ∧ text = first ++ c :: rest := by
  obtain ⟨first, rest, split, absent⟩ := List.eq_append_cons_of_mem member
  exact ⟨first, rest, absent, split⟩

theorem substr_front (first rest : Text) :
    (first ++ rest).substr 0 (some first.length) = .ok first := by
  simp [substr]

theorem substr_past (first : Text) (c : Char) (rest : Text) :
    (first ++ c :: rest).substr (first.length + 1) none = .ok rest := by
  simp [substr, List.drop_append]

theorem substr_find {first : Text} {c : Char} (absent : c ∉ first)
    (rest : Text) :
    (first ++ c :: rest).substr 0 ((first ++ c :: rest).find c) = .ok first ∧
      (first ++ c :: rest).substr (past ((first ++ c :: rest).find c)) none =
        .ok rest := by
  rw [find_append absent]
  exact ⟨substr_front first (c :: rest), substr_past first c rest⟩

theorem isDigit_toDigits {value : Nat} :
    ∀ c ∈ Nat.toDigits 10 value, c.isDigit = true :=
  fun _ member => Nat.isDigit_of_mem_toDigits (by decide) (by decide) member

theorem takeWhile_toDigits (value : Nat) {rest : Text}
    (ends : ∀ c ∈ rest.head?, c.isDigit = false) :
    (Nat.toDigits 10 value ++ rest).takeWhile Char.isDigit =
      Nat.toDigits 10 value := by
  rw [List.takeWhile_append_of_pos isDigit_toDigits]
  cases rest with
  | nil => simp
  | cons c rest =>
      have stops := ends c rfl
      simp [stops]

theorem digits_toDigits (value : Nat) {rest : Text}
    (ends : ∀ c ∈ rest.head?, c.isDigit = false) :
    digits (Nat.toDigits 10 value ++ rest) = value := by
  unfold digits
  rw [takeWhile_toDigits value ends, Nat.ofDigitChars_ten_toDigits]

theorem isDigit_not_space {c : Char} (digit : c.isDigit = true) :
    isSpace c = false ∧ c ≠ '-' ∧ c ≠ '+' := by
  rw [Char.isDigit_iff_toNat] at digit
  obtain ⟨low, high⟩ := digit
  change 48 ≤ c.toNat at low
  change c.toNat ≤ 57 at high
  refine ⟨?_, ?_, ?_⟩
  · have notBlank : c ≠ ' ' := by
      rintro rfl
      exact absurd low (by decide)
    simp [isSpace, notBlank]
    omega
  · rintro rfl
    exact absurd low (by decide)
  · rintro rfl
    exact absurd low (by decide)

theorem numeral_decimal (value : Int) {rest : Text}
    (ends : ∀ c ∈ rest.head?, c.isDigit = false) :
    numeral (decimal value ++ rest) = value := by
  cases value with
  | ofNat value =>
      have number := digits_toDigits value ends
      unfold numeral
      change (match (Nat.toDigits 10 value ++ rest).dropWhile isSpace with
        | '-' :: rest => - digits rest
        | '+' :: rest => digits rest
        | rest => digits rest) = _
      cases written : Nat.toDigits 10 value with
      | nil => exact absurd written Nat.toDigits_ne_nil
      | cons c text =>
          obtain ⟨notSpace, notMinus, notPlus⟩ := isDigit_not_space
            (isDigit_toDigits c (by rw [written]; exact List.mem_cons_self))
          rw [written] at number
          simp only [List.cons_append, List.dropWhile_cons, notSpace]
          simpa [notMinus, notPlus] using number
  | negSucc value =>
      have number := digits_toDigits (value + 1) ends
      unfold numeral
      have minus : isSpace '-' = false := by decide
      simp only [decimal, List.cons_append, List.dropWhile_cons, minus]
      simp [number]
      omega

theorem mem_decimal {value : Int} {c : Char} (member : c ∈ decimal value) :
    c.isDigit = true ∨ c = '-' := by
  cases value with
  | ofNat value => exact .inl (isDigit_toDigits c member)
  | negSucc value =>
      rcases List.mem_cons.mp member with rfl | member
      · exact .inr rfl
      · exact .inl (isDigit_toDigits c member)

theorem decimal_not_mem {c : Char} (notDigit : c.isDigit = false)
    (notMinus : c ≠ '-') (value : Int) : c ∉ decimal value := by
  intro member
  cases mem_decimal member with
  | inl digit => cases notDigit.symm.trans digit
  | inr minus => exact notMinus minus

end Text

end StrManager.Library
