import Mathlib.Data.List.Basic
import StrManager.Library.Text

namespace StrManager.Library

/-! Text that is taken apart again: lines, and sequences of blocks that begin
with a line of their own kind. -/

/-- Every block begins with a head, has no other one, and belongs to one value
only. -/
structure Headed {α : Type u} {β : Type v} (isHead : β → Bool)
    (encode : α → List β) : Prop where
  headed : ∀ value, ∃ head body, encode value = head :: body ∧
    isHead head = true ∧ ∀ item ∈ body, isHead item = false
  injective : Function.Injective encode

namespace Headed

variable {α : Type u} {β : Type v} {isHead : β → Bool} {encode : α → List β}

theorem head_flatMap (headed : Headed isHead encode) (values : List α) :
    ∀ item ∈ (values.flatMap encode).head?, isHead item = true := by
  intro item first
  cases values with
  | nil => cases first
  | cons value rest =>
      obtain ⟨head, body, block, isFirst, -⟩ := headed.headed value
      rw [List.flatMap_cons, block] at first
      cases first
      exact isFirst

/-- Where a block ends is seen from the next head. -/
theorem takeWhile_body {body rest : List β}
    (inner : ∀ item ∈ body, isHead item = false)
    (next : ∀ item ∈ rest.head?, isHead item = true) :
    (body ++ rest).takeWhile (fun item => !isHead item) = body := by
  rw [List.takeWhile_append_of_pos (by simpa using inner)]
  cases rest with
  | nil => simp
  | cons item rest => simp [next item rfl]

theorem flatMap_injective (headed : Headed isHead encode) :
    Function.Injective fun values : List α => values.flatMap encode := by
  intro values
  induction values with
  | nil =>
      intro others same
      cases others with
      | nil => rfl
      | cons other rest =>
          obtain ⟨head, body, block, -⟩ := headed.headed other
          change [] = (other :: rest).flatMap encode at same
          rw [List.flatMap_cons, block] at same
          cases same
  | cons value values ih =>
      intro others same
      obtain ⟨head, body, block, -, inner⟩ := headed.headed value
      cases others with
      | nil =>
          change (value :: values).flatMap encode = [] at same
          rw [List.flatMap_cons, block] at same
          cases same
      | cons other rest =>
          obtain ⟨head2, body2, block2, -, inner2⟩ := headed.headed other
          change (value :: values).flatMap encode =
            (other :: rest).flatMap encode at same
          rw [List.flatMap_cons, List.flatMap_cons, block, block2,
            List.cons_append, List.cons_append] at same
          obtain ⟨sameHead, sameRest⟩ := List.cons.inj same
          have sameBody : body = body2 := by
            rw [← takeWhile_body inner (headed.head_flatMap values), sameRest,
              takeWhile_body inner2 (headed.head_flatMap rest)]
          subst sameBody sameHead
          have sameValue : value = other := by
            apply headed.injective
            rw [block, block2]
          rw [sameValue, ih (List.append_cancel_left sameRest)]

end Headed

namespace Text

def unlines (lines : List Text) : Text :=
  lines.flatMap fun line => line ++ ['\n']

theorem unlines_cons (line : Text) (lines : List Text) :
    unlines (line :: lines) = line ++ '\n' :: unlines lines := by
  simp [unlines]

theorem unlines_append (lines lines2 : List Text) :
    unlines (lines ++ lines2) = unlines lines ++ unlines lines2 := by
  simp [unlines]

theorem append_cons_inj {first first2 rest rest2 : Text} {c : Char}
    (absent : c ∉ first) (absent2 : c ∉ first2)
    (same : first ++ c :: rest = first2 ++ c :: rest2) :
    first = first2 ∧ rest = rest2 := by
  have place := find_append absent rest
  rw [same, find_append absent2] at place
  obtain ⟨sameFirst, sameRest⟩ := List.append_inj same
    (Option.some.inj place).symm
  exact ⟨sameFirst, (List.cons.inj sameRest).2⟩

theorem unlines_injective {lines lines2 : List Text}
    (oneLine : ∀ line ∈ lines, '\n' ∉ line)
    (oneLine2 : ∀ line ∈ lines2, '\n' ∉ line)
    (same : unlines lines = unlines lines2) : lines = lines2 := by
  induction lines generalizing lines2 with
  | nil =>
      cases lines2 with
      | nil => rfl
      | cons line2 lines2 =>
          rw [unlines_cons] at same
          exact absurd (congrArg List.length same) (by simp [unlines])
  | cons line lines ih =>
      cases lines2 with
      | nil =>
          rw [unlines_cons] at same
          exact absurd (congrArg List.length same) (by simp [unlines])
      | cons line2 lines2 =>
          rw [unlines_cons, unlines_cons] at same
          obtain ⟨sameLine, sameRest⟩ := append_cons_inj
            (oneLine line List.mem_cons_self)
            (oneLine2 line2 List.mem_cons_self) same
          rw [sameLine, ih
            (fun other member => oneLine other (List.mem_cons_of_mem _ member))
            (fun other member => oneLine2 other (List.mem_cons_of_mem _ member))
            sameRest]

theorem decimal_injective : Function.Injective decimal := by
  intro value other same
  have read : numeral (decimal value ++ []) = value :=
    numeral_decimal value (by simp)
  have read2 : numeral (decimal other ++ []) = other :=
    numeral_decimal other (by simp)
  rw [← read, same, read2]

end Text

end StrManager.Library
