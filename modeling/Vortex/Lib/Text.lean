import Mathlib.Data.List.Basic
import Mathlib.Data.String.Basic

/-!
# Texts, their pieces and their bytes

Splitting a text at every occurrence of a character gives at least one piece, and no
piece holds the separator.  Among such lists of pieces the split is the one that joins
to the text again.

A text of one-byte characters has as many bytes as characters.
-/

namespace Vortex.Lib

/-! ## Pieces -/

/-- No piece of a split list holds the separator. -/
theorem not_mem_of_mem_splitOn {α : Type*} [BEq α] [LawfulBEq α] {separator : α}
    {list piece : List α} (membership : piece ∈ list.splitOn separator) : separator ∉ piece := by
  induction list generalizing piece with
  | nil =>
      rw [List.splitOn_nil, List.mem_singleton] at membership
      simp [membership]
  | cons first rest ih =>
      rw [List.splitOn_cons_eq_if_modifyHead] at membership
      split at membership
      · rcases List.mem_cons.mp membership with rfl | later
        · exact List.not_mem_nil
        · exact ih later
      · next other =>
          -- The first piece grows by an element that is not the separator.
          cases pieces : rest.splitOn separator with
          | nil => exact absurd pieces (List.splitOn_ne_nil separator rest)
          | cons head tail =>
              rw [pieces] at ih membership
              rcases List.mem_cons.mp membership with rfl | later
              · have headFree := ih List.mem_cons_self
                simp only [beq_iff_eq] at other
                simp [headFree, Ne.symm other]
              · exact ih (List.mem_cons_of_mem head later)

/-- The pieces of a text between the occurrences of a separator. -/
def split (text : String) (separator : Char) : List String :=
  (text.split separator).toList.map String.Slice.copy

variable {text : String} {separator : Char}

theorem not_mem_of_mem_split {piece : String} (membership : piece ∈ split text separator) :
    separator ∉ piece.toList := by
  rw [split, String.toList_split_char] at membership
  rcases List.mem_map.mp membership with ⟨characters, present, rfl⟩
  rw [String.toList_ofList]
  exact not_mem_of_mem_splitOn present

theorem intercalate_split (text : String) (separator : Char) :
    (String.singleton separator).intercalate (split text separator) = text := by
  apply String.toList_injective
  rw [split, String.toList_split_char, String.toList_intercalate, List.map_map]
  simp [Function.comp_def, List.intercalate_splitOn]

/-- The split is the only list of pieces without the separator that joins to the
text. -/
theorem split_eq_iff {pieces : List String} (nonempty : pieces ≠ []) :
    split text separator = pieces ↔
      text = (String.singleton separator).intercalate pieces ∧
        ∀ piece ∈ pieces, separator ∉ piece.toList := by
  constructor
  · intro equal
    rw [← equal]
    exact ⟨(intercalate_split text separator).symm, fun _ => not_mem_of_mem_split⟩
  · intro joined
    rcases joined with ⟨rfl, free⟩
    exact (String.toList_split_intercalate free).trans (if_neg nonempty)

/-! ## Bytes -/

theorem utf8Len_eq_length {characters : List Char}
    (oneByte : ∀ char ∈ characters, char.utf8Size = 1) :
    String.utf8Len characters = characters.length := by
  induction characters with
  | nil => rfl
  | cons char characters ih =>
      rcases List.forall_mem_cons.mp oneByte with ⟨first, rest⟩
      rw [String.utf8Len_cons, ih rest, first, List.length_cons]

/-- A text of one-byte characters has as many bytes as characters. -/
theorem utf8ByteSize_eq_length (oneByte : ∀ char ∈ text.toList, char.utf8Size = 1) :
    text.utf8ByteSize = text.length := by
  rw [← String.length_toList, ← utf8Len_eq_length oneByte, ← String.utf8ByteSize_ofList,
    String.ofList_toList]

end Vortex.Lib
