import Mathlib.Tactic.MkIffOfInductiveProp
import Mathlib.Tactic.Tauto
import Vortex.Lib.Text

/-!
# The `traceparent` header

`parse_w3c_traceparent` splits a header at its dashes and accepts four fields of fixed
byte lengths.  It is the inverse of joining such fields.

The fields are documented as hexadecimal, but the parser looks at their lengths only:
it accepts exactly the documented headers and, besides them, those of the right lengths
with some other character.
-/

namespace Vortex.Proxy

open Lib

/-- `W3CTraceParent`. -/
structure W3CTraceParent where
  version : String
  traceId : String
  parentId : String
  traceFlags : String
  deriving DecidableEq, Repr

/-- `parse_w3c_traceparent`.  The iterator over the pieces is the list of those that
are still to come. -/
def parseW3cTraceparent (headerValue : String) : Option W3CTraceParent := do
  let iter := split headerValue '-'
  let (version, iter) ← iter.next?
  let (traceId, iter) ← iter.next?
  let (parentId, iter) ← iter.next?
  let (traceFlags, iter) ← iter.next?
  if iter.next?.isSome then
    none
  else if version.utf8ByteSize ≠ 2 ∨ traceId.utf8ByteSize ≠ 32 ∨ parentId.utf8ByteSize ≠ 16 ∨
      traceFlags.utf8ByteSize ≠ 2 then
    none
  else
    some { version, traceId, parentId, traceFlags }

namespace W3CTraceParent

/-- The fields in the order in which they are written. -/
def fields (parsed : W3CTraceParent) : List String :=
  [parsed.version, parsed.traceId, parsed.parentId, parsed.traceFlags]

/-- The header with these fields. -/
def join (parsed : W3CTraceParent) : String :=
  parsed.version ++ "-" ++ parsed.traceId ++ "-" ++ parsed.parentId ++ "-" ++ parsed.traceFlags

/-- The fields have the byte lengths that the parser asks for. -/
@[mk_iff sized_iff] structure Sized (parsed : W3CTraceParent) : Prop where
  version : parsed.version.utf8ByteSize = 2
  traceId : parsed.traceId.utf8ByteSize = 32
  parentId : parsed.parentId.utf8ByteSize = 16
  traceFlags : parsed.traceFlags.utf8ByteSize = 2

/-- No field holds a dash. -/
def DashFree (parsed : W3CTraceParent) : Prop :=
  ∀ field ∈ parsed.fields, '-' ∉ field.toList

theorem forall_mem_fields (parsed : W3CTraceParent) {property : String → Prop} :
    (∀ field ∈ parsed.fields, property field) ↔
      property parsed.version ∧ property parsed.traceId ∧ property parsed.parentId ∧
        property parsed.traceFlags := by
  simp [fields]

theorem dashFree_iff (parsed : W3CTraceParent) :
    parsed.DashFree ↔ '-' ∉ parsed.version.toList ∧ '-' ∉ parsed.traceId.toList ∧
      '-' ∉ parsed.parentId.toList ∧ '-' ∉ parsed.traceFlags.toList :=
  parsed.forall_mem_fields

theorem intercalate_fields (parsed : W3CTraceParent) :
    (String.singleton '-').intercalate parsed.fields = parsed.join := by
  simp only [fields, join, String.intercalate_cons_cons, String.intercalate_singleton]
  simp only [String.append_assoc]
  rfl

end W3CTraceParent

/-- The parser accepts a split into the four fields when their lengths are right. -/
theorem parseW3cTraceparent_eq_some_iff_split {headerValue : String} {parsed : W3CTraceParent} :
    parseW3cTraceparent headerValue = some parsed ↔
      split headerValue '-' = parsed.fields ∧ parsed.Sized := by
  rw [parseW3cTraceparent]
  generalize split headerValue '-' = pieces
  constructor
  · intro accepted
    -- Three pieces or fewer run out before the last field, five or more leave another.
    rcases pieces with
      _ | ⟨version, _ | ⟨traceId, _ | ⟨parentId, _ | ⟨traceFlags, _ | ⟨extra, rest⟩⟩⟩⟩⟩
    case cons.cons.cons.cons.nil =>
      rcases Option.ite_none_left_eq_some.mp accepted with ⟨sized, answered⟩
      cases answered
      simp only [ne_eq, not_or, not_not] at sized
      rcases sized with ⟨versionSize, traceIdSize, parentIdSize, traceFlagsSize⟩
      exact ⟨rfl, versionSize, traceIdSize, parentIdSize, traceFlagsSize⟩
    all_goals cases accepted
  · intro fits
    rcases fits with ⟨rfl, sized⟩
    apply if_neg
    simp [sized.version, sized.traceId, sized.parentId, sized.traceFlags]

/-- The parser's answer by the header instead of its pieces. -/
theorem parseW3cTraceparent_eq_some_iff_join {headerValue : String} {parsed : W3CTraceParent} :
    parseW3cTraceparent headerValue = some parsed ↔
      headerValue = parsed.join ∧ parsed.DashFree ∧ parsed.Sized := by
  have nonempty : parsed.fields ≠ [] := List.cons_ne_nil _ _
  rw [parseW3cTraceparent_eq_some_iff_split, split_eq_iff nonempty, parsed.intercalate_fields,
    and_assoc, W3CTraceParent.DashFree]

/-- **The inverse of joining.** The parser answers some fields exactly for the header
that joins them, when none of them holds a dash and their byte lengths are right. -/
theorem traceparent_parse_inverts_join (headerValue : String) (parsed : W3CTraceParent) :
    parseW3cTraceparent headerValue = some parsed ↔
      headerValue = parsed.version ++ "-" ++ parsed.traceId ++ "-" ++ parsed.parentId ++ "-" ++
          parsed.traceFlags ∧
        ('-' ∉ parsed.version.toList ∧ '-' ∉ parsed.traceId.toList ∧
          '-' ∉ parsed.parentId.toList ∧ '-' ∉ parsed.traceFlags.toList) ∧
        parsed.version.utf8ByteSize = 2 ∧ parsed.traceId.utf8ByteSize = 32 ∧
          parsed.parentId.utf8ByteSize = 16 ∧ parsed.traceFlags.utf8ByteSize = 2 := by
  rw [parseW3cTraceparent_eq_some_iff_join, parsed.dashFree_iff, parsed.sized_iff]
  rfl

/-! ## The documented grammar -/

/-- A field of hexadecimal digits. -/
def HexDigits (field : String) (count : ℕ) : Prop :=
  field.length = count ∧ ∀ char ∈ field.toList, char.isHexDigit = true

/-- Four fields of hexadecimal digits, joined by dashes. -/
def DocumentedTraceparent (headerValue : String) : Prop :=
  ∃ documented : W3CTraceParent, headerValue = documented.join ∧
    HexDigits documented.version 2 ∧ HexDigits documented.traceId 32 ∧
      HexDigits documented.parentId 16 ∧ HexDigits documented.traceFlags 2

/-- Every field has hexadecimal digits only. -/
def W3CTraceParent.Hexadecimal (parsed : W3CTraceParent) : Prop :=
  ∀ field ∈ parsed.fields, ∀ char ∈ field.toList, char.isHexDigit = true

theorem utf8Size_of_isHexDigit {char : Char} (hex : char.isHexDigit = true) :
    char.utf8Size = 1 := by
  rw [Char.utf8Size_eq_one_iff]
  simp only [Char.isHexDigit, Char.isDigit, Bool.or_eq_true, Bool.and_eq_true,
    decide_eq_true_eq] at hex
  rcases hex with (digit | lower) | upper
  · exact UInt32.le_trans digit.2 (by decide)
  · exact UInt32.le_trans lower.2 (by decide)
  · exact UInt32.le_trans upper.2 (by decide)

/-- For hexadecimal digits the number of characters is the number of bytes. -/
theorem hexDigits_iff {field : String} {count : ℕ} :
    HexDigits field count ↔
      field.utf8ByteSize = count ∧ ∀ char ∈ field.toList, char.isHexDigit = true := by
  apply and_congr_left
  intro digits
  rw [utf8ByteSize_eq_length fun char membership => utf8Size_of_isHexDigit (digits char membership)]

theorem W3CTraceParent.Hexadecimal.dashFree {parsed : W3CTraceParent}
    (hexadecimal : parsed.Hexadecimal) : parsed.DashFree := by
  intro field membership dash
  have isDigit := hexadecimal field membership '-' dash
  cases isDigit

theorem hexDigits_fields_iff (parsed : W3CTraceParent) :
    (HexDigits parsed.version 2 ∧ HexDigits parsed.traceId 32 ∧
        HexDigits parsed.parentId 16 ∧ HexDigits parsed.traceFlags 2) ↔
      parsed.Sized ∧ parsed.Hexadecimal := by
  rw [parsed.sized_iff, W3CTraceParent.Hexadecimal, parsed.forall_mem_fields]
  simp only [hexDigits_iff]
  tauto

/-- The documented headers are those that the parser accepts with hexadecimal fields. -/
theorem documentedTraceparent_iff {headerValue : String} :
    DocumentedTraceparent headerValue ↔
      ∃ parsed, parseW3cTraceparent headerValue = some parsed ∧ parsed.Hexadecimal := by
  simp only [DocumentedTraceparent, hexDigits_fields_iff, parseW3cTraceparent_eq_some_iff_join]
  constructor
  · intro documented
    rcases documented with ⟨parsed, joined, sized, hexadecimal⟩
    exact ⟨parsed, ⟨joined, hexadecimal.dashFree, sized⟩, hexadecimal⟩
  · intro accepted
    rcases accepted with ⟨parsed, ⟨joined, _, sized⟩, hexadecimal⟩
    exact ⟨parsed, joined, sized, hexadecimal⟩

/-- **The documented grammar.** The parser accepts a header exactly when it is documented,
unless the header joins four fields of the right byte lengths one of which has a character
that is no hexadecimal digit: such a header is accepted as well. -/
theorem traceparent_accepts_grammar_iff (headerValue : String) :
    ((parseW3cTraceparent headerValue).isSome = true ↔ DocumentedTraceparent headerValue) ↔
      ¬∃ parsed : W3CTraceParent, headerValue = parsed.join ∧ parsed.DashFree ∧ parsed.Sized ∧
        ∃ field ∈ parsed.fields, ∃ char ∈ field.toList, char.isHexDigit = false := by
  rw [Option.isSome_iff_exists, documentedTraceparent_iff]
  constructor
  · intro agree other
    rcases other with ⟨parsed, joined, dashFree, sized, field, inFields, char, inField, noDigit⟩
    have answered := parseW3cTraceparent_eq_some_iff_join.mpr ⟨joined, dashFree, sized⟩
    rcases agree.mp ⟨parsed, answered⟩ with ⟨documented, same, hexadecimal⟩
    rw [answered] at same
    cases same
    rw [hexadecimal field inFields char inField] at noDigit
    cases noDigit
  · intro noOther
    constructor
    · intro accepted
      rcases accepted with ⟨parsed, answered⟩
      rcases parseW3cTraceparent_eq_some_iff_join.mp answered with ⟨joined, dashFree, sized⟩
      refine ⟨parsed, answered, ?_⟩
      intro field inFields char inField
      by_contra noDigit
      rw [Bool.not_eq_true] at noDigit
      exact noOther ⟨parsed, joined, dashFree, sized, field, inFields, char, inField, noDigit⟩
    · intro documented
      rcases documented with ⟨parsed, answered, _⟩
      exact ⟨parsed, answered⟩

/-- A trace ID of 32 letters that are no digits is accepted. -/
theorem traceparent_accepts_other_letters :
    (parseW3cTraceparent "00-zzzzzzzzzzzzzzzzzzzzzzzzzzzzzzzz-00f067aa0ba902b7-01").isSome = true ∧
      ¬DocumentedTraceparent "00-zzzzzzzzzzzzzzzzzzzzzzzzzzzzzzzz-00f067aa0ba902b7-01" := by
  have answered : parseW3cTraceparent
      "00-zzzzzzzzzzzzzzzzzzzzzzzzzzzzzzzz-00f067aa0ba902b7-01" =
        some ⟨"00", "zzzzzzzzzzzzzzzzzzzzzzzzzzzzzzzz", "00f067aa0ba902b7", "01"⟩ := by
    rw [parseW3cTraceparent_eq_some_iff_join, W3CTraceParent.dashFree_iff]
    refine ⟨by decide, by decide, ?_⟩
    exact ⟨by decide, by decide, by decide, by decide⟩
  rw [documentedTraceparent_iff, answered]
  refine ⟨rfl, ?_⟩
  intro documented
  rcases documented with ⟨_, same, hexadecimal⟩
  cases same
  have isDigit := hexadecimal "zzzzzzzzzzzzzzzzzzzzzzzzzzzzzzzz" (by decide) 'z' (by decide)
  cases isDigit

end Vortex.Proxy
