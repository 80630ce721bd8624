import Mathlib.Algebra.Group.Nat.Defs
import Mathlib.Data.Nat.Notation
import Vortex.Lib.Outcome

/-!
# Host functions of the Proxy-Wasm ABI

`proxy_log` and `proxy_get_header_map_value` take a string from the guest's memory.
The guest passes its place as two `i32` values that stand for unsigned numbers, and
the host casts both to `usize`, which extends the sign.  A length from `2^31` on
becomes one that no buffer can have, and the buffer is allocated before the bounds
are checked; a pointer from `2^31` on becomes one beyond every memory.

The host is a 64-bit one.  An environment is given by its answers, and the calls made
to it are part of what a host function does.
-/

namespace Vortex.Filters

open Lib

/-! ## Types -/

/-- `WasmResult`. -/
inductive WasmResult where
  | ok
  | notFound
  | badArgument
  | serializationFailure
  | parseFailure
  | badExpression
  | invalidMemoryAccess
  | empty
  | casMismatch
  | resultMismatch
  | internalFailure
  | brokenConnection
  deriving DecidableEq, Repr

/-- `as i32`. -/
def WasmResult.asI32 : WasmResult → BitVec 32
  | .ok => 0
  | .notFound => 1
  | .badArgument => 2
  | .serializationFailure => 3
  | .parseFailure => 4
  | .badExpression => 5
  | .invalidMemoryAccess => 6
  | .empty => 7
  | .casMismatch => 8
  | .resultMismatch => 9
  | .internalFailure => 10
  | .brokenConnection => 11

/-- `HostEnvironment`. -/
structure HostEnvironment where
  log : BitVec 32 → String → WasmResult
  getHeaderMapValue : BitVec 32 → String → Option String

/-- A call to the environment. -/
inductive EnvironmentCall where
  | log (level : BitVec 32) (message : String)
  | getHeaderMapValue (mapType : BitVec 32) (key : String)
  deriving DecidableEq, Repr

/-- What a host function returns, and the calls it made to the environment. -/
structure HostReturn where
  code : BitVec 32
  calls : List EnvironmentCall
  deriving DecidableEq, Repr

/-- Return a result without having called the environment. -/
def HostReturn.early (result : WasmResult) : HostReturn := ⟨result.asI32, []⟩

/-! ## Guest memory -/

/-- The exported linear memory: at most 2^32 bytes. -/
structure GuestMemory where
  bytes : ByteArray
  size_le : bytes.size ≤ 2 ^ 32

/-- `Memory::read` into a buffer of the given length: it fails when the range is out
of bounds. -/
def GuestMemory.read (memory : GuestMemory) (offset length : ℕ) : Option ByteArray :=
  if offset + length ≤ memory.bytes.size then
    some (memory.bytes.extract offset (offset + length))
  else none

/-- `as usize` on an `i32`. -/
def asUsize (value : BitVec 32) : ℕ := (value.signExtend 64).toNat

/-- `isize::MAX`. -/
def isizeMax : ℕ := 2 ^ 63 - 1

/-- The length of the buffer that `vec![0u8; length]` makes. -/
def vecZeroed (length : ℕ) : Outcome ℕ :=
  if length > isizeMax then .panicked else .returned length

/-! ## The host functions -/

/-- What both host functions do: take a string from the guest's memory and dispatch
it to the environment. -/
def withGuestString (memory : Option GuestMemory) (data size : BitVec 32)
    (dispatch : String → HostReturn) : Outcome HostReturn :=
  match memory with
  | none => .returned (.early .internalFailure)
  | some memory =>
      (vecZeroed (asUsize size)).bind fun length =>
        match memory.read (asUsize data) length with
        | none => .returned (.early .invalidMemoryAccess)
        | some buffer =>
            match String.fromUTF8? buffer with
            | none => .returned (.early .parseFailure)
            | some text => .returned (dispatch text)

variable (environment : HostEnvironment)

/-- The end of `proxy_log`. -/
def dispatchLog (level : BitVec 32) (message : String) : HostReturn where
  code := (environment.log level message).asI32
  calls := [.log level message]

/-- The end of `proxy_get_header_map_value`. -/
def dispatchGetHeaderMapValue (mapType : BitVec 32) (key : String) : HostReturn where
  code :=
    match environment.getHeaderMapValue mapType key with
    | some _ => WasmResult.ok.asI32
    | none => WasmResult.notFound.asI32
  calls := [.getHeaderMapValue mapType key]

/-- `proxy_log`. -/
def proxyLog (memory : Option GuestMemory) (level messageData messageSize : BitVec 32) :
    Outcome HostReturn :=
  withGuestString memory messageData messageSize (dispatchLog environment level)

/-- `proxy_get_header_map_value`; the place for the value is not used yet. -/
def proxyGetHeaderMapValue (memory : Option GuestMemory)
    (mapType keyData keySize _returnValueData _returnValueSize : BitVec 32) :
    Outcome HostReturn :=
  withGuestString memory keyData keySize (dispatchGetHeaderMapValue environment mapType)

/-! ## What the guest asked for -/

/-- The guest's string lies outside its memory. -/
def OutOfBounds (memory : GuestMemory) (data size : BitVec 32) : Prop :=
  memory.bytes.size < data.toNat + size.toNat

/-- The call returns: out of bounds with `InvalidMemoryAccess`, otherwise with
`ParseFailure` if the bytes are not UTF-8, otherwise with what the environment answers
to exactly that string. -/
def Handled (memory : GuestMemory) (data size : BitVec 32) (dispatch : String → HostReturn)
    (outcome : Outcome HostReturn) : Prop :=
  (OutOfBounds memory data size → outcome = .returned (.early .invalidMemoryAccess)) ∧
    (¬OutOfBounds memory data size →
      match String.fromUTF8? (memory.bytes.extract data.toNat (data.toNat + size.toNat)) with
      | none => outcome = .returned (.early .parseFailure)
      | some text => outcome = .returned (dispatch text))

/-- Read as `i32`, the length is not negative, and neither is the pointer unless the
string lies outside the memory anyway. -/
def SignHarmless (memory : GuestMemory) (data size : BitVec 32) : Prop :=
  0 ≤ size.toInt ∧ (0 ≤ data.toInt ∨ OutOfBounds memory data size)

/-! ## The casts -/

theorem asUsize_of_nonneg {value : BitVec 32} (nonneg : 0 ≤ value.toInt) :
    asUsize value = value.toNat ∧ value.toNat < 2 ^ 31 := by
  have below := value.isLt
  rw [BitVec.toInt_eq_toNat_cond] at nonneg
  rw [asUsize, BitVec.toNat_signExtend, BitVec.toNat_setWidth, BitVec.msb_eq_decide]
  split at nonneg
  · have positive : ¬2 ^ (32 - 1) ≤ value.toNat := by omega
    simp only [positive, decide_false, Bool.false_eq_true, if_false]
    omega
  · omega

theorem le_asUsize_of_neg {value : BitVec 32} (negative : value.toInt < 0) :
    2 ^ 64 - 2 ^ 31 ≤ asUsize value := by
  rw [BitVec.toInt_eq_toNat_cond] at negative
  rw [asUsize, BitVec.toNat_signExtend, BitVec.toNat_setWidth, BitVec.msb_eq_decide]
  split at negative
  · omega
  · have large : 2 ^ (32 - 1) ≤ value.toNat := by omega
    simp only [large, decide_true, if_true]
    omega

/-! ## Taking the string -/

section GuestString

variable {memory : GuestMemory} {data size : BitVec 32} {dispatch : String → HostReturn}

/-- A negative length panics before the bounds are checked. -/
theorem withGuestString_of_neg_size (negative : size.toInt < 0) :
    withGuestString (some memory) data size dispatch = .panicked := by
  have tooLong : asUsize size > isizeMax := by
    have large := le_asUsize_of_neg negative
    rw [isizeMax]
    omega
  simp [withGuestString, vecZeroed, tooLong]

/-- A negative pointer lies beyond every memory. -/
theorem withGuestString_of_neg_data (nonneg : 0 ≤ size.toInt) (negative : data.toInt < 0) :
    withGuestString (some memory) data size dispatch =
      .returned (.early .invalidMemoryAccess) := by
  rcases asUsize_of_nonneg nonneg with ⟨length, short⟩
  have fits : ¬asUsize size > isizeMax := by
    rw [length, isizeMax]
    omega
  have beyond : ¬asUsize data + asUsize size ≤ memory.bytes.size := by
    have large := le_asUsize_of_neg negative
    have bounded := memory.size_le
    omega
  simp [withGuestString, vecZeroed, fits, GuestMemory.read, beyond]

/-- Otherwise the casts keep the numbers. -/
theorem withGuestString_of_nonneg (sizeNonneg : 0 ≤ size.toInt) (dataNonneg : 0 ≤ data.toInt) :
    withGuestString (some memory) data size dispatch =
      match memory.read data.toNat size.toNat with
      | none => .returned (.early .invalidMemoryAccess)
      | some buffer =>
          match String.fromUTF8? buffer with
          | none => .returned (.early .parseFailure)
          | some text => .returned (dispatch text) := by
  rcases asUsize_of_nonneg sizeNonneg with ⟨length, short⟩
  have fits : ¬size.toNat > isizeMax := by
    rw [isizeMax]
    omega
  rw [withGuestString, length, (asUsize_of_nonneg dataNonneg).1, vecZeroed, if_neg fits]
  rfl

theorem read_of_outOfBounds (outside : OutOfBounds memory data size) :
    memory.read data.toNat size.toNat = none :=
  if_neg (Nat.not_le.mpr outside)

theorem read_of_not_outOfBounds (inside : ¬OutOfBounds memory data size) :
    memory.read data.toNat size.toNat =
      some (memory.bytes.extract data.toNat (data.toNat + size.toNat)) :=
  if_pos (Nat.not_lt.mp inside)

theorem handled_of_nonneg (sizeNonneg : 0 ≤ size.toInt) (dataNonneg : 0 ≤ data.toInt) :
    Handled memory data size dispatch (withGuestString (some memory) data size dispatch) := by
  rw [withGuestString_of_nonneg sizeNonneg dataNonneg]
  constructor
  · intro outside
    rw [read_of_outOfBounds outside]
  · intro inside
    rw [read_of_not_outOfBounds inside]
    dsimp only
    cases String.fromUTF8? (memory.bytes.extract data.toNat (data.toNat + size.toNat)) with
    | none => rfl
    | some text => rfl

/-- A string inside the memory is not answered with `InvalidMemoryAccess`. -/
theorem not_handled_of_inside (calls : ∀ text, (dispatch text).calls ≠ [])
    (inside : ¬OutOfBounds memory data size) :
    ¬Handled memory data size dispatch (.returned (.early .invalidMemoryAccess)) := by
  intro handled
  have answered := handled.2 inside
  cases decoded : String.fromUTF8?
      (memory.bytes.extract data.toNat (data.toNat + size.toNat)) with
  | none =>
      rw [decoded] at answered
      cases answered
  | some text =>
      rw [decoded] at answered
      have same := Outcome.returned.inj answered
      exact calls text (congrArg HostReturn.calls same).symm

theorem not_handled_panicked : ¬Handled memory data size dispatch .panicked := by
  intro handled
  by_cases outside : OutOfBounds memory data size
  · cases handled.1 outside
  · have answered := handled.2 outside
    split at answered
    · cases answered
    · cases answered

/-- A host function handles the guest's string exactly when its sign does no harm. -/
theorem handled_withGuestString_iff (calls : ∀ text, (dispatch text).calls ≠ []) :
    Handled memory data size dispatch (withGuestString (some memory) data size dispatch) ↔
      SignHarmless memory data size := by
  rcases Int.lt_or_le size.toInt 0 with sizeNegative | sizeNonneg
  · rw [withGuestString_of_neg_size sizeNegative]
    constructor
    · intro handled
      exact absurd handled not_handled_panicked
    · intro harmless
      exact absurd harmless.1 (Int.not_le.mpr sizeNegative)
  · rcases Int.lt_or_le data.toInt 0 with dataNegative | dataNonneg
    · rw [withGuestString_of_neg_data sizeNonneg dataNegative]
      constructor
      · intro handled
        refine ⟨sizeNonneg, .inr ?_⟩
        by_contra inside
        exact not_handled_of_inside calls inside handled
      · intro harmless
        have outside := harmless.2.resolve_left (Int.not_le.mpr dataNegative)
        exact ⟨fun _ => rfl, fun inside => absurd outside inside⟩
    · constructor
      · intro _
        exact ⟨sizeNonneg, .inl dataNonneg⟩
      · intro _
        exact handled_of_nonneg sizeNonneg dataNonneg

end GuestString

/-- **Guest memory arguments.** Both host functions handle every string the guest
names, whatever the memory and the environment, exactly when the length is not
negative as an `i32`, and neither is the pointer of a string inside the memory. -/
theorem guest_memory_handled_iff (environment : HostEnvironment) (memory : GuestMemory)
    (tag data size returnValueData returnValueSize : BitVec 32) :
    (Handled memory data size (dispatchLog environment tag)
        (proxyLog environment (some memory) tag data size) ↔
      SignHarmless memory data size) ∧
    (Handled memory data size (dispatchGetHeaderMapValue environment tag)
        (proxyGetHeaderMapValue environment (some memory) tag data size returnValueData
          returnValueSize) ↔
      SignHarmless memory data size) := by
  constructor
  · apply handled_withGuestString_iff
    intro text
    exact List.cons_ne_nil _ _
  · apply handled_withGuestString_iff
    intro text
    exact List.cons_ne_nil _ _

/-- The environment of the integration test. -/
def testHostEnv : HostEnvironment where
  log _ _ := .ok
  getHeaderMapValue _ _ := some "integration_test_value"

/-- The memory of the integration test, up to the end of its string. -/
def testMemory : GuestMemory := ⟨"hello from wasm".toUTF8, by decide⟩

/-- The string of the integration test is logged. -/
theorem guest_memory_handled_hello :
    Handled testMemory 0 15 (dispatchLog testHostEnv 2)
      (proxyLog testHostEnv (some testMemory) 2 0 15) :=
  (guest_memory_handled_iff testHostEnv testMemory 2 0 15 0 0).1.mpr (by
    constructor
    · decide
    · left
      decide)

/-- A length of 2^32 - 1 is out of bounds, and panics both host functions. -/
theorem guest_memory_panics :
    OutOfBounds testMemory 0 0xffffffff ∧
      proxyLog testHostEnv (some testMemory) 2 0 0xffffffff = .panicked ∧
      proxyGetHeaderMapValue testHostEnv (some testMemory) 0 0 0xffffffff 0 0 = .panicked := by
  refine ⟨?_, rfl, rfl⟩
  change "hello from wasm".toUTF8.size < _
  decide

end Vortex.Filters
