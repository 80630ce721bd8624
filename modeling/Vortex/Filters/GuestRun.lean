import Vortex.Filters.ProxyWasm
import Vortex.Lib.Dialogue

/-!
# Running a Proxy-Wasm plugin

`execute_proxy_wasm` links a plugin against the host functions, runs its start function
and calls `proxy_on_request_headers` if the plugin exports it.  The plugin may call the host
functions any number of times, with arguments that depend on the codes returned before,
and it changes its memory as it likes in between.  The host only reads that memory, so a
plugin is a tree of calls, each with the memory at that moment, that branches on the code
returned.

Plugins that run on for ever are left out; nothing in the engine stops them.
-/

namespace Vortex.Filters

open Lib

/-! ## The plugin and the host functions -/

/-- A host function with its arguments. -/
inductive HostFunction where
  | proxyLog (level messageData messageSize : BitVec 32)
  | proxyGetHeaderMapValue
      (mapType keyData keySize returnValueData returnValueSize : BitVec 32)
  | proxyContinueStream (streamType : BitVec 32)

/-- A call of the plugin, with the memory it exports. -/
structure GuestCall where
  memory : Option GuestMemory
  function : HostFunction

/-- `proxy_continue_stream`. -/
def proxyContinueStream (_streamType : BitVec 32) : HostReturn := .early .ok

/-- The host function called. -/
def callHost (environment : HostEnvironment) (call : GuestCall) : Outcome HostReturn :=
  match call.function with
  | .proxyLog level messageData messageSize =>
      proxyLog environment call.memory level messageData messageSize
  | .proxyGetHeaderMapValue mapType keyData keySize returnValueData returnValueSize =>
      proxyGetHeaderMapValue environment call.memory mapType keyData keySize returnValueData
        returnValueSize
  | .proxyContinueStream streamType => .returned (proxyContinueStream streamType)

/-- The code for the plugin, and the calls made to the environment. -/
def replyOf (environment : HostEnvironment) (call : GuestCall) :
    Outcome (BitVec 32 × List EnvironmentCall) :=
  (callHost environment call).bind fun result => .returned (result.code, result.calls)

/-- The run of a function of the plugin, which returns a value or traps. -/
abbrev GuestCode := Dialogue GuestCall (BitVec 32) (Option (BitVec 32))

/-- The type of a value. -/
inductive ValType where
  | i32
  | i64
  | f32
  | f64
  | other
  deriving DecidableEq, Repr

/-- A function that a plugin imports. -/
structure Import where
  moduleName : String
  name : String
  params : List ValType
  results : List ValType
  deriving DecidableEq, Repr

/-- What `register_proxy_wasm_abi` puts into the linker. -/
def proxyWasmAbi : List Import :=
  [⟨"env", "proxy_log", [.i32, .i32, .i32], [.i32]⟩,
    ⟨"env", "proxy_get_header_map_value", [.i32, .i32, .i32, .i32, .i32], [.i32]⟩,
    ⟨"env", "proxy_continue_stream", [.i32], [.i32]⟩]

/-- A compiled plugin. -/
structure Plugin where
  imports : List Import
  /-- The start function; one that is missing returns at once. -/
  start : GuestCode
  /-- The export `proxy_on_request_headers`, if there is one of the expected type. -/
  onRequestHeaders : Option (BitVec 32 → BitVec 32 → BitVec 32 → GuestCode)

/-- The errors that `?` passes on. -/
inductive WasmError where
  | compilation
  | unknownImport
  | trap
  deriving DecidableEq, Repr

/-- The plugin from its linking to its end.  The action it returns is dropped. -/
def Plugin.program (plugin : Plugin) : Dialogue GuestCall (BitVec 32) (Except WasmError Unit) :=
  if ∀ imported ∈ plugin.imports, imported ∈ proxyWasmAbi then
    plugin.start.bind fun
      | none => .ends (.error .trap)
      | some _ =>
          match plugin.onRequestHeaders with
          | none => .ends (.ok ())
          | some onRequestHeaders =>
              (onRequestHeaders 1 2 3).bind fun
                | none => .ends (.error .trap)
                | some _action => .ends (.ok ())
  else .ends (.error .unknownImport)

section Engine

variable (compile : ByteArray → Option Plugin) (environment : HostEnvironment)
  (wasmBytes : ByteArray)

/-- The program that some bytes stand for. -/
def programOf : Dialogue GuestCall (BitVec 32) (Except WasmError Unit) :=
  match compile wasmBytes with
  | none => .ends (.error .compilation)
  | some plugin => plugin.program

/-- `execute_proxy_wasm`: what it returns, and the calls made to the environment. -/
def executeProxyWasm : Outcome (Except WasmError Unit) × List EnvironmentCall :=
  (programOf compile wasmBytes).run (replyOf environment)

/-- The calls that the plugin makes. -/
def guestCalls : List GuestCall :=
  (programOf compile wasmBytes).requests (replyOf environment)

end Engine

/-! ## One call -/

section OneCall

variable {size : BitVec 32}

/-- The string that a plugin names in its memory. -/
def NamesString (memory : Option GuestMemory) (data size : BitVec 32) (text : String) : Prop :=
  ∃ contents, memory = some contents ∧ ¬OutOfBounds contents data size ∧
    String.fromUTF8? (contents.bytes.extract data.toNat (data.toNat + size.toNat)) = some text

/-- Taking a string of a length that is not negative ends before the environment is
called, in the same way for all environments, or the environment is called with the
string that the plugin names. -/
theorem withGuestString_cases (memory : Option GuestMemory) (data : BitVec 32)
    (harmless : memory = none ∨ 0 ≤ size.toInt) :
    (∃ result, ∀ dispatch, withGuestString memory data size dispatch =
        .returned (.early result)) ∨
      ∃ text, NamesString memory data size text ∧
        ∀ dispatch, withGuestString memory data size dispatch = .returned (dispatch text) := by
  cases memory with
  | none => exact .inl ⟨.internalFailure, fun _ => rfl⟩
  | some memory =>
      have nonneg : 0 ≤ size.toInt := harmless.resolve_left nofun
      rcases Int.lt_or_le data.toInt 0 with dataNegative | dataNonneg
      · exact .inl ⟨.invalidMemoryAccess, fun _ => withGuestString_of_neg_data nonneg dataNegative⟩
      · have handled (dispatch : String → HostReturn) :=
          @handled_of_nonneg memory data size dispatch nonneg dataNonneg
        by_cases outside : OutOfBounds memory data size
        · exact .inl ⟨.invalidMemoryAccess, fun dispatch => (handled dispatch).1 outside⟩
        · cases decoded : String.fromUTF8?
              (memory.bytes.extract data.toNat (data.toNat + size.toNat)) with
          | none =>
              refine .inl ⟨.parseFailure, fun dispatch => ?_⟩
              have answer := (handled dispatch).2 outside
              rw [decoded] at answer
              exact answer
          | some text =>
              refine .inr ⟨text, ⟨memory, rfl, outside, decoded⟩, fun dispatch => ?_⟩
              have answer := (handled dispatch).2 outside
              rw [decoded] at answer
              exact answer

end OneCall

/-- The place of the string that a function takes, and what it then asks of the
environment. -/
def HostFunction.argument :
    HostFunction → Option (BitVec 32 × BitVec 32 × (String → EnvironmentCall))
  | .proxyLog level messageData messageSize => some (messageData, messageSize, .log level)
  | .proxyGetHeaderMapValue mapType keyData keySize _ _ =>
      some (keyData, keySize, .getHeaderMapValue mapType)
  | .proxyContinueStream _ => none

/-- What a function returns once the environment has answered. -/
def answered (environment : HostEnvironment) : EnvironmentCall → HostReturn
  | .log level message => dispatchLog environment level message
  | .getHeaderMapValue mapType key => dispatchGetHeaderMapValue environment mapType key

theorem callHost_eq (environment : HostEnvironment) (call : GuestCall) :
    callHost environment call =
      match call.function.argument with
      | none => .returned (.early .ok)
      | some (data, size, ask) =>
          withGuestString call.memory data size fun text => answered environment (ask text) := by
  rcases call with ⟨memory, function⟩
  cases function with
  | proxyLog level messageData messageSize => rfl
  | proxyGetHeaderMapValue mapType keyData keySize returnValueData returnValueSize => rfl
  | proxyContinueStream streamType => rfl

theorem calls_answered (environment : HostEnvironment) (asked : EnvironmentCall) :
    (answered environment asked).calls = [asked] := by
  cases asked with
  | log level message => rfl
  | getHeaderMapValue mapType key => rfl

/-- What a call asks of the environment. -/
def GuestCall.Asks (call : GuestCall) (asked : EnvironmentCall) : Prop :=
  ∃ data size ask text, call.function.argument = some (data, size, ask) ∧
    NamesString call.memory data size text ∧ asked = ask text

/-- The call has a negative length. -/
def GuestCall.Negative (call : GuestCall) : Prop :=
  call.memory.isSome ∧
    ∃ data size ask, call.function.argument = some (data, size, ask) ∧ size.toInt < 0

/-- Two environments answer a call in a way that a plugin cannot tell apart: for a header
only its presence counts. -/
def Alike (first second : HostEnvironment) : EnvironmentCall → Prop
  | .log level message => first.log level message = second.log level message
  | .getHeaderMapValue mapType key =>
      (first.getHeaderMapValue mapType key).isSome = (second.getHeaderMapValue mapType key).isSome

/-- The value of a header goes no further. -/
theorem dispatchGetHeaderMapValue_eq (environment : HostEnvironment) (mapType : BitVec 32)
    (key : String) :
    dispatchGetHeaderMapValue environment mapType key =
      ⟨if (environment.getHeaderMapValue mapType key).isSome then WasmResult.ok.asI32
        else WasmResult.notFound.asI32, [.getHeaderMapValue mapType key]⟩ := by
  rw [dispatchGetHeaderMapValue]
  cases environment.getHeaderMapValue mapType key with
  | none => rfl
  | some value => rfl

theorem Alike.answered_eq {first second : HostEnvironment} {asked : EnvironmentCall}
    (alike : Alike first second asked) : answered first asked = answered second asked := by
  cases asked with
  | log level message =>
      simp only [answered, dispatchLog]
      rw [show first.log level message = second.log level message from alike]
  | getHeaderMapValue mapType key =>
      rw [answered, answered, dispatchGetHeaderMapValue_eq, dispatchGetHeaderMapValue_eq]
      rw [show (first.getHeaderMapValue mapType key).isSome =
        (second.getHeaderMapValue mapType key).isSome from alike]

/-- A call panics, returns the same code whatever the environment, or asks it once. -/
inductive Replies (call : GuestCall) : Prop where
  | panics (negative : call.Negative)
      (reply : ∀ environment, replyOf environment call = .panicked)
  | silent (code : BitVec 32) (harmless : ¬call.Negative)
      (reply : ∀ environment, replyOf environment call = .returned (code, []))
  | asks (asked : EnvironmentCall) (harmless : ¬call.Negative) (names : call.Asks asked)
      (reply : ∀ environment, replyOf environment call =
        .returned ((answered environment asked).code, [asked]))

theorem replies (call : GuestCall) : Replies call := by
  cases argument : call.function.argument with
  | none =>
      refine .silent WasmResult.ok.asI32 ?_ fun environment => ?_
      · rintro ⟨_, data, size, ask, named, _⟩
        rw [argument] at named
        cases named
      · rw [replyOf, callHost_eq, argument]
        rfl
  | some place =>
      rcases place with ⟨data, size, ask⟩
      by_cases negative : call.Negative
      · refine .panics negative fun environment => ?_
        rcases negative with ⟨exported, data', size', ask', named, below⟩
        rw [argument] at named
        cases named
        rcases Option.isSome_iff_exists.mp exported with ⟨memory, known⟩
        simp only [replyOf, callHost_eq, argument, known, withGuestString_of_neg_size below]
        rfl
      · have harmless : call.memory = none ∨ 0 ≤ size.toInt := by
          by_contra bad
          rw [not_or, Int.not_le] at bad
          exact negative ⟨Option.isSome_iff_ne_none.mpr bad.1, data, size, ask, argument, bad.2⟩
        rcases withGuestString_cases call.memory data harmless with
          ⟨result, early⟩ | ⟨text, names, dispatched⟩
        · refine .silent result.asI32 negative fun environment => ?_
          simp only [replyOf, callHost_eq, argument, early]
          rfl
        · refine .asks (ask text) negative ⟨data, size, ask, text, argument, names, rfl⟩
            fun environment => ?_
          simp only [replyOf, callHost_eq, argument, dispatched, Outcome.bind_returned,
            calls_answered]

/-! ## Whole runs -/

section Runs

variable {compile : ByteArray → Option Plugin} {first second environment : HostEnvironment}
  {wasmBytes : ByteArray}

/-- **A plugin learns nothing but presence.** Environments that answer the log calls of a
plugin alike, and have the same of the headers it asked for, cannot be told apart by it: it
makes the same calls and ends in the same way, whatever the values of the headers. -/
theorem plugin_learns_only_presence
    (alike : ∀ asked ∈ (executeProxyWasm compile first wasmBytes).2, Alike first second asked) :
    executeProxyWasm compile second wasmBytes = executeProxyWasm compile first wasmBytes := by
  apply Dialogue.run_congr
  intro call made
  cases replies call with
  | panics negative reply => rw [reply, reply]
  | silent code harmless reply => rw [reply, reply]
  | asks asked harmless names reply =>
      have seen : asked ∈ (executeProxyWasm compile first wasmBytes).2 := by
        apply (Dialogue.mem_effects_iff _ _).mpr
        exact ⟨call, made, _, reply first, List.mem_singleton_self _⟩
      rw [reply, reply, (alike asked seen).answered_eq]

/-- A plugin that logs its string and asks for the header named by the first word of it. -/
def greeter : Plugin where
  imports :=
    [⟨"env", "proxy_log", [.i32, .i32, .i32], [.i32]⟩,
      ⟨"env", "proxy_get_header_map_value", [.i32, .i32, .i32, .i32, .i32], [.i32]⟩]
  start := .ends (some 0)
  onRequestHeaders := some fun _ _ _ =>
    .asks ⟨some testMemory, .proxyLog 2 0 15⟩ fun _ =>
      .asks ⟨some testMemory, .proxyGetHeaderMapValue 0 0 5 0 0⟩ fun code => .ends (some code)

/-- Another value for every header makes no difference. -/
theorem plugin_learns_only_presence_greeter :
    executeProxyWasm (fun _ => some greeter) { testHostEnv with
        getHeaderMapValue := fun _ _ => some "secret" } .empty =
      executeProxyWasm (fun _ => some greeter) testHostEnv .empty := by
  apply plugin_learns_only_presence
  intro asked _
  cases asked with
  | log level message => rfl
  | getHeaderMapValue mapType key => rfl

/-- **What a plugin can do to the host.** Running a plugin panics exactly when one of its
calls has a negative length while it exports a memory; and the environment is only ever
asked about strings that lie, as UTF-8, in the memory of the plugin at the call. -/
theorem plugin_panics_iff_negative_length :
    ((executeProxyWasm compile environment wasmBytes).1 = .panicked ↔
        ∃ call ∈ guestCalls compile environment wasmBytes, call.Negative) ∧
      ∀ asked ∈ (executeProxyWasm compile environment wasmBytes).2,
        ∃ call ∈ guestCalls compile environment wasmBytes, call.Asks asked := by
  constructor
  · refine (Dialogue.run_panicked_iff _).trans (exists_congr fun call => and_congr_right fun _ => ?_)
    cases replies call with
    | panics negative reply => exact ⟨fun _ => negative, fun _ => reply environment⟩
    | silent code harmless reply =>
        rw [reply environment]
        exact ⟨nofun, fun negative => absurd negative harmless⟩
    | asks asked harmless names reply =>
        rw [reply environment]
        exact ⟨nofun, fun negative => absurd negative harmless⟩
  · intro asked seen
    rcases (Dialogue.mem_effects_iff _ _).mp seen with ⟨call, made, result, replied, inside⟩
    refine ⟨call, made, ?_⟩
    cases replies call with
    | panics negative reply =>
        rw [reply] at replied
        cases replied
    | silent code harmless reply =>
        rw [reply] at replied
        cases replied
        cases inside
    | asks named harmless names reply =>
        rw [reply] at replied
        cases replied
        cases List.mem_singleton.mp inside
        exact names

end Runs

end Vortex.Filters
