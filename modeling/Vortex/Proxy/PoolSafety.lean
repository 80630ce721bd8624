import Vortex.Proxy.Pipeline
import Mathlib.Data.List.Nodup

/-!
# Pooled connections over all interleavings

A sender is in one place at a time: a slot of the pool or a request.  Every
pooled sender lies in the queue of the address its connection was opened to, so
a request is only ever sent to the backend it selected.

The pool is meant to hold idle connections.  A sender is pushed back as soon as
the response head has arrived, though, and the body of that response may still
be outstanding.  The pool holds only idle connections as long as every sender
that is pushed while open belongs to a response without a body.
-/

namespace Vortex.Proxy

open Vortex.Core Lib

namespace PipelineState

/-- The connection whose sender a request holds. -/
def held (state : PipelineState) (request : ℕ) : Option ConnId :=
  (state.requests request).bind Phase.sender

/-- The connection on which the response body of a request is outstanding. -/
def outstanding (state : PipelineState) (request : ℕ) : Option ConnId :=
  (state.requests request).bind Phase.body

/-- The address a connection was opened to. -/
def openedTo (state : PipelineState) (conn : ConnId) : Option SocketAddr :=
  (state.conns conn).map Connection.addr

end PipelineState

/-! ## Senders are neither shared nor cross-wired -/

/-- Where a sender can be. -/
inductive Place where
  | slot (addr : SocketAddr) (index : ℕ)
  | request (request : ℕ)
  deriving DecidableEq, Repr

/-- The connection whose sender is at a place. -/
def PipelineState.senderAt (state : PipelineState) : Place → Option ConnId
  | .slot addr index => (state.pool addr)[index]?
  | .request request => state.held request

/-- Each sender is in one place, and with a connection opened to the address the
place is for. -/
structure Custody (state : PipelineState) : Prop where
  distinct : ∀ addr, (state.pool addr).Nodup
  pooled : ∀ addr, ∀ conn ∈ state.pool addr, state.openedTo conn = some addr
  wired : ∀ request phase conn, state.requests request = some phase →
    phase.sender = some conn → state.openedTo conn = some (state.heap phase.backend).addr
  once : ∀ first second conn, state.held first = some conn → state.held second = some conn →
    first = second
  apart : ∀ request conn addr, state.held request = some conn → conn ∉ state.pool addr

theorem Custody.initial (clock : ℕ) (heap : Heap) (table : List SharedBackend) :
    Custody (.initial clock heap table) := by
  constructor <;> simp [PipelineState.initial, PipelineState.held]

section Custody

variable {state next : PipelineState} {request : ℕ} {backend : SharedBackend} {conn : ConnId}

theorem bind_update {after : Option Phase}
    (updated : next.requests = Function.update state.requests request after)
    (part : Phase → Option ConnId) (other : ℕ) :
    (next.requests other).bind part =
      if other = request then after.bind part else (state.requests other).bind part := by
  rw [updated]
  rcases Decidable.eq_or_ne other request with rfl | different
  · rw [Function.update_self, if_pos rfl]
  · rw [Function.update_of_ne different, if_neg different]

theorem held_update {after : Option Phase}
    (updated : next.requests = Function.update state.requests request after) (other : ℕ) :
    next.held other = if other = request then after.bind Phase.sender else state.held other :=
  bind_update updated Phase.sender other

theorem outstanding_update {after : Option Phase}
    (updated : next.requests = Function.update state.requests request after) (other : ℕ) :
    next.outstanding other =
      if other = request then after.bind Phase.body else state.outstanding other :=
  bind_update updated Phase.body other

/-- What has to be checked when one request changes: the pool, the sender the
request then has, and that the pool has taken no sender of another request. -/
theorem Custody.update (custody : Custody state) {after : Option Phase}
    (updated : next.requests = Function.update state.requests request after)
    (addr : ∀ backend, (next.heap backend).addr = (state.heap backend).addr)
    (opened : ∀ conn addr, state.openedTo conn = some addr → next.openedTo conn = some addr)
    (distinct : ∀ addr, (next.pool addr).Nodup)
    (pooled : ∀ addr, ∀ conn ∈ next.pool addr, next.openedTo conn = some addr)
    (own : ∀ phase conn, after = some phase → phase.sender = some conn →
      next.openedTo conn = some (state.heap phase.backend).addr ∧
        (∀ other ≠ request, state.held other ≠ some conn) ∧ ∀ addr, conn ∉ next.pool addr)
    (others : ∀ other ≠ request, ∀ conn, state.held other = some conn →
      ∀ addr, conn ∉ next.pool addr) : Custody next := by
  have ownHeld : ∀ conn, after.bind Phase.sender = some conn →
      (∀ other ≠ request, state.held other ≠ some conn) ∧ ∀ addr, conn ∉ next.pool addr := by
    intro conn holds
    rcases Option.bind_eq_some_iff.mp holds with ⟨phase, isAfter, sender⟩
    exact (own phase conn isAfter sender).2
  refine ⟨distinct, pooled, ?_, ?_, ?_⟩
  · have wired : ∀ other phase, next.requests other = some phase → ∀ conn,
        phase.sender = some conn → next.openedTo conn = some (state.heap phase.backend).addr := by
      refine forall_running_update updated ?_ ?_
      · intro phase isAfter conn sender
        exact (own phase conn isAfter sender).1
      · intro other phase running conn sender
        exact opened conn _ (custody.wired other phase conn running sender)
    intro other phase conn running sender
    rw [addr]
    exact wired other phase running conn sender
  · intro first second conn firstHolds secondHolds
    rw [held_update updated] at firstHolds secondHolds
    split at firstHolds
    · next firstOwn =>
        split at secondHolds
        · next secondOwn => rw [firstOwn, secondOwn]
        · next different => exact absurd secondHolds ((ownHeld conn firstHolds).1 second different)
    · next different =>
        split at secondHolds
        · exact absurd firstHolds ((ownHeld conn secondHolds).1 first different)
        · exact custody.once first second conn firstHolds secondHolds
  · intro other conn addr holds
    rw [held_update updated] at holds
    split at holds
    · exact (ownHeld conn holds).2 addr
    · next different => exact others other different conn holds addr

/-- A request moves on with a sender it already holds, or with none. -/
theorem Custody.of_fewer (custody : Custody state) {after : Option Phase}
    (updated : next.requests = Function.update state.requests request after)
    (addr : ∀ backend, (next.heap backend).addr = (state.heap backend).addr)
    (opened : ∀ conn, next.openedTo conn = state.openedTo conn) (pool : next.pool = state.pool)
    (own : ∀ phase conn, after = some phase → phase.sender = some conn →
      ∃ before, state.requests request = some before ∧ before.sender = some conn ∧
        before.backend = phase.backend) : Custody next := by
  apply custody.update updated addr
  · intro conn addr known
    rw [opened, known]
  · rw [pool]
    exact custody.distinct
  · intro addr conn membership
    rw [pool] at membership
    rw [opened, custody.pooled addr conn membership]
  · intro phase conn isAfter sender
    rcases own phase conn isAfter sender with ⟨before, running, held, same⟩
    have holds : state.held request = some conn := by
      rw [PipelineState.held, running, Option.bind_some, held]
    refine ⟨?_, ?_, ?_⟩
    · rw [opened, ← same]
      exact custody.wired request before conn running held
    · intro other different otherHolds
      exact different (custody.once other request conn otherHolds holds)
    · rw [pool]
      exact fun addr => custody.apart request conn addr holds
  · rw [pool]
    exact fun other _ conn holds addr => custody.apart other conn addr holds

/-- A request moves on without a sender. -/
theorem Custody.of_senderless (custody : Custody state) {after : Option Phase}
    (updated : next.requests = Function.update state.requests request after)
    (addr : ∀ backend, (next.heap backend).addr = (state.heap backend).addr)
    (opened : ∀ conn, next.openedTo conn = state.openedTo conn) (pool : next.pool = state.pool)
    (senderless : after.bind Phase.sender = none) : Custody next := by
  apply custody.of_fewer updated addr opened pool
  rintro phase conn rfl sender
  rw [Option.bind_some, sender] at senderless
  cases senderless

theorem Custody.of_unchanged (custody : Custody state) (requests : next.requests = state.requests)
    (addr : ∀ backend, (next.heap backend).addr = (state.heap backend).addr)
    (opened : ∀ conn, next.openedTo conn = state.openedTo conn) (pool : next.pool = state.pool) :
    Custody next := by
  apply custody.of_fewer (requests.trans (Function.update_eq_self 0 state.requests).symm) addr
    opened pool
  intro phase conn running sender
  exact ⟨phase, running, sender, rfl⟩

/-- Popping a sender leaves the rest of its queue. -/
theorem mem_pool_of_take {queue : List ConnId}
    (queued : state.pool (state.heap backend).addr = conn :: queue) {addr : SocketAddr}
    {other : ConnId} (membership : other ∈ (state.take request backend conn queue).pool addr) :
    other ∈ state.pool addr := by
  rw [PipelineState.take_pool, Function.update_apply] at membership
  split at membership
  · next same =>
      rw [same, queued]
      exact List.mem_cons_of_mem _ membership
  · exact membership

/-- Pushing a sender adds it to the queue of its backend. -/
theorem mem_pool_of_put {hasBody : Bool} {addr : SocketAddr} {other : ConnId}
    (membership : other ∈ (state.put request backend conn hasBody).pool addr) :
    other ∈ state.pool addr ∨ other = conn ∧ addr = (state.heap backend).addr := by
  rw [PipelineState.put_pool, Function.update_apply] at membership
  split at membership
  · next same =>
      rcases List.mem_append.mp membership with earlier | last
      · rw [same]
        exact .inl earlier
      · exact .inr ⟨List.mem_singleton.mp last, same⟩
  · exact .inl membership

theorem Custody.take (custody : Custody state) {queue : List ConnId}
    (queued : state.pool (state.heap backend).addr = conn :: queue) :
    Custody (state.take request backend conn queue) := by
  have listed : conn ∈ state.pool (state.heap backend).addr := by
    rw [queued]
    exact List.mem_cons_self
  have distinct := custody.distinct (state.heap backend).addr
  rw [queued, List.nodup_cons] at distinct
  apply custody.update rfl
  · exact fun _ => rfl
  · exact fun _ _ known => known
  · intro addr
    rw [PipelineState.take_pool, Function.update_apply]
    split
    · exact distinct.2
    · exact custody.distinct addr
  · intro addr other membership
    exact custody.pooled addr other (mem_pool_of_take queued membership)
  · rintro _ _ ⟨⟩ ⟨⟩
    have opened := custody.pooled _ conn listed
    refine ⟨opened, ?_, ?_⟩
    · intro other _ holds
      exact custody.apart other conn _ holds listed
    · intro addr membership
      -- The address of a pooled sender is its own, and that queue has lost it.
      have elsewhere := custody.pooled addr conn (mem_pool_of_take queued membership)
      rw [opened] at elsewhere
      cases elsewhere
      rw [PipelineState.take_pool, Function.update_self] at membership
      exact distinct.1 membership
  · intro other _ held holds addr membership
    exact custody.apart other held addr holds (mem_pool_of_take queued membership)

theorem Custody.openConn (custody : Custody state) (fresh : state.conns conn = none) :
    Custody (state.openConn request backend conn) := by
  have known : ∀ other addr, state.openedTo other = some addr →
      (state.openConn request backend conn).openedTo other = some addr := by
    intro other addr opened
    have different : other ≠ conn := by
      rintro rfl
      rw [PipelineState.openedTo, fresh] at opened
      cases opened
    rw [PipelineState.openedTo, PipelineState.openConn_conns, Function.update_of_ne different]
    exact opened
  have unknown : ∀ addr, state.openedTo conn ≠ some addr := by
    intro addr opened
    rw [PipelineState.openedTo, fresh] at opened
    cases opened
  apply custody.update rfl
  · exact fun _ => rfl
  · exact known
  · exact custody.distinct
  · intro addr other membership
    exact known other addr (custody.pooled addr other membership)
  · rintro _ _ ⟨⟩ ⟨⟩
    refine ⟨?_, ?_, ?_⟩
    · rw [PipelineState.openedTo, PipelineState.openConn_conns, Function.update_self]
      rfl
    · intro other _ holds
      rcases Option.bind_eq_some_iff.mp holds with ⟨phase, running, sender⟩
      exact unknown _ (custody.wired other phase conn running sender)
    · intro addr membership
      exact unknown addr (custody.pooled addr conn membership)
  · intro other _ held holds addr
    exact custody.apart other held addr holds

theorem Custody.put (custody : Custody state) {hasBody : Bool}
    (running : state.requests request = some (.offering backend conn hasBody)) :
    Custody (state.put request backend conn hasBody) := by
  have holds : state.held request = some conn := by
    rw [PipelineState.held, running]
    rfl
  apply custody.update rfl
  · exact fun _ => rfl
  · exact fun _ _ known => known
  · intro addr
    rw [PipelineState.put_pool, Function.update_apply]
    split
    · apply List.nodup_append.mpr
      refine ⟨custody.distinct _, List.nodup_singleton conn, ?_⟩
      rintro other membership last lastHere rfl
      rw [List.mem_singleton.mp lastHere] at membership
      exact custody.apart request conn _ holds membership
    · exact custody.distinct addr
  · intro addr other membership
    rcases mem_pool_of_put membership with earlier | ⟨rfl, rfl⟩
    · exact custody.pooled addr other earlier
    · exact custody.wired request _ other running rfl
  · rintro _ _ ⟨⟩ ⟨⟩
  · intro other different held otherHolds addr membership
    rcases mem_pool_of_put membership with earlier | ⟨rfl, rfl⟩
    · exact custody.apart other held addr otherHolds earlier
    · exact different (custody.once other request held otherHolds holds)

theorem Custody.step (custody : Custody state) {step : PipelineStep}
    (stepped : pipelineStep state step = some next) : Custody next := by
  cases pipelineStep_effect stepped with
  | ambient clock table keeps =>
      apply custody.of_unchanged
      · rfl
      · exact fun backend => congrArg Prod.fst (keeps backend)
      · exact fun _ => rfl
      · rfl
  | @closed conn connection known =>
      apply custody.of_unchanged
      · rfl
      · exact fun _ => rfl
      · intro other
        rw [PipelineState.openedTo, PipelineState.closeConn_conns, PipelineState.openedTo]
        rcases Decidable.eq_or_ne other conn with rfl | different
        · rw [Function.update_self, known]
          rfl
        · rw [Function.update_of_ne different]
      · rfl
  | started backend =>
      refine custody.of_senderless rfl ?_ (fun _ => rfl) rfl rfl
      exact Heap.modify_keeps Backend.addr rfl
  | moved running move keeps =>
      apply custody.of_fewer rfl
      · exact fun backend => congrArg Prod.fst (keeps backend)
      · exact fun _ => rfl
      · rfl
      · rintro _ conn ⟨⟩ holds
        exact ⟨_, running, move.sender_before holds, move.backend_eq.symm⟩
  | took running queued => exact custody.take queued
  | opened running fresh => exact custody.openConn fresh
  | offered running isOpen =>
      apply custody.of_fewer rfl
      · exact fun _ => rfl
      · exact fun _ => rfl
      · rfl
      · rintro _ conn ⟨⟩ ⟨⟩
        exact ⟨_, running, rfl, rfl⟩
  | pushed running => exact custody.put running
  | left running executing keeps =>
      refine custody.of_senderless rfl ?_ (fun _ => rfl) rfl rfl
      exact Heap.modify_keeps Backend.addr (congrArg Prod.fst (keeps _))
  | returned rttMs running =>
      refine custody.of_senderless rfl ?_ (fun _ => rfl) rfl rfl
      exact Heap.modify_keeps Backend.addr rfl
  | relayed running =>
      exact custody.of_senderless rfl (fun _ => rfl) (fun _ => rfl) rfl rfl

/-- In one place at a time. -/
theorem Custody.place_unique (custody : Custody state) {first second : Place}
    (firstHas : state.senderAt first = some conn) (secondHas : state.senderAt second = some conn) :
    first = second := by
  cases first with
  | slot firstAddr firstIndex =>
      have firstPooled := List.mem_of_getElem? firstHas
      cases second with
      | slot secondAddr secondIndex =>
          have secondPooled := List.mem_of_getElem? secondHas
          have sameAddr : firstAddr = secondAddr := by
            have firstOpened := custody.pooled firstAddr conn firstPooled
            rw [custody.pooled secondAddr conn secondPooled] at firstOpened
            exact (Option.some.inj firstOpened).symm
          subst sameAddr
          have inside := (List.getElem?_eq_some_iff.mp firstHas).1
          have sameIndex : firstIndex = secondIndex :=
            (List.getElem?_inj inside (custody.distinct firstAddr)).mp
              (firstHas.trans secondHas.symm)
          rw [sameIndex]
      | request second => exact absurd firstPooled (custody.apart second conn firstAddr secondHas)
  | request first =>
      cases second with
      | slot secondAddr secondIndex =>
          have secondPooled := List.mem_of_getElem? secondHas
          exact absurd secondPooled (custody.apart first conn secondAddr firstHas)
      | request second => rw [custody.once first second conn firstHas secondHas]

end Custody

/-- In every reachable state each sender is in at most one place, every pooled
sender was opened to the address of its queue, and a request is only sent on a
connection opened to the backend it selected. -/
theorem connections_not_shared {clock : ℕ} {heap : Heap} {table : List SharedBackend}
    {steps : List PipelineStep} {state : PipelineState}
    (executed : pipelineSystem.run (.initial clock heap table) steps = some state) :
    (∀ conn first second, state.senderAt first = some conn → state.senderAt second = some conn →
        first = second) ∧
      (∀ addr, ∀ conn ∈ state.pool addr, state.openedTo conn = some addr) ∧
      ∀ request backend conn, state.requests request = some (.sent backend conn) →
        state.openedTo conn = some (state.heap backend).addr := by
  have custody : Custody state := by
    apply (System.Runs.of_run executed).invariant _ (Custody.initial clock heap table)
    intro state next step custody _ stepped
    exact custody.step stepped
  refine ⟨?_, custody.pooled, ?_⟩
  · intro conn first second
    exact custody.place_unique
  · intro request backend conn running
    exact custody.wired request _ conn running rfl

/-- One backend on port 8080. -/
def singleBackend : PipelineState :=
  .initial 0 (fun _ => Backend.new ⟨1⟩ ⟨.v4 ⟨⟨127, 0, 0, 1⟩⟩, 8080⟩) [0]

/-- The first request, over a new connection, up to the push of its sender. -/
def firstExchange (hasBody : Bool) : List PipelineStep :=
  [.select, .pop 0, .connect 0 true, .handshake 0 (some 7), .secondReady 0 true,
    .respond 0 (some hasBody), .offer 0, .push 0]

/-- The second request is sent on the connection that the first one opened. -/
theorem connections_not_shared_reused :
    ∃ state, pipelineSystem.run singleBackend (firstExchange false ++
        [.select, .pop 1, .checkPopped 1, .firstReady 1 true, .secondReady 1 true]) = some state ∧
      state.requests 1 = some (.sent 0 7) ∧
      state.openedTo 7 = some ⟨.v4 ⟨⟨127, 0, 0, 1⟩⟩, 8080⟩ := by
  have executed : pipelineSystem.run singleBackend (firstExchange false ++
      [.select, .pop 1, .checkPopped 1, .firstReady 1 true, .secondReady 1 true]) = some _ := rfl
  exact ⟨_, executed, rfl, (connections_not_shared executed).2.2 1 0 7 rfl⟩

/-! ## Pooled connections are idle -/

/-- When `push` tests a sender, either its connection is closed or its response
has no body. -/
def PushesIdle (state : PipelineState) : PipelineStep → Prop
  | .offer request =>
      ∀ backend conn, state.requests request = some (.answered backend conn true) →
        state.isClosed conn = true
  | _ => True

/-- No body is outstanding on a connection whose sender is pooled, nor, but for
its own response, on one whose sender a request holds. -/
structure Idle (state : PipelineState) : Prop where
  custody : Custody state
  known : ∀ request conn, state.outstanding request = some conn → state.openedTo conn ≠ none
  pooled : ∀ addr, ∀ conn ∈ state.pool addr, ∀ request, state.outstanding request ≠ some conn
  held : ∀ request conn other, state.held request = some conn →
    state.outstanding other = some conn → other = request
  offered : ∀ request backend conn hasBody,
    state.requests request = some (.offering backend conn hasBody) → hasBody = false

theorem Idle.initial (clock : ℕ) (heap : Heap) (table : List SharedBackend) :
    Idle (.initial clock heap table) where
  custody := .initial clock heap table
  known := by simp [PipelineState.initial, PipelineState.outstanding]
  pooled := by simp [PipelineState.initial]
  held := by simp [PipelineState.initial, PipelineState.held]
  offered := by simp [PipelineState.initial]

section Idle

variable {state next : PipelineState} {request : ℕ} {backend : SharedBackend} {conn : ConnId}

theorem Custody.known (custody : Custody state) (holds : state.held request = some conn) :
    state.openedTo conn ≠ none := by
  rcases Option.bind_eq_some_iff.mp holds with ⟨phase, running, sender⟩
  rw [custody.wired request phase conn running sender]
  exact Option.some_ne_none _

theorem Idle.offered_update (idle : Idle state) {after : Option Phase}
    (updated : next.requests = Function.update state.requests request after)
    (own : ∀ backend conn hasBody, after = some (.offering backend conn hasBody) →
      hasBody = false) :
    ∀ request backend conn hasBody,
      next.requests request = some (.offering backend conn hasBody) → hasBody = false := by
  have offered : ∀ other phase, next.requests other = some phase → ∀ backend conn hasBody,
      phase = .offering backend conn hasBody → hasBody = false := by
    refine forall_running_update updated ?_ ?_
    · rintro _ isAfter backend conn hasBody rfl
      exact own backend conn hasBody isAfter
    · rintro other _ running backend conn hasBody rfl
      exact idle.offered other backend conn hasBody running
  intro other backend conn hasBody running
  exact offered other _ running backend conn hasBody rfl

/-- A request moves on with a sender it already holds, and with no body but that
of its own response. -/
theorem Idle.of_fewer (idle : Idle state) (custody : Custody next) {after : Option Phase}
    (updated : next.requests = Function.update state.requests request after)
    (opened : ∀ conn, next.openedTo conn = state.openedTo conn) (pool : next.pool = state.pool)
    (senders : ∀ conn, after.bind Phase.sender = some conn → state.held request = some conn)
    (bodies : ∀ conn, after.bind Phase.body = some conn →
      state.outstanding request = some conn ∨ state.held request = some conn)
    (offers : ∀ backend conn hasBody, after = some (.offering backend conn hasBody) →
      hasBody = false) : Idle next := by
  refine ⟨custody, ?_, ?_, ?_, idle.offered_update updated offers⟩
  · intro other conn body
    rw [opened]
    rw [outstanding_update updated] at body
    split at body
    · rcases bodies conn body with before | holds
      · exact idle.known request conn before
      · exact idle.custody.known holds
    · exact idle.known other conn body
  · intro addr conn membership other body
    rw [pool] at membership
    rw [outstanding_update updated] at body
    split at body
    · rcases bodies conn body with before | holds
      · exact idle.pooled addr conn membership request before
      · exact idle.custody.apart request conn addr holds membership
    · exact idle.pooled addr conn membership other body
  · intro holder conn other holds body
    have heldBefore : state.held holder = some conn := by
      rw [held_update updated] at holds
      split at holds
      · next same =>
          rw [same]
          exact senders conn holds
      · exact holds
    rw [outstanding_update updated] at body
    split at body
    · next same =>
        rw [same]
        rcases bodies conn body with before | ownHolds
        · exact idle.held holder conn request heldBefore before
        · exact idle.custody.once request holder conn ownHolds heldBefore
    · exact idle.held holder conn other heldBefore body

/-- A request moves on without a sender, and with no body that was not outstanding. -/
theorem Idle.of_senderless (idle : Idle state) (custody : Custody next) {after : Option Phase}
    (updated : next.requests = Function.update state.requests request after)
    (opened : ∀ conn, next.openedTo conn = state.openedTo conn) (pool : next.pool = state.pool)
    (senderless : after.bind Phase.sender = none)
    (bodies : ∀ conn, after.bind Phase.body = some conn →
      state.outstanding request = some conn) : Idle next := by
  apply idle.of_fewer custody updated opened pool
  · rw [senderless]
    exact fun _ holds => absurd holds (Option.some_ne_none _).symm
  · exact fun conn body => .inl (bodies conn body)
  · rintro backend conn hasBody rfl
    cases senderless

/-- A request moves on without a body: the senders in the pool and the one it
then holds must have none of another request. -/
theorem Idle.of_bodiless (idle : Idle state) (custody : Custody next) {after : Option Phase}
    (updated : next.requests = Function.update state.requests request after)
    (bodiless : after.bind Phase.body = none)
    (opened : ∀ conn, state.openedTo conn ≠ none → next.openedTo conn ≠ none)
    (pooled : ∀ addr, ∀ conn ∈ next.pool addr, ∀ other ≠ request,
      state.outstanding other ≠ some conn)
    (held : ∀ conn, after.bind Phase.sender = some conn → ∀ other ≠ request,
      state.outstanding other ≠ some conn)
    (offers : ∀ backend conn hasBody, after = some (.offering backend conn hasBody) →
      hasBody = false) : Idle next := by
  have bodyBefore : ∀ other conn, next.outstanding other = some conn →
      other ≠ request ∧ state.outstanding other = some conn := by
    intro other conn body
    rw [outstanding_update updated] at body
    split at body
    · rw [bodiless] at body
      cases body
    · next different => exact ⟨different, body⟩
  refine ⟨custody, ?_, ?_, ?_, idle.offered_update updated offers⟩
  · intro other conn body
    exact opened conn (idle.known other conn (bodyBefore other conn body).2)
  · intro addr conn membership other body
    rcases bodyBefore other conn body with ⟨different, before⟩
    exact pooled addr conn membership other different before
  · intro holder conn other holds body
    rcases bodyBefore other conn body with ⟨different, before⟩
    rw [held_update updated] at holds
    split at holds
    · exact absurd before (held conn holds other different)
    · exact idle.held holder conn other holds before

theorem Idle.take (idle : Idle state) {queue : List ConnId}
    (queued : state.pool (state.heap backend).addr = conn :: queue) :
    Idle (state.take request backend conn queue) := by
  apply idle.of_bodiless (idle.custody.take queued) rfl rfl
  · exact fun _ known => known
  · intro addr pooled membership other _
    exact idle.pooled addr pooled (mem_pool_of_take queued membership) other
  · rintro _ ⟨⟩ other _
    apply idle.pooled (state.heap backend).addr
    rw [queued]
    exact List.mem_cons_self
  · rintro _ _ _ ⟨⟩

theorem Idle.openConn (idle : Idle state) (fresh : state.conns conn = none) :
    Idle (state.openConn request backend conn) := by
  apply idle.of_bodiless (idle.custody.openConn fresh) rfl rfl
  · intro other known
    rw [PipelineState.openedTo, PipelineState.openConn_conns, Function.update_apply]
    split
    · exact Option.some_ne_none _
    · exact known
  · intro addr pooled membership other _
    exact idle.pooled addr pooled membership other
  · rintro _ ⟨⟩ other _ body
    apply idle.known other conn body
    rw [PipelineState.openedTo, fresh]
    rfl
  · rintro _ _ _ ⟨⟩

theorem Idle.put (idle : Idle state) {hasBody : Bool}
    (running : state.requests request = some (.offering backend conn hasBody)) :
    Idle (state.put request backend conn hasBody) := by
  have holds : state.held request = some conn := by
    rw [PipelineState.held, running]
    rfl
  have bodiless := idle.offered request backend conn hasBody running
  subst bodiless
  apply idle.of_bodiless (idle.custody.put running) rfl rfl
  · exact fun _ known => known
  · intro addr pooled membership other different body
    rcases mem_pool_of_put membership with earlier | ⟨rfl, _⟩
    · exact idle.pooled addr pooled earlier other body
    · exact different (idle.held request pooled other holds body)
  · rintro _ ⟨⟩
  · rintro _ _ _ ⟨⟩

theorem Idle.step (idle : Idle state) {step : PipelineStep} (pushesIdle : PushesIdle state step)
    (stepped : pipelineStep state step = some next) : Idle next := by
  have custody := idle.custody.step stepped
  cases pipelineStep_effect stepped with
  | ambient clock table keeps =>
      exact ⟨custody, idle.known, idle.pooled, idle.held, idle.offered⟩
  | @closed conn connection known =>
      refine ⟨custody, ?_, idle.pooled, idle.held, idle.offered⟩
      intro request other body
      rw [PipelineState.openedTo, PipelineState.closeConn_conns, Function.update_apply]
      split
      · exact Option.some_ne_none _
      · exact idle.known request other body
  | started backend =>
      apply idle.of_senderless custody rfl (fun _ => rfl) rfl rfl
      rintro _ ⟨⟩
  | moved running move keeps =>
      apply idle.of_fewer custody rfl (fun _ => rfl) rfl
      · intro conn holds
        rw [PipelineState.held, running]
        exact move.sender_before holds
      · intro conn body
        rw [PipelineState.outstanding, PipelineState.held, running]
        exact (move.body_before body).imp_right And.left
      · rintro _ _ _ ⟨⟩
        cases move
  | took running queued => exact idle.take queued
  | opened running fresh => exact idle.openConn fresh
  | @offered request backend conn hasBody running isOpen =>
      have bodiless : hasBody = false := by
        cases hasBody with
        | false => rfl
        | true =>
            rw [pushesIdle backend conn running] at isOpen
            cases isOpen
      subst bodiless
      apply idle.of_fewer custody rfl (fun _ => rfl) rfl
      · rintro _ ⟨⟩
        rw [PipelineState.held, running]
        rfl
      · rintro _ ⟨⟩
      · rintro _ _ _ ⟨⟩
        rfl
  | pushed running => exact idle.put running
  | left running executing keeps =>
      apply idle.of_senderless custody rfl (fun _ => rfl) rfl rfl
      rintro _ ⟨⟩
  | returned rttMs running =>
      apply idle.of_senderless custody rfl (fun _ => rfl) rfl rfl
      rintro _ ⟨⟩
      rw [PipelineState.outstanding, running]
      rfl
  | relayed running =>
      apply idle.of_senderless custody rfl (fun _ => rfl) rfl rfl
      rintro _ ⟨⟩

end Idle

/-- In every run in which `push` finds the connection closed whenever the response
has a body, every pooled sender belongs to a connection with no body outstanding. -/
theorem pool_holds_idle {clock : ℕ} {heap : Heap} {table : List SharedBackend}
    {steps : List PipelineStep} {state : PipelineState}
    (runs : pipelineSystem.Runs PushesIdle (.initial clock heap table) steps state) :
    ∀ addr, ∀ conn ∈ state.pool addr, ∀ request, state.outstanding request ≠ some conn := by
  have idle : Idle state := by
    apply runs.invariant _ (Idle.initial clock heap table)
    intro state next step idle pushesIdle stepped
    exact idle.step pushesIdle stepped
  exact idle.pooled

/-- A response without a body is pushed idle. -/
theorem pool_holds_idle_bodiless :
    ∃ state, pipelineSystem.Runs PushesIdle singleBackend (firstExchange false) state ∧
      7 ∈ state.pool ⟨.v4 ⟨⟨127, 0, 0, 1⟩⟩, 8080⟩ ∧
      ∀ request, state.outstanding request ≠ some 7 := by
  obtain ⟨state, runs, pooled⟩ : ∃ state,
      pipelineSystem.Runs PushesIdle singleBackend (firstExchange false) state ∧
        7 ∈ state.pool ⟨.v4 ⟨⟨127, 0, 0, 1⟩⟩, 8080⟩ := by
    refine ⟨_, .cons trivial rfl (.cons trivial rfl (.cons trivial rfl (.cons trivial rfl
      (.cons trivial rfl (.cons trivial rfl (.cons ?_ rfl (.cons trivial rfl (.nil _)))))))), ?_⟩
    · rintro _ _ ⟨⟩
    · decide
  exact ⟨state, runs, pooled, pool_holds_idle runs _ 7 pooled⟩

/-- A response with a body: its sender is in the pool while the body is still to
be read. -/
theorem pool_holds_busy :
    ∃ state, pipelineSystem.run singleBackend (firstExchange true) = some state ∧
      7 ∈ state.pool ⟨.v4 ⟨⟨127, 0, 0, 1⟩⟩, 8080⟩ ∧ state.outstanding 0 = some 7 :=
  ⟨_, rfl, by decide, rfl⟩

end Vortex.Proxy
