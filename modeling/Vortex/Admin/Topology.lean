import Vortex.Admin.Watcher
import Vortex.Lib.History

/-!
# The topology in the table

Any number of watch events, mixed with requests and probes.  The table always shows
the entries of the latest event that has any, in their order; a watch error and an
event without entries change nothing.  An entry whose address does not parse is not
left out: it becomes a backend at `127.0.0.1:80`.
-/

namespace Vortex.Admin

open Vortex.Core Lib Proxy

/-- A step of the proxy with its watcher: an event of the watch stream, or an action
of a request or a probe. -/
inductive TopologyStep where
  | event (base : SharedBackend) (event : Except String VortexRouteSpec)
  | traffic (step : ForwardStep)

/-- The proxy with its watcher. -/
def topologySystem (parse : String → Option SocketAddr) : System ForwardState TopologyStep where
  step state
    | .event base event => some (handleEvent parse base state event)
    | .traffic step => forwardStep state step

/-- The step is an event that swaps the table. -/
def TopologyStep.swaps : TopologyStep → Bool
  | .event _ (.ok spec) => !spec.backends.isEmpty
  | .event _ (.error _) => false
  | .traffic _ => false

/-- The step is no other writer of the table. -/
def TopologyStep.fromWatcher : TopologyStep → Bool
  | .event _ _ => true
  | .traffic step => keepsTable step

/-- A backend is what an entry of the specification says, at the parsed address or at
the fallback. -/
def Translates (parse : String → Option SocketAddr) (entry : VortexBackendMap)
    (backend : Backend) : Prop :=
  backend.id = ⟨entry.id⟩ ∧ backend.addr = (parse entry.address).getD fallbackAddr ∧
    backend.aiModels.Perm (entry.aiModels.getD [])

section Translation

variable {parse : String → Option SocketAddr}

theorem translates_build (entry : VortexBackendMap) :
    Translates parse entry (entry.build parse) :=
  ⟨rfl, rfl, List.mergeSort_perm _ _⟩

theorem Translates.of_configured {entry : VortexBackendMap} {first second : Backend}
    (translates : Translates parse entry first) (same : configured second = configured first) :
    Translates parse entry second := by
  simp only [configured, Prod.mk.injEq] at same
  rcases same with ⟨id, addr, aiModels⟩
  rwa [Translates, id, addr, aiModels]

/-- Backends configured as those built for some entries translate them. -/
theorem forall₂_translates {maps : List VortexBackendMap} {backends : List Backend}
    (same : backends.map configured = (maps.map (·.build parse)).map configured) :
    List.Forall₂ (Translates parse) maps backends := by
  induction maps generalizing backends with
  | nil =>
      rw [List.map_eq_nil_iff.mp same]
      exact .nil
  | cons entry maps ih =>
      rcases List.map_eq_cons_iff.mp same with ⟨backend, rest, rfl, first, others⟩
      exact .cons ((translates_build entry).of_configured first) (ih others)

/-- An event that does not swap leaves everything as it was. -/
theorem handleEvent_of_not_swaps {base : SharedBackend} {event : Except String VortexRouteSpec}
    (kept : (TopologyStep.event base event).swaps = false) (state : ForwardState) :
    handleEvent parse base state event = state := by
  cases event with
  | error message => rfl
  | ok spec =>
      simp only [TopologyStep.swaps, Bool.not_eq_false', List.isEmpty_iff] at kept
      simp [handleEvent, VortexRouteSpec.build, kept]

theorem configured_topologyStep {state next : ForwardState} {step : TopologyStep}
    (fromWatcher : step.fromWatcher = true) (kept : step.swaps = false)
    (stepped : (topologySystem parse).step state step = some next) :
    (entries next).map configured = (entries state).map configured := by
  cases step with
  | traffic step => exact configured_entries_step fromWatcher stepped
  | event base event =>
      cases stepped
      rw [handleEvent_of_not_swaps kept]

theorem configured_topologyRun {start state : ForwardState} {steps : List TopologyStep}
    (runs : (topologySystem parse).Runs
      (fun _ step => step.fromWatcher = true ∧ step.swaps = false) start steps state) :
    (entries state).map configured = (entries start).map configured := by
  induction runs with
  | nil => rfl
  | cons allowed stepped _ ih =>
      exact ih.trans (configured_topologyStep allowed.1 allowed.2 stepped)

end Translation

/-- After any run without another writer, the table shows the entries of the latest
event that has any: their ids, the addresses they parse to or else `127.0.0.1:80`, and
their models up to order.  Errors and events without entries leave the state exactly
as it was. -/
theorem topology_translated {parse : String → Option SocketAddr} {start state : ForwardState}
    {steps : List TopologyStep} (executed : (topologySystem parse).run start steps = some state)
    (noOtherWriter : ∀ step ∈ steps, step.fromWatcher = true) :
    (∀ base spec, Latest (fun step => step.swaps = true) steps (.event base (.ok spec)) →
        List.Forall₂ (Translates parse) spec.backends (entries state)) ∧
      ∀ base (before : ForwardState) event, (TopologyStep.event base event).swaps = false →
        handleEvent parse base before event = before := by
  constructor
  · intro base spec latest
    rcases latest with ⟨earlier, later, rfl, swaps, silent⟩
    rw [System.run_append, Option.bind_eq_some_iff] at executed
    rcases executed with ⟨before, _, rest⟩
    rw [System.run_cons rfl] at rest
    have runs : (topologySystem parse).Runs
        (fun _ step => step.fromWatcher = true ∧ step.swaps = false)
        (handleEvent parse base before (.ok spec)) later state := by
      apply System.Runs.of_run_allowed rest
      intro step membership
      refine ⟨noOtherWriter step (by simp [membership]), ?_⟩
      exact Bool.eq_false_of_not_eq_true (silent step membership)
    have nonempty : spec.backends ≠ [] := by simpa [TopologyStep.swaps] using swaps
    have shown := configured_topologyRun runs
    rw [entries_handleEvent nonempty] at shown
    exact forall₂_translates shown
  · intro base before event kept
    exact handleEvent_of_not_swaps kept before

/-- The two local backends, then a watch error: the table shows the two. -/
theorem topology_translated_local :
    List.Forall₂ (Translates parseLocal) twoBackends.backends (entries twoBackendsBuilt) :=
  (@topology_translated parseLocal (.initial 100 (fun _ => Backend.new ⟨0⟩ fallbackAddr) [])
    twoBackendsBuilt [.event 0 (.ok twoBackends), .event 2 (.error "gone")] rfl (by decide)).1 0
    twoBackends ⟨[], _, rfl, rfl, by decide⟩

/-- A host name does not parse, and yields a backend at `127.0.0.1:80`. -/
theorem topology_unparsable :
    parseLocal "backend.svc:8080" = none ∧
      (entries (handleEvent parseLocal 0
        (.initial 100 (fun _ => Backend.new ⟨0⟩ fallbackAddr) [])
        (.ok ⟨[⟨7, "backend.svc:8080", none⟩]⟩))).map configured = [(⟨7⟩, fallbackAddr, [])] := by
  decide +kernel

end Vortex.Admin
