import Vortex.Lib.Reader
import Vortex.Proxy.Sni

/-!
# Lookups beside updates

`get_certificate` makes up to three lookups: of the name, of its wildcard, of the default.
Certificates are registered, replaced and removed meanwhile, each in one step.

While a single entry is updated, as in a reload, a lookup answers what it would have
answered at one moment.  While several are, it may find none of them: a name that moves
from its wildcard to an entry of its own has a certificate at every moment, and a lookup
can still miss both.
-/

namespace Vortex.Proxy

open Lib

variable {β : Type}

/-- What a lookup reads. -/
inductive SniCell where
  | domain (name : Name)
  | default
  deriving DecidableEq

/-- The entries of a manager. -/
def SniCertificateManager.cells (manager : SniCertificateManager β) : SniCell → Option β
  | .domain name => manager.domains.lookup name
  | .default => manager.defaultBundle

/-- Code that reads entries. -/
abbrev Lookup (β : Type) := Reader SniCell (fun _ => Option β) (Option β)

/-- `guard.clone()` of the default bundle. -/
def loadDefault : Lookup β := .loads .default .ends

/-- `self.domains.get(&name)`; a bundle ends the lookup. -/
def loadDomain (name : Name) (otherwise : Lookup β) : Lookup β :=
  .loads (.domain name) fun found =>
    match found with
    | some bundle => .ends (some bundle)
    | none => otherwise

/-- `get_certificate`. -/
def loadCertificate (serverName : Name) : Lookup β :=
  let cleanName := serverName.toLowercase
  loadDomain cleanName
    (match cleanName.wildcard with
    | some wildcard => loadDomain wildcard loadDefault
    | none => loadDefault)

/-- The calls that change a manager, as a transition system. -/
def sniSystem : System (SniCertificateManager β) (SniCall β) where
  step manager call := some (manager.perform call)

/-- A manager and a lookup. -/
def lookupSystem :
    System (SniCertificateManager β × Lookup β) (Option (SniCall β)) :=
  sniSystem.beside SniCertificateManager.cells

/-- The entry that a call writes. -/
def SniCall.cell : SniCall β → SniCell
  | .setDefault _ => .default
  | .registerDomain domain _ => .domain domain.toLowercase
  | .removeDomain domain => .domain domain.toLowercase

/-- A call leaves the other entries alone. -/
theorem cells_perform_of_ne (manager : SniCertificateManager β) {call : SniCall β} {cell : SniCell}
    (other : cell ≠ call.cell) : (manager.perform call).cells cell = manager.cells cell := by
  cases call with
  | setDefault bundle =>
      cases cell with
      | domain name => rfl
      | default => exact absurd rfl other
  | registerDomain domain bundle =>
      cases cell with
      | domain name =>
          apply AList.lookup_insert_ne
          intro same
          exact other (congrArg SniCell.domain same)
      | default => rfl
  | removeDomain domain =>
      cases cell with
      | domain name =>
          apply AList.lookup_erase_ne
          intro same
          exact other (congrArg SniCell.domain same)
      | default => rfl

theorem cells_registerDomain (manager : SniCertificateManager β) (domain : Name) (bundle : β) :
    (manager.perform (.registerDomain domain bundle)).cells (.domain domain.toLowercase) =
      some bundle :=
  AList.lookup_insert _

theorem cells_removeDomain (manager : SniCertificateManager β) (domain : Name) :
    (manager.perform (.removeDomain domain)).cells (.domain domain.toLowercase) = none :=
  AList.lookup_erase _ _

/-! ## What a lookup answers at one moment -/

section AtOneMoment

variable {manager : SniCertificateManager β} {serverName wildcard : Name} {bundle : β}

theorem getCertificate_of_exact
    (found : manager.cells (.domain serverName.toLowercase) = some bundle) :
    manager.getCertificate serverName = some bundle := by
  rw [SniCertificateManager.cells] at found
  rw [SniCertificateManager.getCertificate_eq, found]
  rfl

theorem getCertificate_of_wildcard
    (noExact : manager.cells (.domain serverName.toLowercase) = none)
    (isWildcard : serverName.toLowercase.wildcard = some wildcard)
    (found : manager.cells (.domain wildcard) = some bundle) :
    manager.getCertificate serverName = some bundle := by
  rw [SniCertificateManager.cells] at noExact found
  rw [SniCertificateManager.getCertificate_eq, noExact, isWildcard, Option.bind_some, found]
  rfl

theorem getCertificate_of_default
    (noExact : manager.cells (.domain serverName.toLowercase) = none)
    (noWildcard : ∀ wildcard, serverName.toLowercase.wildcard = some wildcard →
      manager.cells (.domain wildcard) = none) :
    manager.getCertificate serverName = manager.cells .default := by
  rw [SniCertificateManager.cells] at noExact
  rw [SniCertificateManager.getCertificate_eq, noExact]
  cases isWildcard : serverName.toLowercase.wildcard with
  | none => rfl
  | some wildcard =>
      have missing := noWildcard wildcard isWildcard
      rw [SniCertificateManager.cells] at missing
      rw [Option.bind_some, missing]
      rfl

end AtOneMoment

/-! ## What a lookup can answer among updates -/

/-- How a lookup came to its answer, with the managers that its reads saw. -/
inductive Found (seen : SniCertificateManager β → Prop) (serverName : Name) : Option β → Prop where
  | exact {first : SniCertificateManager β} {bundle : β} (firstSeen : seen first)
      (found : first.cells (.domain serverName.toLowercase) = some bundle) :
      Found seen serverName (some bundle)
  | wildcard {first second : SniCertificateManager β} {bundle : β} {wildcard : Name}
      (firstSeen : seen first) (secondSeen : seen second)
      (noExact : first.cells (.domain serverName.toLowercase) = none)
      (isWildcard : serverName.toLowercase.wildcard = some wildcard)
      (found : second.cells (.domain wildcard) = some bundle) :
      Found seen serverName (some bundle)
  | fallback {first second third : SniCertificateManager β} (firstSeen : seen first)
      (secondSeen : seen second) (thirdSeen : seen third)
      (noExact : first.cells (.domain serverName.toLowercase) = none)
      (noWildcard : ∀ wildcard, serverName.toLowercase.wildcard = some wildcard →
        second.cells (.domain wildcard) = none) :
      Found seen serverName (third.cells .default)

theorem found_of_answers {seen : SniCertificateManager β → Prop} {serverName : Name}
    {answer : Option β}
    (answers : (loadCertificate serverName).Answers
      (fun store => ∃ manager, seen manager ∧ manager.cells = store) answer) :
    Found seen serverName answer := by
  rw [loadCertificate] at answers
  rcases answers with ⟨_, ⟨first, firstSeen, rfl⟩, rest⟩
  cases exact : first.cells (.domain serverName.toLowercase) with
  | some bundle =>
      rw [exact] at rest
      cases rest
      exact .exact firstSeen exact
  | none =>
      rw [exact] at rest
      cases isWildcard : serverName.toLowercase.wildcard with
      | none =>
          rw [isWildcard] at rest
          rcases rest with ⟨_, ⟨third, thirdSeen, rfl⟩, rfl⟩
          apply Found.fallback firstSeen firstSeen thirdSeen exact
          intro wildcard isSome
          rw [isWildcard] at isSome
          cases isSome
      | some wildcard =>
          rw [isWildcard] at rest
          rcases rest with ⟨_, ⟨second, secondSeen, rfl⟩, rest⟩
          cases covered : second.cells (.domain wildcard) with
          | some bundle =>
              rw [covered] at rest
              cases rest
              exact .wildcard firstSeen secondSeen exact isWildcard covered
          | none =>
              rw [covered] at rest
              rcases rest with ⟨_, ⟨third, thirdSeen, rfl⟩, rfl⟩
              apply Found.fallback firstSeen secondSeen thirdSeen exact
              intro other isSome
              cases isWildcard.symm.trans isSome
              exact covered

/-- While one entry is written, a lookup finds what was there at one moment. -/
theorem Found.atOneMoment {seen : SniCertificateManager β → Prop} {serverName : Name}
    {answer : Option β} (found : Found seen serverName answer) {written : SniCell}
    (agree : ∀ {first second : SniCertificateManager β} {cell : SniCell}, seen first → seen second →
      cell ≠ written → first.cells cell = second.cells cell) :
    ∃ manager, seen manager ∧ manager.getCertificate serverName = answer := by
  cases found with
  | exact firstSeen found => exact ⟨_, firstSeen, getCertificate_of_exact found⟩
  | @wildcard first second bundle wildcard firstSeen secondSeen noExact isWildcard found =>
      by_cases exactWritten : .domain serverName.toLowercase = written
      · by_cases same : wildcard = serverName.toLowercase
        · subst same
          exact ⟨second, secondSeen, getCertificate_of_exact found⟩
        · -- The wildcard was there already when the name was not.
          have other : .domain wildcard ≠ written := by
            rw [← exactWritten]
            exact fun equal => same (SniCell.domain.inj equal)
          exact ⟨first, firstSeen, getCertificate_of_wildcard noExact isWildcard
            ((agree firstSeen secondSeen other).trans found)⟩
      · exact ⟨second, secondSeen, getCertificate_of_wildcard
          ((agree secondSeen firstSeen exactWritten).trans noExact) isWildcard found⟩
  | @fallback first second third firstSeen secondSeen thirdSeen noExact noWildcard =>
      cases written with
      | default =>
          refine ⟨third, thirdSeen, getCertificate_of_default ?_ ?_⟩
          · exact (agree thirdSeen firstSeen (by nofun)).trans noExact
          · intro wildcard isWildcard
            exact (agree thirdSeen secondSeen (by nofun)).trans (noWildcard wildcard isWildcard)
      | domain name =>
          -- The default is the same throughout, so the moment is that of a name's lookup.
          have unchanged {manager : SniCertificateManager β} (managerSeen : seen manager) :
              manager.cells .default = third.cells .default :=
            agree managerSeen thirdSeen nofun
          by_cases exactWritten : serverName.toLowercase = name
          · refine ⟨first, firstSeen, (getCertificate_of_default noExact ?_).trans
              (unchanged firstSeen)⟩
            intro wildcard isWildcard
            by_cases same : wildcard = name
            · rw [same, ← exactWritten]
              exact noExact
            · have other : SniCell.domain wildcard ≠ .domain name :=
                fun equal => same (SniCell.domain.inj equal)
              exact (agree firstSeen secondSeen other).trans (noWildcard wildcard isWildcard)
          · have other : SniCell.domain serverName.toLowercase ≠ .domain name :=
              fun equal => exactWritten (SniCell.domain.inj equal)
            exact ⟨second, secondSeen, (getCertificate_of_default
              ((agree secondSeen firstSeen other).trans noExact) noWildcard).trans
              (unchanged secondSeen)⟩

/-- Calls that write one entry leave the others as they were. -/
theorem cells_of_run {start manager : SniCertificateManager β} {calls : List (SniCall β)}
    (reached : sniSystem.run start calls = some manager) {written cell : SniCell}
    (single : ∀ call ∈ calls, call.cell = written) (other : cell ≠ written) :
    manager.cells cell = start.cells cell := by
  induction calls generalizing start with
  | nil =>
      cases reached
      rfl
  | cons call calls ih =>
      rcases List.forall_mem_cons.mp single with ⟨first, rest⟩
      have stepped : manager.cells cell = (start.perform call).cells cell := ih reached rest
      rw [stepped]
      apply cells_perform_of_ne
      rw [first]
      exact other

/-- **A reload is seen before or after.** A lookup during which only one entry is written,
however often, answers what it would have answered at one moment. -/
theorem lookup_during_reload {start final : SniCertificateManager β} {serverName : Name}
    {steps : List (Option (SniCall β))} {answer : Option β}
    (executed : lookupSystem.run (start, loadCertificate serverName) steps =
      some (final, .ends answer)) {written : SniCell}
    (single : ∀ call ∈ steps.reduceOption, call.cell = written) :
    ∃ manager, sniSystem.Visits start steps.reduceOption manager ∧
      manager.getCertificate serverName = answer := by
  have found := found_of_answers (System.answers_of_beside executed)
  have fixed {manager : SniCertificateManager β} {cell : SniCell}
      (visits : sniSystem.Visits start steps.reduceOption manager) (other : cell ≠ written) :
      manager.cells cell = start.cells cell := by
    rcases visits with ⟨earlier, later, parts, reached⟩
    apply cells_of_run reached _ other
    intro call member
    apply single
    rw [parts]
    exact List.mem_append_left _ member
  apply found.atOneMoment
  intro first second cell firstVisited secondVisited other
  exact (fixed firstVisited other).trans (fixed secondVisited other).symm

/-- A lookup that misses the name, and then the wildcard because the two calls come in
between. -/
theorem run_missed {start : SniCertificateManager β} {serverName pattern : Name}
    (noExact : start.cells (.domain serverName.toLowercase) = none)
    (covers : serverName.toLowercase.wildcard = some pattern.toLowercase) (bundle : β) :
    lookupSystem.run (start, loadCertificate serverName)
        [none, some (.registerDomain serverName bundle), some (.removeDomain pattern), none, none] =
      some ((start.perform (.registerDomain serverName bundle)).perform (.removeDomain pattern),
        .ends start.defaultBundle) := by
  have first : lookupSystem.step (start, loadCertificate serverName) none =
      some (start, loadDomain pattern.toLowercase loadDefault) := by
    rw [loadCertificate, covers]
    simp only [lookupSystem, System.beside, loadDomain, noExact]
  have second (manager : SniCertificateManager β) :
      lookupSystem.step (manager.perform (.removeDomain pattern),
          loadDomain pattern.toLowercase loadDefault) none =
        some (manager.perform (.removeDomain pattern), loadDefault) := by
    simp only [lookupSystem, System.beside, loadDomain, cells_removeDomain]
  rw [System.run_cons first, System.run_cons rfl, System.run_cons rfl, System.run_cons (second _)]
  rfl

/-- **A name that moves can be missed.** When a name that its wildcard covers gets an entry
of its own and the wildcard is then removed, a lookup can fall back to the default,
although at every moment the name has one certificate or the other. -/
theorem moving_name_missed {start : SniCertificateManager β} {serverName pattern : Name} {old : β}
    (noExact : start.cells (.domain serverName.toLowercase) = none)
    (covers : serverName.toLowercase.wildcard = some pattern.toLowercase)
    (registered : start.cells (.domain pattern.toLowercase) = some old) (bundle : β) :
    ∃ steps final,
      steps.reduceOption = [.registerDomain serverName bundle, .removeDomain pattern] ∧
      lookupSystem.run (start, loadCertificate serverName) steps =
        some (final, .ends start.defaultBundle) ∧
      ∀ manager, sniSystem.Visits start steps.reduceOption manager →
        manager.getCertificate serverName = some old ∨
          manager.getCertificate serverName = some bundle := by
  have different : SniCell.domain serverName.toLowercase ≠ .domain pattern.toLowercase := by
    intro same
    rw [same, registered] at noExact
    cases noExact
  refine ⟨_, _, rfl, run_missed noExact covers bundle, ?_⟩
  intro manager visits
  rcases visits with ⟨earlier, later, parts, reached⟩
  change [SniCall.registerDomain serverName bundle, .removeDomain pattern] = earlier ++ later
    at parts
  cases earlier with
  | nil =>
      cases reached
      exact .inl (getCertificate_of_wildcard noExact covers registered)
  | cons call calls =>
      rcases List.cons.inj parts with ⟨rfl, remaining⟩
      apply Or.inr
      apply getCertificate_of_exact
      cases calls with
      | nil =>
          cases reached
          exact cells_registerDomain start serverName bundle
      | cons other calls =>
          rcases List.cons.inj remaining with ⟨rfl, nothing⟩
          rw [(List.append_eq_nil_iff.mp nothing.symm).1] at reached
          cases reached
          rw [cells_perform_of_ne _ different]
          exact cells_registerDomain start serverName bundle

/-- `api.example.com`, and the wildcard that covers it. -/
def apiExampleCom : Name :=
  ⟨['a', 'p', 'i', '.', 'e', 'x', 'a', 'm', 'p', 'l', 'e', '.', 'c', 'o', 'm'], by simp⟩

def anyExampleCom : Name :=
  ⟨['*', '.', 'e', 'x', 'a', 'm', 'p', 'l', 'e', '.', 'c', 'o', 'm'], by simp⟩

/-- A manager that knows the wildcard only. -/
def wildcardOnly : SniCertificateManager ℕ := runSni [.registerDomain anyExampleCom 1]

/-- The name gets an entry after it was looked up; the lookup answers as before. -/
theorem lookup_during_reload_registered :
    ∃ final, lookupSystem.run (wildcardOnly, loadCertificate apiExampleCom)
        [none, some (.registerDomain apiExampleCom 2), none] = some (final, .ends (some 1)) ∧
      ∃ manager, sniSystem.Visits wildcardOnly [.registerDomain apiExampleCom 2] manager ∧
        manager.getCertificate apiExampleCom = some 1 := by
  have ends : (lookupSystem.run (wildcardOnly, loadCertificate apiExampleCom)
      [none, some (.registerDomain apiExampleCom 2), none]).map
        (fun state => state.2.answered) = some (some (some 1)) := by
    decide +kernel
  rcases Option.map_eq_some_iff.mp ends with ⟨⟨final, lookup⟩, executed, ended⟩
  cases Reader.eq_ends_of_answered ended
  have single : ∀ call ∈ [SniCall.registerDomain apiExampleCom 2],
      call.cell = .domain apiExampleCom.toLowercase := by
    intro call member
    cases List.mem_singleton.mp member
    exact rfl
  exact ⟨final, executed, lookup_during_reload executed single⟩

/-- A lookup that finds no certificate, without a default. -/
theorem moving_name_missed_api :
    ∃ steps final,
      steps.reduceOption = [.registerDomain apiExampleCom 2, .removeDomain anyExampleCom] ∧
      lookupSystem.run (wildcardOnly, loadCertificate apiExampleCom) steps =
        some (final, .ends none) := by
  have noExact : wildcardOnly.cells (.domain apiExampleCom.toLowercase) = none := by
    decide +kernel
  have covers : apiExampleCom.toLowercase.wildcard = some anyExampleCom.toLowercase := by
    decide +kernel
  have registered : wildcardOnly.cells (.domain anyExampleCom.toLowercase) = some 1 := by
    decide +kernel
  rcases moving_name_missed noExact covers registered 2 with ⟨steps, final, calls, executed, _⟩
  exact ⟨steps, final, calls, executed⟩

end Vortex.Proxy
