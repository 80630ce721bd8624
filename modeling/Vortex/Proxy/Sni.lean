import Vortex.Lib.History
import Mathlib.Data.List.AList
import Mathlib.Data.List.Induction
import Mathlib.Data.Set.Card

/-!
# SNI certificates

`SniCertificateManager` files certificate bundles under lower-case domain names
and answers a server name with the bundle of that name, of the wildcard one label
up, or with the default.

Names are ASCII, so `to_lowercase` works character by character and byte indices
are character indices.  The manager never looks into a bundle, so their type is a
parameter.  What a lookup should answer is said in terms of the calls made so
far, without the map.
-/

namespace Vortex.Proxy

open Lib

/-! ## Names -/

/-- An ASCII name. -/
@[ext] structure Name where
  chars : List Char
  ascii : ∀ char ∈ chars, char.toNat < 128
  deriving DecidableEq

/-- What is checked for the first 128 code points holds of every ASCII
character. -/
theorem forall_ascii {property : Char → Prop} (checked : ∀ code < 128, property (Char.ofNat code))
    {char : Char} (ascii : char.toNat < 128) : property char := by
  have holds := checked char.toNat ascii
  rwa [Char.ofNat_toNat] at holds

theorem toNat_toLower_lt {char : Char} (ascii : char.toNat < 128) : char.toLower.toNat < 128 := by
  apply forall_ascii _ ascii
  decide

theorem toLower_eq_dot_iff {char : Char} (ascii : char.toNat < 128) :
    char.toLower = '.' ↔ char = '.' := by
  apply forall_ascii _ ascii
  decide

namespace Name

/-- `to_lowercase`. -/
def toLowercase (name : Name) : Name where
  chars := name.chars.map Char.toLower
  ascii := by
    intro char membership
    rcases List.mem_map.mp membership with ⟨original, present, rfl⟩
    exact toNat_toLower_lt (name.ascii original present)

/-- `*` followed by the name from its first dot on, if it has one. -/
def wildcard (cleanName : Name) : Option Name :=
  match cleanName.chars.findIdx? (· == '.') with
  | none => none
  | some dotIdx =>
      some {
        chars := '*' :: cleanName.chars.drop dotIdx
        ascii := by
          intro char membership
          rcases List.mem_cons.mp membership with rfl | rest
          · decide
          · exact cleanName.ascii char (List.mem_of_mem_drop rest) }

end Name

/-! ## The manager -/

variable {β : Type*}

/-- How names are handled: `to_lowercase`, and the wildcard of a name. -/
structure NameRules (ν : Type*) where
  toLowercase : ν → ν
  wildcard : ν → Option ν

/-- `SniCertificateManager` for names of any type. -/
structure CertificateManager (ν β : Type*) where
  domains : AList fun _ : ν => β
  defaultBundle : Option β

namespace CertificateManager

variable {ν : Type*}

/-- `SniCertificateManager::new`. -/
def new : CertificateManager ν β where
  domains := ∅
  defaultBundle := none

/-- `set_default`. -/
def setDefault (manager : CertificateManager ν β) (bundle : β) : CertificateManager ν β :=
  { manager with defaultBundle := some bundle }

/-- `domain_count`. -/
def domainCount (manager : CertificateManager ν β) : ℕ := manager.domains.keys.length

variable [DecidableEq ν] (rules : NameRules ν) (manager : CertificateManager ν β)

/-- `register_domain`. -/
def registerDomain (domain : ν) (bundle : β) : CertificateManager ν β :=
  { manager with domains := manager.domains.insert (rules.toLowercase domain) bundle }

/-- `remove_domain`, with its answer. -/
def removeDomain (domain : ν) : CertificateManager ν β × Bool :=
  ({ manager with domains := manager.domains.erase (rules.toLowercase domain) },
    (manager.domains.lookup (rules.toLowercase domain)).isSome)

/-- `get_certificate`: the exact name, its wildcard, the default. -/
def getCertificate (serverName : ν) : Option β :=
  let cleanName := rules.toLowercase serverName
  manager.domains.lookup cleanName
    <|> (rules.wildcard cleanName).bind (fun wildcard => manager.domains.lookup wildcard)
    <|> manager.defaultBundle

end CertificateManager

/-- The rules of ASCII names. -/
def Name.rules : NameRules Name := ⟨Name.toLowercase, Name.wildcard⟩

/-- The manager of ASCII names. -/
abbrev SniCertificateManager (β : Type*) := CertificateManager Name β

namespace SniCertificateManager

variable (manager : SniCertificateManager β)

@[inherit_doc CertificateManager.registerDomain]
def registerDomain (domain : Name) (bundle : β) : SniCertificateManager β :=
  CertificateManager.registerDomain Name.rules manager domain bundle

@[inherit_doc CertificateManager.removeDomain]
def removeDomain (domain : Name) : SniCertificateManager β × Bool :=
  CertificateManager.removeDomain Name.rules manager domain

@[inherit_doc CertificateManager.getCertificate]
def getCertificate (serverName : Name) : Option β :=
  CertificateManager.getCertificate Name.rules manager serverName

theorem getCertificate_eq (serverName : Name) :
    manager.getCertificate serverName =
      (manager.domains.lookup serverName.toLowercase
        <|> serverName.toLowercase.wildcard.bind (fun wildcard => manager.domains.lookup wildcard)
        <|> manager.defaultBundle) :=
  rfl

end SniCertificateManager

/-- A call that changes the manager. -/
inductive SniCall (β : Type*) where
  | setDefault (bundle : β)
  | registerDomain (domain : Name) (bundle : β)
  | removeDomain (domain : Name)
  deriving DecidableEq

/-- Perform a call. -/
def SniCertificateManager.perform (manager : SniCertificateManager β) :
    SniCall β → SniCertificateManager β
  | .setDefault bundle => manager.setDefault bundle
  | .registerDomain domain bundle => manager.registerDomain domain bundle
  | .removeDomain domain => (manager.removeDomain domain).1

/-- A new manager after a sequence of calls. -/
def runSni (history : List (SniCall β)) : SniCertificateManager β :=
  history.foldl SniCertificateManager.perform CertificateManager.new

@[simp] theorem runSni_concat (history : List (SniCall β)) (call : SniCall β) :
    runSni (history ++ [call]) = (runSni history).perform call := by
  simp [runSni]

/-! ## What a history of calls means -/

/-- Two names are equal ignoring case. -/
def SameIgnoringCase (first second : Name) : Prop := first.toLowercase = second.toLowercase

/-- The call registers or removes a domain equal to the name ignoring case. -/
def SniCall.Concerns (name : Name) : SniCall β → Prop
  | .setDefault _ => False
  | .registerDomain domain _ => SameIgnoringCase domain name
  | .removeDomain domain => SameIgnoringCase domain name

/-- The call sets the default. -/
def SniCall.SetsDefault : SniCall β → Prop
  | .setDefault _ => True
  | _ => False

/-- The bundle is that of the latest registration, not removed since, of a domain
equal to the name ignoring case. -/
def Registered (history : List (SniCall β)) (name : Name) (bundle : β) : Prop :=
  ∃ domain, Latest (SniCall.Concerns name) history (.registerDomain domain bundle)

/-- The bundle is that of the latest default. -/
def DefaultIs (history : List (SniCall β)) (bundle : β) : Prop :=
  Latest SniCall.SetsDefault history (.setDefault bundle)

/-- The pattern is `*.` followed by what the name has after its first label. -/
def Covers (pattern name : Name) : Prop :=
  ∃ label rest, name.chars = label ++ '.' :: rest ∧ '.' ∉ label ∧
    pattern.chars = '*' :: '.' :: rest

/-- What a lookup should answer: the bundle registered for the name; failing that,
the one registered for the pattern that covers it; failing both, the default. -/
inductive Certified (history : List (SniCall β)) (name : Name) : β → Prop where
  | exact {bundle : β} (registered : Registered history name bundle) : Certified history name bundle
  | wildcard {bundle : β} {pattern : Name} (noExact : ∀ other, ¬Registered history name other)
      (covers : Covers pattern name) (registered : Registered history pattern bundle) :
      Certified history name bundle
  | fallback {bundle : β} (noExact : ∀ other, ¬Registered history name other)
      (noWildcard : ∀ pattern other, Covers pattern name → ¬Registered history pattern other)
      (isDefault : DefaultIs history bundle) : Certified history name bundle

/-! ## Wildcards -/

section Wildcard

variable {pattern name : Name}

theorem dot_not_mem_map_toLower {label : List Char} (ascii : ∀ char ∈ label, char.toNat < 128)
    (noDot : '.' ∉ label) : ∀ char ∈ label.map Char.toLower, (char == '.') = false := by
  intro char membership
  rcases List.mem_map.mp membership with ⟨original, present, rfl⟩
  apply beq_false_of_ne
  rw [Ne, toLower_eq_dot_iff (ascii original present)]
  rintro rfl
  exact noDot present

/-- The wildcard looked up for a name is the pattern that covers it. -/
theorem Covers.wildcard (covers : Covers pattern name) :
    name.toLowercase.wildcard = some pattern.toLowercase := by
  rcases covers with ⟨label, rest, split, noDot, isPattern⟩
  have ascii : ∀ char ∈ label, char.toNat < 128 := by
    intro char membership
    apply name.ascii
    rw [split]
    exact List.mem_append_left _ membership
  have found : name.toLowercase.chars.findIdx? (· == '.') = some label.length := by
    change (name.chars.map Char.toLower).findIdx? (· == '.') = some label.length
    rw [split, List.map_append, List.findIdx?_append,
      List.findIdx?_eq_none_iff.mpr (dot_not_mem_map_toLower ascii noDot)]
    simp [List.findIdx?_cons]
  have chars : name.toLowercase.chars.drop label.length = '.' :: rest.map Char.toLower := by
    change (name.chars.map Char.toLower).drop label.length = '.' :: rest.map Char.toLower
    rw [split, List.map_append, List.drop_left' (List.length_map _)]
    rfl
  simp only [Name.wildcard, found, Option.some.injEq]
  apply Name.ext
  change '*' :: name.toLowercase.chars.drop label.length = pattern.chars.map Char.toLower
  rw [chars, isPattern]
  rfl

/-- A name without a dot has no wildcard. -/
theorem wildcard_eq_none (noDot : '.' ∉ name.chars) : name.toLowercase.wildcard = none := by
  have absent : name.toLowercase.chars.findIdx? (· == '.') = none :=
    List.findIdx?_eq_none_iff.mpr (dot_not_mem_map_toLower name.ascii noDot)
  simp [Name.wildcard, absent]

/-- A name with a dot is covered by a pattern. -/
theorem exists_covers (dot : '.' ∈ name.chars) : ∃ pattern, Covers pattern name := by
  rcases List.eq_append_cons_of_mem dot with ⟨label, rest, split, noDot⟩
  refine ⟨⟨'*' :: '.' :: rest, ?_⟩, label, rest, split, noDot, rfl⟩
  intro char membership
  rcases List.mem_cons.mp membership with rfl | later
  · decide
  · apply name.ascii
    rw [split]
    exact List.mem_append_right _ later

end Wildcard

/-! ## The manager holds what the history means -/

section History

variable {history : List (SniCall β)} {call : SniCall β} {name : Name} {bundle : β}

theorem registered_concat_of_concerns (related : call.Concerns name) :
    Registered (history ++ [call]) name bundle ↔
      ∃ domain, SniCall.registerDomain domain bundle = call :=
  exists_congr fun _ => latest_concat_of_concerns related

theorem registered_concat_of_not_concerns (unrelated : ¬call.Concerns name) :
    Registered (history ++ [call]) name bundle ↔ Registered history name bundle :=
  exists_congr fun _ => latest_concat_of_not_concerns unrelated

theorem lookup_domains :
    (runSni history).domains.lookup name.toLowercase = some bundle ↔
      Registered history name bundle := by
  induction history using List.reverseRecOn with
  | nil => simp [runSni, CertificateManager.new, Registered, not_latest_nil]
  | append_singleton history call ih =>
      rw [runSni_concat]
      cases call with
      | setDefault default =>
          have unrelated : ¬(SniCall.setDefault default).Concerns name := id
          rw [registered_concat_of_not_concerns unrelated, ← ih]
          rfl
      | registerDomain domain registered =>
          change ((runSni history).domains.insert domain.toLowercase registered).lookup _ = _ ↔ _
          by_cases related : (SniCall.registerDomain domain registered).Concerns name
          · have same : domain.toLowercase = name.toLowercase := related
            rw [registered_concat_of_concerns related, same, AList.lookup_insert]
            simp [eq_comm]
          · have different : name.toLowercase ≠ domain.toLowercase := fun same => related same.symm
            rw [registered_concat_of_not_concerns related, AList.lookup_insert_ne different, ih]
      | removeDomain domain =>
          change ((runSni history).domains.erase domain.toLowercase).lookup _ = _ ↔ _
          by_cases related : (SniCall.removeDomain domain : SniCall β).Concerns name
          · have same : domain.toLowercase = name.toLowercase := related
            rw [registered_concat_of_concerns related, same, AList.lookup_erase]
            simp
          · have different : name.toLowercase ≠ domain.toLowercase := fun same => related same.symm
            rw [registered_concat_of_not_concerns related, AList.lookup_erase_ne different, ih]

theorem lookup_domains_eq_none :
    (runSni history).domains.lookup name.toLowercase = none ↔
      ∀ other, ¬Registered history name other := by
  rw [Option.eq_none_iff_forall_ne_some]
  apply forall_congr'
  intro other
  rw [Ne, lookup_domains]

theorem defaultBundle_eq_some :
    (runSni history).defaultBundle = some bundle ↔ DefaultIs history bundle := by
  induction history using List.reverseRecOn with
  | nil => simp [runSni, CertificateManager.new, DefaultIs, not_latest_nil]
  | append_singleton history call ih =>
      rw [runSni_concat]
      cases call with
      | setDefault default =>
          change some default = some bundle ↔ Latest _ _ _
          rw [latest_concat_of_concerns trivial]
          simp [eq_comm]
      | registerDomain domain registered =>
          change (runSni history).defaultBundle = some bundle ↔ Latest _ _ _
          rw [latest_concat_of_not_concerns id, ih, DefaultIs]
      | removeDomain domain =>
          change (runSni history).defaultBundle = some bundle ↔ Latest _ _ _
          rw [latest_concat_of_not_concerns id, ih, DefaultIs]

/-- Every key is a domain in lower case. -/
theorem key_of_mem_domains {key : Name} (present : key ∈ (runSni history).domains) :
    ∃ domain : Name, domain.toLowercase = key := by
  induction history using List.reverseRecOn with
  | nil => simp [runSni, CertificateManager.new] at present
  | append_singleton history call ih =>
      rw [runSni_concat] at present
      cases call with
      | setDefault default => exact ih present
      | registerDomain domain registered =>
          change key ∈ (runSni history).domains.insert domain.toLowercase registered at present
          rcases (AList.mem_insert _).mp present with rfl | earlier
          · exact ⟨domain, rfl⟩
          · exact ih earlier
      | removeDomain domain =>
          change key ∈ (runSni history).domains.erase domain.toLowercase at present
          exact ih (AList.mem_erase.mp present).2

theorem mem_domains_iff {key : Name} :
    key ∈ (runSni history).domains ↔
      ∃ domain bundle, domain.toLowercase = key ∧ Registered history domain bundle := by
  constructor
  · intro present
    rcases key_of_mem_domains present with ⟨domain, rfl⟩
    rcases Option.isSome_iff_exists.mp (AList.lookup_isSome.mpr present) with ⟨bundle, found⟩
    exact ⟨domain, bundle, rfl, lookup_domains.mp found⟩
  · intro registered
    rcases registered with ⟨domain, bundle, rfl, latest⟩
    apply AList.lookup_isSome.mp
    rw [lookup_domains.mpr latest]
    rfl

end History

section Lookup

variable {history : List (SniCall β)} {name : Name} {bundle : β}

/-- What is looked up under the wildcard of a name is what is registered for the
pattern that covers it. -/
theorem lookup_wildcard :
    (name.toLowercase.wildcard.bind fun wildcard => (runSni history).domains.lookup wildcard) =
        some bundle ↔
      ∃ pattern, Covers pattern name ∧ Registered history pattern bundle := by
  by_cases dot : '.' ∈ name.chars
  · rcases exists_covers dot with ⟨pattern, covers⟩
    rw [covers.wildcard, Option.bind_some, lookup_domains]
    constructor
    · intro registered
      exact ⟨pattern, covers, registered⟩
    · intro registered
      rcases registered with ⟨other, otherCovers, registered⟩
      have same := covers.wildcard.symm.trans otherCovers.wildcard
      rw [← lookup_domains, Option.some.inj same, lookup_domains]
      exact registered
  · rw [wildcard_eq_none dot, Option.bind_none]
    constructor
    · intro found
      cases found
    · intro registered
      rcases registered with ⟨pattern, ⟨label, rest, split, _⟩, _⟩
      apply absurd _ dot
      rw [split]
      simp

theorem getCertificate_eq_some :
    (runSni history).getCertificate name = some bundle ↔ Certified history name bundle := by
  rw [SniCertificateManager.getCertificate_eq, Option.orElse_eq_some, Option.orElse_eq_some,
    lookup_domains, lookup_domains_eq_none, lookup_wildcard, defaultBundle_eq_some,
    Option.eq_none_iff_forall_ne_some]
  simp only [Ne, lookup_wildcard]
  constructor
  · intro found
    rcases found with registered | ⟨noExact, ⟨pattern, covers, registered⟩ | ⟨none, isDefault⟩⟩
    · exact .exact registered
    · exact .wildcard noExact covers registered
    · apply Certified.fallback noExact _ isDefault
      intro pattern other covers registered
      exact none other ⟨pattern, covers, registered⟩
  · intro certified
    cases certified with
    | exact registered => exact .inl registered
    | wildcard noExact covers registered =>
        exact .inr ⟨noExact, .inl ⟨_, covers, registered⟩⟩
    | fallback noExact noWildcard isDefault =>
        apply Or.inr
        refine ⟨noExact, .inr ⟨?_, isDefault⟩⟩
        intro other registered
        rcases registered with ⟨pattern, covers, registered⟩
        exact noWildcard pattern other covers registered

end Lookup

/-- Over every history of calls: a lookup answers what the history certifies, a
removal answers whether the domain was registered, and the count is the number of
domains registered, taken ignoring case. -/
theorem sni_correct (history : List (SniCall β)) :
    (∀ name bundle, (runSni history).getCertificate name = some bundle ↔
        Certified history name bundle) ∧
      (∀ domain, ((runSni history).removeDomain domain).2 = true ↔
        ∃ bundle, Registered history domain bundle) ∧
      (runSni history).domainCount =
        {key | ∃ domain bundle, domain.toLowercase = key ∧
          Registered history domain bundle}.ncard := by
  refine ⟨fun _ _ => getCertificate_eq_some, ?_, ?_⟩
  · intro domain
    change ((runSni history).domains.lookup domain.toLowercase).isSome = true ↔ _
    rw [Option.isSome_iff_exists]
    simp only [lookup_domains]
  · have keys : {key | ∃ domain bundle, domain.toLowercase = key ∧
        Registered history domain bundle} =
          ((runSni history).domains.keys.toFinset : Set Name) := by
      ext key
      rw [Set.mem_ofPred_eq, ← mem_domains_iff, Finset.mem_coe, List.mem_toFinset, AList.mem_keys]
    rw [keys, Set.ncard_coe_finset,
      List.toFinset_card_of_nodup (runSni history).domains.keys_nodup]
    rfl

end Vortex.Proxy
