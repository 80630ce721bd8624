import Vortex.Lib.Outcome
import Vortex.Proxy.Sni

/-!
# Reloading a certificate

`reload_from_paths` reads the certificates and the private key of a domain from two
files and registers them.  Opening a file yields its content or an error; what
`rustls_pemfile` makes of a content is a parameter, an error or a list that may be
empty.

Neither loader looks at an empty list before going on: `load_certs` returns it, and
`load_private_key` takes the first element of it.  A reload is therefore all or
nothing exactly for the files that, read without an error, each hold something.

Nothing here depends on how names are lowered, so the manager is that of names of any type.
-/

namespace Vortex.Proxy

open Lib

/-- `CertKeyBundle`. -/
structure CertKeyBundle (Cert Key : Type*) where
  certs : List Cert
  key : Key
  deriving DecidableEq, Repr

/-! ## Loading -/

section Loading

variable {File Cert Key Error : Type*}

/-- `load_certs`. -/
def loadCerts (pemCerts : File → Except Error (List Cert)) (certFile : Except Error File) :
    Except Error (List Cert) :=
  certFile.bind pemCerts

/-- The collected keys of `load_private_key`. -/
def pkcs8Keys (pemKeys : File → Except Error (List Key)) (keyFile : Except Error File) :
    Except Error (List Key) :=
  keyFile.bind pemKeys

/-- `load_private_key`. -/
def loadPrivateKey (pemKeys : File → Except Error (List Key)) (keyFile : Except Error File) :
    Outcome (Except Error Key) :=
  match pkcs8Keys pemKeys keyFile with
  | .error error => .returned (.error error)
  | .ok keys => (vecRemove keys 0).bind fun key => .returned (.ok key)

variable {ν : Type*} [DecidableEq ν] (rules : NameRules ν)
variable (pemCerts : File → Except Error (List Cert)) (pemKeys : File → Except Error (List Key))
variable (manager : CertificateManager ν (CertKeyBundle Cert Key)) (domain : ν)
variable (certFile keyFile : Except Error File)

/-- `reload_from_paths`, with the manager it leaves. -/
def reloadFromPaths :
    Outcome (Except Error Unit) × CertificateManager ν (CertKeyBundle Cert Key) :=
  match loadCerts pemCerts certFile with
  | .error error => (.returned (.error error), manager)
  | .ok certs =>
      match loadPrivateKey pemKeys keyFile with
      -- A panic unwinds before the map is touched.
      | .panicked => (.panicked, manager)
      | .returned (.error error) => (.returned (.error error), manager)
      | .returned (.ok key) =>
          (.returned (.ok ()), manager.registerDomain rules domain ⟨certs, key⟩)

/-- The domain is bound to the certificates of the one file, at least one, and the
first key of the other; nothing else changes. -/
def Rebound (after : CertificateManager ν (CertKeyBundle Cert Key)) : Prop :=
  ∃ certs key others, loadCerts pemCerts certFile = .ok certs ∧ certs ≠ [] ∧
    pkcs8Keys pemKeys keyFile = .ok (key :: others) ∧
    after.domains.lookup (rules.toLowercase domain) = some ⟨certs, key⟩ ∧
    (∀ other, other ≠ rules.toLowercase domain →
      after.domains.lookup other = manager.domains.lookup other) ∧
    after.defaultBundle = manager.defaultBundle

/-- The reload returns, with an error and every lookup as before, or with the domain
rebound. -/
def AllOrNothing : Prop :=
  match reloadFromPaths rules pemCerts pemKeys manager domain certFile keyFile with
  | (.panicked, _) => False
  | (.returned (.error _), after) =>
      ∀ name, after.getCertificate rules name = manager.getCertificate rules name
  | (.returned (.ok _), after) =>
      Rebound rules pemCerts pemKeys manager domain certFile keyFile after

variable {rules pemCerts pemKeys manager domain certFile keyFile}

theorem reloadFromPaths_certError {error : Error}
    (failed : loadCerts pemCerts certFile = .error error) :
    reloadFromPaths rules pemCerts pemKeys manager domain certFile keyFile =
      (.returned (.error error), manager) := by
  simp [reloadFromPaths, failed]

theorem reloadFromPaths_keyError {certs : List Cert} {error : Error}
    (loaded : loadCerts pemCerts certFile = .ok certs)
    (failed : pkcs8Keys pemKeys keyFile = .error error) :
    reloadFromPaths rules pemCerts pemKeys manager domain certFile keyFile =
      (.returned (.error error), manager) := by
  simp [reloadFromPaths, loaded, loadPrivateKey, failed]

theorem reloadFromPaths_noKey {certs : List Cert}
    (loaded : loadCerts pemCerts certFile = .ok certs)
    (empty : pkcs8Keys pemKeys keyFile = .ok []) :
    reloadFromPaths rules pemCerts pemKeys manager domain certFile keyFile =
      (.panicked, manager) := by
  simp [reloadFromPaths, loaded, loadPrivateKey, empty, vecRemove]

theorem reloadFromPaths_loaded {certs : List Cert} {key : Key} {others : List Key}
    (loaded : loadCerts pemCerts certFile = .ok certs)
    (keys : pkcs8Keys pemKeys keyFile = .ok (key :: others)) :
    reloadFromPaths rules pemCerts pemKeys manager domain certFile keyFile =
      (.returned (.ok ()), manager.registerDomain rules domain ⟨certs, key⟩) := by
  simp [reloadFromPaths, loaded, loadPrivateKey, keys, vecRemove]

/-- Registering what was loaded rebinds the domain exactly when a certificate was
loaded. -/
theorem rebound_registerDomain_iff {certs : List Cert} {key : Key} {others : List Key}
    (loaded : loadCerts pemCerts certFile = .ok certs)
    (keys : pkcs8Keys pemKeys keyFile = .ok (key :: others)) :
    Rebound rules pemCerts pemKeys manager domain certFile keyFile
        (manager.registerDomain rules domain ⟨certs, key⟩) ↔
      certs ≠ [] := by
  constructor
  · intro rebound
    rcases rebound with ⟨reloaded, _, _, again, nonempty, _⟩
    rw [loaded] at again
    cases again
    exact nonempty
  · intro nonempty
    refine ⟨certs, key, others, loaded, nonempty, keys, ?_, ?_, rfl⟩
    · exact AList.lookup_insert _
    · intro other different
      exact AList.lookup_insert_ne different

/-- **A reload is all or nothing** exactly when the two files, if both are read
without an error, hold at least one certificate and one PKCS#8 key. -/
theorem reload_all_or_nothing_iff (rules : NameRules ν)
    (pemCerts : File → Except Error (List Cert)) (pemKeys : File → Except Error (List Key))
    (manager : CertificateManager ν (CertKeyBundle Cert Key)) (domain : ν)
    (certFile keyFile : Except Error File) :
    AllOrNothing rules pemCerts pemKeys manager domain certFile keyFile ↔
      ∀ certs keys, loadCerts pemCerts certFile = .ok certs →
        pkcs8Keys pemKeys keyFile = .ok keys → certs ≠ [] ∧ keys ≠ [] := by
  cases loaded : loadCerts pemCerts certFile with
  | error error => simp [AllOrNothing, reloadFromPaths_certError loaded]
  | ok certs =>
      cases collected : pkcs8Keys pemKeys keyFile with
      | error error => simp [AllOrNothing, reloadFromPaths_keyError loaded collected]
      | ok keys =>
          cases keys with
          | nil => simp [AllOrNothing, reloadFromPaths_noKey loaded collected]
          | cons key others =>
              rw [AllOrNothing, reloadFromPaths_loaded loaded collected]
              simp [rebound_registerDomain_iff loaded collected]

end Loading

/-! ## Files with one item or none -/

/-- What a parser makes of a file that holds one item, or nothing at all. -/
def oneItem (content : String) : Except String (List String) :=
  .ok (if content = "" then [] else [content])

/-- `example.com`. -/
def exampleCom : Name :=
  ⟨['e', 'x', 'a', 'm', 'p', 'l', 'e', '.', 'c', 'o', 'm'], by simp⟩

/-- A manager without domains. -/
def noDomains : CertificateManager Name (CertKeyBundle String String) := ⟨∅, none⟩

/-- A certificate and a key reload a domain. -/
theorem reload_all_or_nothing_iff_loaded :
    AllOrNothing Name.rules oneItem oneItem noDomains exampleCom (.ok "certificate")
      (.ok "key") := by
  rw [reload_all_or_nothing_iff]
  intro certs keys loaded collected
  cases loaded
  cases collected
  decide

/-- A key file without a PKCS#8 key panics the reload, and a certificate file without
a certificate replaces the bundle of the domain by one with an empty chain. -/
theorem reload_all_or_nothing_fails :
    (reloadFromPaths Name.rules oneItem oneItem noDomains exampleCom (.ok "certificate")
        (.ok "")).1 = .panicked ∧
      (reloadFromPaths Name.rules oneItem oneItem noDomains exampleCom (.ok "")
        (.ok "key")).1 = .returned (.ok ()) ∧
      (reloadFromPaths Name.rules oneItem oneItem noDomains exampleCom (.ok "")
        (.ok "key")).2.getCertificate Name.rules exampleCom = some ⟨[], "key"⟩ := by
  decide +kernel

end Vortex.Proxy
