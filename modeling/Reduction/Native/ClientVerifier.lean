import Reduction.Native.Config

/-!
# Verification of client certificates

Model of `src/tls/reload/client_verifier.rs`, with `load_certs` and
`load_ca_certs` of `src/tls/certs.rs`: the trust anchors and the revocation lists
are loaded from files, and a reload replaces the verifier that was built from them.

What the PEM reader and the libraries behind `rustls` make of bytes is a
parameter.  Of the reader it is known that text outside PEM blocks gives neither
an item nor an error.
-/

namespace Reduction

/-- The PEM blocks that are asked for. -/
inductive PemKind where
  | certificate
  | crl

/-- What every PEM block starts with. -/
def pemBlockStart : Bytes := Bytes.ascii "-----BEGIN "

/-- What the libraries make of bytes. -/
structure TrustLibs where
  /-- `pem_reader_iter`: the contents of the blocks of the kind, in the order of the text. -/
  pemReaderIter : PemKind → Bytes → List (Except String Bytes)
  pemReaderIter_outside : ∀ kind text, ¬ pemBlockStart <:+: text → pemReaderIter kind text = []
  /-- `RootCertStore::add`. -/
  addRoot : Bytes → Except String Unit
  /-- What `build` does with each revocation list. -/
  parseCrl : Bytes → Except String Unit

/-- `fs::File::open`, with what is then read. -/
abbrev Files := PathBuf → Except String Bytes

/-- `WebPkiClientVerifier`. -/
structure WebPkiClientVerifier where
  roots : List Bytes
  crls : List Bytes
  enforceRevocationExpiration : Bool
  allowUnauthenticated : Bool

namespace TrustLibs

variable (libs : TrustLibs) (files : Files)

def loadCrls (path : PathBuf) : Except ReductionError (List Bytes) := do
  let text ← (files path).mapError fun e =>
    .config ("failed to open CRL file " ++ displayText path ++ ": " ++ e)
  ((libs.pemReaderIter .crl text).mapM id).mapError fun e =>
    .config ("failed to parse CRLs from " ++ displayText path ++ ": " ++ e)

def loadCerts (path : PathBuf) : Except ReductionError (List Bytes) := do
  let text ← (files path).mapError fun e =>
    .config ("failed to open cert file " ++ displayText path ++ ": " ++ e)
  let certs ← ((libs.pemReaderIter .certificate text).mapM id).mapError fun e =>
    .config ("failed to parse certs from " ++ displayText path ++ ": " ++ e)
  if certs.isEmpty then
    .error (.config ("no certificates found in " ++ displayText path))
  else
    .ok certs

/-- One round of `load_ca_certs`. -/
def addCaCert (roots : List Bytes) (cert : Bytes) : Except ReductionError (List Bytes) := do
  (libs.addRoot cert).mapError fun e => .config ("failed to add CA cert: " ++ e)
  .ok (roots ++ [cert])

def loadCaCerts (path : PathBuf) : Except ReductionError (List Bytes) := do
  let caCerts ← libs.loadCerts files path
  caCerts.foldlM libs.addCaCert []

/-- `WebPkiClientVerifier::builder` with its options, and `build`. -/
def build (verifier : WebPkiClientVerifier) : Except String WebPkiClientVerifier := do
  if verifier.roots.isEmpty then
    .error "no root trust anchors were provided"
  else
    verifier.crls.forM libs.parseCrl
    .ok verifier

/-- `build_client_verifier`: without revocation lists there is nothing that could expire. -/
def buildClientVerifier (roots crls : List Bytes) (allowUnauthenticated : Bool) :
    Except ReductionError WebPkiClientVerifier :=
  let verifier : WebPkiClientVerifier :=
    if crls.isEmpty then
      { roots, crls := [], enforceRevocationExpiration := false, allowUnauthenticated }
    else
      { roots, crls, enforceRevocationExpiration := true, allowUnauthenticated }
  (libs.build verifier).mapError fun e => .config ("failed to build client verifier: " ++ e)

def loadTrust (caCertPath : PathBuf) (crlPath : Option PathBuf) (allowUnauthenticated : Bool) :
    Except ReductionError WebPkiClientVerifier := do
  let roots ← libs.loadCaCerts files caCertPath
  let crls ←
    match crlPath with
    | some path => libs.loadCrls files path
    | none => .ok []
  libs.buildClientVerifier roots crls allowUnauthenticated

end TrustLibs

structure ReloadingClientVerifier where
  inner : WebPkiClientVerifier
  caCertPath : PathBuf
  crlPath : Option PathBuf
  allowUnauthenticated : Bool

namespace ReloadingClientVerifier

/-- `new_with_policy`, which `new` and `new_optional` call. -/
def newWithPolicy (libs : TrustLibs) (files : Files) (caCertPath : PathBuf)
    (crlPath : Option PathBuf) (allowUnauthenticated : Bool) :
    Except ReductionError ReloadingClientVerifier := do
  let inner ← libs.loadTrust files caCertPath crlPath allowUnauthenticated
  .ok { inner, caCertPath, crlPath, allowUnauthenticated }

/-- `reload`: what cannot be loaded leaves the verifier that is there. -/
def reload (libs : TrustLibs) (files : Files) (v : ReloadingClientVerifier) :
    ReloadingClientVerifier × Except ReductionError Unit :=
  match libs.loadTrust files v.caCertPath v.crlPath v.allowUnauthenticated with
  | .ok inner => ({ v with inner }, .ok ())
  | .error e => (v, .error e)

end ReloadingClientVerifier

end Reduction
