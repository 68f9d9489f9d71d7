import Reduction.Native.Config

/-!
# ACME certificates

Model of `src/tls/acme.rs` and `src/tls/secret_state.rs`: the secret state with
its two stores, the provisioning of a certificate, and the renewal loop.

`provision_cert` can fail at each of its awaits and changes the world before it
does, so it is a program with a state that survives errors.  What the ACME server
and the libraries answer comes with the attempt; what `serde_json` does to the
secret state is a contract.
-/

namespace Reduction

/-! ## The secret state and its stores -/

structure AcmeSecretState where
  accountCredentials : Option Bytes
  certChainPem : Option Bytes
  keyPem : Option Bytes
deriving DecidableEq

/-- `AcmeSecretState::default`. -/
def AcmeSecretState.default : AcmeSecretState :=
  { accountCredentials := none, certChainPem := none, keyPem := none }

/-- `to_json` and `from_json`: what was written is read back. -/
structure StateJson where
  toJson : AcmeSecretState → Bytes
  fromJson : Bytes → Except String AcmeSecretState
  fromJson_toJson : ∀ state, fromJson (toJson state) = .ok state

structure BarrelStateConfig where
  envVar : Bytes
  persistCommand : List Bytes

structure AcmeTlsConfig where
  domains : List (ArrayString 256)
  acmeEmail : ArrayString 256
  cacheDir : PathBuf
  staging : Bool
  directoryUrl : Option Bytes
  directoryCaCert : Option PathBuf
  barrelState : Option BarrelStateConfig

inductive SecretStore where
  | file (cacheDir : PathBuf)
  | barrel (envVar : Bytes) (persistCommand : List Bytes)

def SecretStore.fromAcmeConfig (config : AcmeTlsConfig) : SecretStore :=
  match config.barrelState with
  | some state => .barrel state.envVar state.persistCommand
  | none => .file config.cacheDir

/-- Why a state could not be persisted. -/
inductive PersistError where
  | createDir (e : String)
  | write (e : String)
  | emptyCommand
  | spawn (e : String)
  | noStdin
  | writeStdin (e : String)
  | closeStdin (e : String)
  | wait (e : String)
  | unsuccessful (status : String)
deriving DecidableEq

/-- What `Account::create` is called with. -/
structure NewAccount where
  contact : Bytes
  directoryUrl : Bytes
deriving DecidableEq

/-- Where the secret state lives, with the accounts and the persist calls of this process. -/
structure Custody where
  files : PathBuf → Option Bytes
  /-- The environment that the process was launched with. -/
  vars : Bytes → Option Bytes
  accounts : List NewAccount
  persists : List (AcmeSecretState × Except PersistError Unit)

/-- `ACME_STATE_FILENAME` in the cache directory. -/
def acmeStatePath (cacheDir : PathBuf) : PathBuf := cacheDir ++ Bytes.ascii "/acme_state.json"

namespace SecretStore

/-- `load`: nothing on the first run, and an error for a state that does not parse. -/
def load (json : StateJson) (c : Custody) : SecretStore → Except String (Option AcmeSecretState)
  | file cacheDir =>
    match c.files (acmeStatePath cacheDir) with
    | none => .ok none
    | some bytes => (json.fromJson bytes).map some
  | barrel envVar _ =>
    match c.vars envVar with
    | none => .ok none
    | some value => if value.isEmpty then .ok none else (json.fromJson value).map some

/-- `persist`, if it succeeds: the command of Barrel stores the state outside the process. -/
def stored (json : StateJson) (state : AcmeSecretState) (c : Custody) : SecretStore → Custody
  | file cacheDir =>
    { c with files := Function.update c.files (acmeStatePath cacheDir) (some (json.toJson state)) }
  | barrel .. => c

/-- The cache directory, or the program that is run. -/
def place : SecretStore → Bytes
  | file cacheDir => cacheDir
  | barrel _ persistCommand => persistCommand.headD []

/-- The texts of `persist_to_file` and `persist_via_command`. -/
def persistMessage (store : SecretStore) : PersistError → String
  | .createDir e => "create cache dir " ++ displayText store.place ++ ": " ++ e
  | .write e => "write acme state: " ++ e
  | .emptyCommand => "barrel persist_command is empty"
  | .spawn e => "spawn barrel store command '" ++ displayText store.place ++ "': " ++ e
  | .noStdin => "barrel store command has no stdin"
  | .writeStdin e => "write acme state to barrel store command: " ++ e
  | .closeStdin e => "close barrel store command stdin: " ++ e
  | .wait e => "await barrel store command: " ++ e
  | .unsuccessful status =>
    "barrel store command '" ++ displayText store.place ++ "' exited unsuccessfully: " ++ status

/-- What a call of `persist` makes of the answer of the file system or of the command. -/
def answer : SecretStore → Except PersistError Unit → Except PersistError Unit
  | barrel _ [], _ => .error .emptyCommand
  | _, answer => answer

end SecretStore

namespace Custody

/-- A call of `persist`, which changes the store if it succeeds. -/
def persist (c : Custody) (json : StateJson) (store : SecretStore)
    (answer : Except PersistError Unit) (state : AcmeSecretState) : Custody :=
  let called := { c with persists := c.persists ++ [(state, store.answer answer)] }
  match store.answer answer with
  | .ok () => store.stored json state called
  | .error _ => called

def createAccount (c : Custody) (account : NewAccount) : Custody :=
  { c with accounts := c.accounts ++ [account] }

end Custody

/-! ## Certificates -/

/-- A certificate chain with its key: the `not_after` of each certificate, or `none` for one that
    cannot be parsed. -/
structure CertifiedKey where
  chain : List (Option Int64)
deriving DecidableEq

structure AcmeCertResolver where
  cert : Option CertifiedKey
  /-- The certificates for `tls-alpn-01`, under the domains that are validated. -/
  challengeCerts : DashMap Bytes CertifiedKey

/-- `i64::saturating_sub`. -/
def saturatingSubI64 (a b : Int64) : Int := max (-2 ^ 63) (min (2 ^ 63 - 1) (a.toInt - b.toInt))

/-- The wall clock, as seconds in an `i64`. -/
def clockSecs (now : UInt64) : Int64 :=
  if now.toNat < 2 ^ 63 then Int64.ofNat now.toNat else Int64.maxValue

/-- `time_until_expiry_from_certified`. -/
def timeUntilExpiry (key : CertifiedKey) (now : UInt64) : Duration :=
  match key.chain.head? with
  | some (some notAfter) => Duration.fromSecs (saturatingSubI64 notAfter (clockSecs now)).toNat
  | _ => 0

/-- `ACME_RENEWAL_BUFFER_SECS`, 30 days. -/
def acmeRenewalBuffer : Duration := Duration.fromSecs (30 * 24 * 60 * 60)

/-- `time_until_renewal_from_certified`. -/
def timeUntilRenewal (key : CertifiedKey) (now : UInt64) : Duration :=
  timeUntilExpiry key now - acmeRenewalBuffer

/-- `failure_backoff`: five minutes, doubled with each failure, up to six hours. -/
def failureBackoff (consecutiveFailures : UInt32) : Duration :=
  if consecutiveFailures = 0 then 0
  else
    let doublings := min (consecutiveFailures.toNat - 1) 16
    Duration.fromSecs (min (min (2 ^ 64 - 1) (300 * 2 ^ doublings)) 21600)

/-! ## What the ACME server answers -/

inductive AuthorizationStatus where
  | pending
  | valid
  | invalid
  | revoked
  | expired
  | deactivated
deriving DecidableEq

def AuthorizationStatus.debug : AuthorizationStatus → String
  | pending => "Pending"
  | valid => "Valid"
  | invalid => "Invalid"
  | revoked => "Revoked"
  | expired => "Expired"
  | deactivated => "Deactivated"

inductive OrderStatus where
  | pending
  | ready
  | processing
  | valid
  | invalid
deriving DecidableEq

def OrderStatus.debug : OrderStatus → String
  | pending => "Pending"
  | ready => "Ready"
  | processing => "Processing"
  | valid => "Valid"
  | invalid => "Invalid"

/-- A `tls-alpn-01` challenge. -/
structure Challenge where
  /-- The domain, unless the identifier is not a DNS name. -/
  domain : Option Bytes
  /-- What `build_tls_alpn_challenge_cert` returns for it. -/
  cert : Except String CertifiedKey
  setReady : Except String Unit

structure Authorization where
  status : AuthorizationStatus
  challenge : Option Challenge

/-- The answers that one attempt gets. -/
structure AcmeAnswers where
  accountBuilder : Except String Unit
  fromCredentials : Except String Unit
  /-- The credentials of the new account, serialized. -/
  create : Except String Bytes
  persistAccount : Except PersistError Unit
  newOrder : Except String Unit
  authorizations : List (Except String Authorization)
  pollReady : Except String OrderStatus
  /-- The new key, in PEM. -/
  generateKey : Except String Bytes
  csrParams : Except String Unit
  serializeRequest : Except String Unit
  finalizeCsr : Except String Unit
  pollCertificate : Except String Bytes
  persistCert : Except PersistError Unit

/-- What the libraries make of stored text. -/
structure AcmeLibs where
  json : StateJson
  parseCredentials : Bytes → Except String Unit
  buildCertifiedKeyFromPem : Bytes → Bytes → Except String CertifiedKey

/-! ## Provisioning -/

structure AcmeWorld where
  custody : Custody
  resolver : AcmeCertResolver
  orders : List (List (ArrayString 256))

abbrev AcmeM := EStateM ReductionError AcmeWorld

namespace AcmeM

/-- `map_err` with `ReductionError::Acme`, and `?`. -/
def attempt {α : Type} (context : String) : Except String α → AcmeM α
  | .ok a => pure a
  | .error e => throw (.acme (context ++ e))

def setChallengeCert (domain : Bytes) (key : CertifiedKey) : AcmeM Unit :=
  modify fun w =>
    { w with resolver.challengeCerts := w.resolver.challengeCerts.insert domain key }

def clearChallengeCerts : AcmeM Unit := modify fun w => { w with resolver.challengeCerts := ∅ }

end AcmeM

/-- The task, with the libraries it uses. -/
structure AcmeRenewalTask where
  config : AcmeTlsConfig
  libs : AcmeLibs

namespace AcmeRenewalTask

open AcmeM

variable (task : AcmeRenewalTask) (answers : AcmeAnswers)

def store : SecretStore := .fromAcmeConfig task.config

def directoryUrl : Bytes :=
  match task.config.directoryUrl with
  | some url => url
  | none =>
    if task.config.staging then
      Bytes.ascii "https://acme-staging-v02.api.letsencrypt.org/directory"
    else
      Bytes.ascii "https://acme-v02.api.letsencrypt.org/directory"

def load : AcmeM (Option AcmeSecretState) := do
  attempt "parse acme state: " (task.store.load task.libs.json (← get).custody)

def persist (answer : Except PersistError Unit) (state : AcmeSecretState) : AcmeM Unit := do
  modify fun w => { w with custody := w.custody.persist task.libs.json task.store answer state }
  match task.store.answer answer with
  | .ok () => pure ()
  | .error e => throw (.acme (task.store.persistMessage e))

def newAccount : NewAccount :=
  { contact := Bytes.ascii "mailto:" ++ task.config.acmeEmail.bytes
    directoryUrl := task.directoryUrl }

/-- `account_builder`. -/
def accountBuilder : AcmeM Unit :=
  match task.config.directoryCaCert with
  | some _ => attempt "failed to build account client with root: " answers.accountBuilder
  | none => attempt "failed to build account client: " answers.accountBuilder

/-- `get_or_create_account`, with the state that it leaves. -/
def getOrCreateAccount (state : AcmeSecretState) : AcmeM AcmeSecretState :=
  match state.accountCredentials with
  | some credentials => do
    attempt "failed to parse account credentials: " (task.libs.parseCredentials credentials)
    task.accountBuilder answers
    attempt "failed to restore account: " answers.fromCredentials
    return state
  | none => do
    task.accountBuilder answers
    let serialized ← attempt "failed to create ACME account: " answers.create
    modify fun w => { w with custody := w.custody.createAccount task.newAccount }
    let state := { state with accountCredentials := some serialized }
    task.persist answers.persistAccount state
    return state

/-- One authorization of the order; its challenge certificate stays until it is cleared. -/
def authorize (result : Except String Authorization) : AcmeM Unit := do
  let authz ← attempt "failed to get authorization: " result
  match authz.status with
  | .valid => pure ()
  | .pending =>
    match authz.challenge with
    | none => throw (.acme "no tls-alpn-01 challenge found")
    | some challenge =>
      match challenge.domain with
      | none =>
        clearChallengeCerts
        throw (.acme "tls-alpn-01 requires a DNS identifier")
      | some domain =>
        setChallengeCert domain (← attempt "" challenge.cert)
        attempt "failed to signal challenge ready: " challenge.setReady
  | status =>
    clearChallengeCerts
    throw (.acme ("unexpected authorization status: " ++ status.debug))

/-- `finalize_and_cache`. -/
def finalizeAndCache (state : AcmeSecretState) : AcmeM CertifiedKey := do
  let keyPem ← attempt "failed to generate cert key: " answers.generateKey
  attempt "failed to create CSR params: " answers.csrParams
  attempt "failed to serialize CSR: " answers.serializeRequest
  attempt "failed to finalize order: " answers.finalizeCsr
  let certChainPem ← attempt "failed to download cert: " answers.pollCertificate
  task.persist answers.persistCert
    { state with certChainPem := some certChainPem, keyPem := some keyPem }
  attempt "" (task.libs.buildCertifiedKeyFromPem certChainPem keyPem)

/-- The order, up to the point where it can be finalized. -/
def orderReady : AcmeM Unit := do
  attempt "failed to create order: " answers.newOrder
  modify fun w => { w with orders := w.orders ++ [task.config.domains] }
  answers.authorizations.forM authorize
  clearChallengeCerts
  let status ← attempt "failed waiting for order ready: " answers.pollReady
  if status ≠ .ready then
    throw (.acme ("unexpected order status: " ++ status.debug))

/-- `provision_cert`. -/
def provisionCert : AcmeM CertifiedKey := do
  let state := (← task.load).getD .default
  let state ← task.getOrCreateAccount answers state
  task.orderReady answers
  task.finalizeAndCache answers state

/-! ## The renewal loop -/

/-- `load_cached_cert`. -/
def loadCachedCert (c : Custody) : Option CertifiedKey :=
  match task.store.load task.libs.json c with
  | .ok (some { certChainPem := some cert, keyPem := some key, .. }) =>
    (task.libs.buildCertifiedKeyFromPem cert key).toOption
  | _ => none

def setCert (key : CertifiedKey) (w : AcmeWorld) : AcmeWorld := { w with resolver.cert := some key }

/-- `provision_initial_cert`: a certificate that is not yet due is served from the store, and one that
    has not expired is if no new one can be had. -/
def provisionInitialCert (now : UInt64) (w : AcmeWorld) : AcmeWorld × Except ReductionError Unit :=
  match task.loadCachedCert w.custody with
  | some cached =>
    if 0 < timeUntilRenewal cached now then
      (setCert cached w, .ok ())
    else
      match (task.provisionCert answers).run w with
      | .ok key w => (setCert key w, .ok ())
      | .error e w =>
        if 0 < timeUntilExpiry cached now then (setCert cached w, .ok ()) else (w, .error e)
  | none =>
    match (task.provisionCert answers).run w with
    | .ok key w => (setCert key w, .ok ())
    | .error e w => (w, .error e)

end AcmeRenewalTask

/-- `ACME_RETRY_INTERVAL_SECS`. -/
def acmeRetryInterval : Duration := Duration.fromSecs 43200

/-- What the loop of `AcmeRenewalTask::run` carries from round to round. -/
structure RenewalLoop where
  world : AcmeWorld
  consecutiveFailures : UInt32
  /-- The sleeps that ended in an attempt. -/
  sleeps : List Duration
  shutDown : Bool

/-- One round: the time at which the sleep is computed, whether shutdown ends it, and what the
    attempt after it is answered. -/
structure RenewalRound where
  now : UInt64
  shutdown : Bool
  answers : AcmeAnswers

namespace RenewalLoop

/-- The loop at the start of `run`. -/
def start (w : AcmeWorld) : RenewalLoop :=
  { world := w, consecutiveFailures := 0, sleeps := [], shutDown := false }

/-- `next_renewal_sleep`. -/
def nextRenewalSleep (l : RenewalLoop) (now : UInt64) : Duration :=
  let renewalIn :=
    match l.world.resolver.cert with
    | some key => timeUntilRenewal key now
    | none => acmeRetryInterval
  max renewalIn (failureBackoff l.consecutiveFailures)

/-- One round of `run`. -/
def step (task : AcmeRenewalTask) (l : RenewalLoop) (round : RenewalRound) : RenewalLoop :=
  if l.shutDown then l
  else if round.shutdown then { l with shutDown := true }
  else
    let sleeps := l.sleeps ++ [l.nextRenewalSleep round.now]
    match (task.provisionCert round.answers).run l.world with
    | .ok key w =>
      { l with world := AcmeRenewalTask.setCert key w, consecutiveFailures := 0, sleeps }
    | .error _ w =>
      { l with
        world := w
        consecutiveFailures :=
          if l.consecutiveFailures.toNat + 1 < 2 ^ 32 then l.consecutiveFailures + 1
          else l.consecutiveFailures
        sleeps }

end RenewalLoop

end Reduction
