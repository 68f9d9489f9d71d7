import Reduction.ForStd.Run
import Reduction.Native.ClientVerifier

/-!
# Revocation lists across reloads

A CRL file without a PEM block loads as no list at all, and a verifier is built
without revocation checking from that as it is from no file.  A reload then puts it
in the place of one that checks.

- `crls_loadTrust`: the lists that a loaded verifier checks are those of the file
- `crl_checking_stays_iff`: the runs in which revocation checking, once it is on,
  stays on
-/

namespace Reduction

open Run

/-! ## Loading -/

namespace TrustLibs

variable {libs : TrustLibs} {files : Files} {caCertPath path : PathBuf} {allow : Bool}

variable {roots : List Bytes} {v : WebPkiClientVerifier}

/-- A bundle that is loaded holds a certificate. -/
theorem loadCaCerts_ne_nil (h : libs.loadCaCerts files path = .ok roots) : roots ≠ [] := by
  obtain ⟨certs, hcerts, hroots⟩ := bind_eq_ok.mp h
  obtain ⟨text, -, hcerts⟩ := bind_eq_ok.mp hcerts
  obtain ⟨found, -, hcerts⟩ := bind_eq_ok.mp hcerts
  have hne : certs ≠ [] := by
    split at hcerts
    · cases hcerts
    · rename_i hempty
      cases hcerts
      simpa using hempty
  -- every certificate that is added is there
  have hadded : roots.length = certs.length := by
    refine @foldlM_invariant _ _ _ libs.addCaCert
      (fun done roots => roots.length = done.length) ?_ _ _ _ rfl hroots
    intro done cert roots roots' hlength hadd
    obtain ⟨_, -, hadd⟩ := bind_eq_ok.mp hadd
    cases hadd
    rw [List.length_append, List.length_append, hlength]
  intro hnil
  rw [hnil] at hadded
  exact hne (List.length_eq_zero_iff.mp hadded.symm)

theorem build_ok {verifier : WebPkiClientVerifier} (h : libs.build verifier = .ok v) :
    v = verifier := by
  unfold build at h
  split at h
  · cases h
  · obtain ⟨_, -, hv⟩ := bind_eq_ok.mp h
    exact (Except.ok.inj hv).symm

theorem crls_buildClientVerifier {crls : List Bytes}
    (h : libs.buildClientVerifier roots crls allow = .ok v) : v.crls = crls := by
  rw [build_ok (mapError_eq_ok.mp h)]
  split
  · rename_i hempty
    exact (List.isEmpty_iff.mp hempty).symm
  · rfl

/-- Without revocation lists nothing keeps the verifier from being built. -/
theorem buildClientVerifier_nil (h : roots ≠ []) :
    ∃ v, libs.buildClientVerifier roots [] allow = .ok v ∧ v.crls = [] := by
  have hroots : roots.isEmpty = false := by simpa using h
  refine ⟨⟨roots, [], false, allow⟩, ?_, rfl⟩
  unfold buildClientVerifier build
  simp only [List.isEmpty_nil, if_true, hroots, Bool.false_eq_true, if_false]
  rfl

/-- A verifier that is loaded checks the lists of the file. -/
theorem crls_loadTrust (h : libs.loadTrust files caCertPath (some path) allow = .ok v) :
    libs.loadCrls files path = .ok v.crls := by
  obtain ⟨roots, -, h⟩ := bind_eq_ok.mp h
  obtain ⟨crls, hcrls, h⟩ := bind_eq_ok.mp h
  rw [crls_buildClientVerifier h]
  exact hcrls

/-- It is loaded without lists if the file has none. -/
theorem loadTrust_of_no_crls (allow : Bool) (hroots : (libs.loadCaCerts files caCertPath).toBool)
    (hcrls : libs.loadCrls files path = .ok []) :
    ∃ v, libs.loadTrust files caCertPath (some path) allow = .ok v ∧ v.crls = [] := by
  obtain ⟨roots, hroots⟩ := exists_ok hroots
  obtain ⟨v, hbuild, hnone⟩ := buildClientVerifier_nil (loadCaCerts_ne_nil hroots)
  exact ⟨v, bind_eq_ok.mpr ⟨roots, hroots, bind_eq_ok.mpr ⟨[], hcrls, hbuild⟩⟩, hnone⟩

end TrustLibs

/-! ## Runs -/

inductive TrustAction where
  /-- The files change in any way. -/
  | write (files : Files)
  | reload

/-- A verifier and the files that it reads. -/
structure TrustRun where
  files : Files
  verifier : ReloadingClientVerifier

namespace TrustRun

def step (libs : TrustLibs) (s : TrustRun) : TrustAction → TrustRun
  | .write files => { s with files }
  | .reload => { s with verifier := (s.verifier.reload libs s.files).1 }

/-- The verifier in force was built with a revocation list. -/
def ChecksCrls (s : TrustRun) : Prop := s.verifier.inner.crls ≠ []

/-- A reload that is made while revocation checking is on does not find a good CA bundle together
    with a CRL file without any list. -/
def FindsCrls (libs : TrustLibs) (caCertPath crlPath : PathBuf) (s : TrustRun) :
    TrustAction → Prop
  | .write _ => True
  | .reload => s.ChecksCrls →
    ¬ ((libs.loadCaCerts s.files caCertPath).toBool ∧ libs.loadCrls s.files crlPath = .ok [])

variable {libs : TrustLibs} {s : TrustRun} {caCertPath crlPath : PathBuf}

/-- The verifier reads these files. -/
structure Reads (caCertPath crlPath : PathBuf) (s : TrustRun) : Prop where
  caCertPath : s.verifier.caCertPath = caCertPath
  crlPath : s.verifier.crlPath = some crlPath

theorem Reads.step (h : s.Reads caCertPath crlPath) (a : TrustAction) :
    (s.step libs a).Reads caCertPath crlPath := by
  cases a with
  | write files => exact ⟨h.caCertPath, h.crlPath⟩
  | reload =>
    unfold TrustRun.step ReloadingClientVerifier.reload
    dsimp only
    split
    · exact ⟨h.caCertPath, h.crlPath⟩
    · exact h

/-- The steps that keep revocation checking on. -/
theorem stays_step_iff (h : s.Reads caCertPath crlPath) (a : TrustAction) :
    (s.ChecksCrls → (s.step libs a).ChecksCrls) ↔ s.FindsCrls libs caCertPath crlPath a := by
  cases a with
  | write files => exact iff_of_true (fun hchecks => hchecks) trivial
  | reload =>
    refine imp_congr_right fun hchecks => ?_
    unfold step ChecksCrls ReloadingClientVerifier.reload
    dsimp only
    rw [h.caCertPath, h.crlPath]
    constructor
    · rintro hstays ⟨hroots, hcrls⟩
      obtain ⟨v, hload, hnone⟩ :=
        TrustLibs.loadTrust_of_no_crls s.verifier.allowUnauthenticated hroots hcrls
      rw [hload] at hstays
      exact hstays hnone
    · intro hfinds
      split
      · rename_i v hload
        intro hnone
        refine hfinds ⟨?_, hnone ▸ TrustLibs.crls_loadTrust hload⟩
        obtain ⟨roots, hroots, -⟩ := bind_eq_ok.mp hload
        rw [hroots]
        rfl
      · exact hchecks

end TrustRun

/-- Revocation checking, once it is on, stays on if and only if no reload that is made meanwhile
    finds a good CA bundle together with a CRL file without any list. -/
theorem crl_checking_stays_iff {libs : TrustLibs} {files : Files} {caCertPath crlPath : PathBuf}
    {allowUnauthenticated : Bool} {verifier : ReloadingClientVerifier}
    (hnew : ReloadingClientVerifier.newWithPolicy libs files caCertPath (some crlPath)
      allowUnauthenticated = .ok verifier) (as : List TrustAction) :
    (∀ done done', done <+: done' → done' <+: as →
        (run (TrustRun.step libs) { files, verifier } done).verifier.inner.crls ≠ [] →
        (run (TrustRun.step libs) { files, verifier } done').verifier.inner.crls ≠ []) ↔
      RunOk (TrustRun.step libs) (TrustRun.FindsCrls libs caCertPath crlPath) { files, verifier }
        as := by
  obtain ⟨inner, -, hverifier⟩ := bind_eq_ok.mp hnew
  cases hverifier
  refine (@stays_iff_runOk _ _ _ TrustRun.ChecksCrls _ _).trans ?_
  exact runOk_iff_of_invariant (fun _ a h _ => TrustRun.Reads.step h a)
    (fun _ a h => TrustRun.stays_step_iff h a) ⟨rfl, rfl⟩ as

namespace Sample

/-- A text with a block is one item of the kind that is asked for. -/
def trustLibs : TrustLibs where
  pemReaderIter _ text := if pemBlockStart <:+: text then [.ok text] else []
  pemReaderIter_outside _ _ h := if_neg h
  addRoot _ := .ok ()
  parseCrl _ := .ok ()

def caFile : PathBuf := Bytes.ascii "ca.pem"

def crlFile : PathBuf := Bytes.ascii "crl.pem"

def crlText : Bytes := Bytes.ascii "-----BEGIN X509 CRL-----"

/-- A good CA bundle, and the given CRL file. -/
def trustFiles (crl : Bytes) : Files := fun path =>
  if path = crlFile then .ok crl else .ok (Bytes.ascii "-----BEGIN CERTIFICATE-----")

end Sample

/-- A CRL file that is written again with a list in it. -/
theorem rewritten_crl_keeps_checking :
    ∃ verifier, ReloadingClientVerifier.newWithPolicy Sample.trustLibs
        (Sample.trustFiles Sample.crlText) Sample.caFile (some Sample.crlFile) false =
          .ok verifier ∧
      verifier.inner.crls ≠ [] ∧
      (run (TrustRun.step Sample.trustLibs)
        { files := Sample.trustFiles Sample.crlText, verifier }
        [.write (Sample.trustFiles (Sample.crlText ++ [10])),
          .reload]).verifier.inner.crls ≠ [] := by
  obtain ⟨verifier, hnew, hcrls⟩ : ∃ verifier, ReloadingClientVerifier.newWithPolicy
      Sample.trustLibs (Sample.trustFiles Sample.crlText) Sample.caFile (some Sample.crlFile)
        false = .ok verifier ∧ verifier.inner.crls ≠ [] :=
    ⟨_, rfl, by decide⟩
  refine ⟨verifier, hnew, hcrls, (crl_checking_stays_iff hnew _).mpr ?_ [] _ List.nil_prefix
    (List.prefix_refl _) hcrls⟩
  refine ⟨trivial, fun _ => ?_, trivial⟩
  rintro ⟨-, hnone⟩
  cases hnone

/-- An empty CRL file is loaded without an error, and turns revocation checking off. -/
theorem empty_crl_file_stops_checking :
    ∃ verifier, ReloadingClientVerifier.newWithPolicy Sample.trustLibs
        (Sample.trustFiles Sample.crlText) Sample.caFile (some Sample.crlFile) false =
          .ok verifier ∧
      verifier.inner.crls = [Sample.crlText] ∧
      (verifier.reload Sample.trustLibs (Sample.trustFiles [])).2 = .ok () ∧
      (run (TrustRun.step Sample.trustLibs)
        { files := Sample.trustFiles Sample.crlText, verifier }
        [.write (Sample.trustFiles []), .reload]).verifier.inner.crls = [] :=
  ⟨_, rfl, rfl, rfl, rfl⟩

end Reduction
