import Reduction.ForStd.ErrorState
import Reduction.Spec.AcmeCustody

/-!
# Challenge certificates and the order

`provision_cert` installs a challenge certificate for each authorization that is
pending, and clears them all once the order is polled.  Two of the errors in the
loop clear them as well; the others leave it through `?`.

`challenge_certs_cleared_iff` says when none is left after `provision_cert`.
-/

namespace Reduction

open EStateM (Keeps)

/-! ## One authorization -/

/-- What a round of the loop comes to, with whether it installs a certificate. -/
inductive AuthzOutcome where
  | done (installed : Bool)
  /-- An error, after everything was cleared. -/
  | cleared
  /-- An error that leaves through `?`. -/
  | left (installed : Bool)

/-- The outcome of a round, from the answers that it gets. -/
def authzOutcome : Except String Authorization → AuthzOutcome
  | .error _ => .left false
  | .ok authz =>
    match authz.status, authz.challenge with
    | .valid, _ => .done false
    | .pending, none => .left false
    | .pending, some { domain := none, .. } => .cleared
    | .pending, some { domain := some _, cert := .error _, .. } => .left false
    | .pending, some { domain := some _, cert := .ok _, setReady := .ok () } => .done true
    | .pending, some { domain := some _, cert := .ok _, setReady := .error _ } => .left true
    | _, _ => .cleared

/-- Some challenge certificate is installed. -/
def AcmeWorld.Challenged (w : AcmeWorld) : Prop := w.resolver.challengeCerts ≠ ∅

/-- A round that started in `w`, with its outcome and its result. -/
inductive AuthzRound (w : AcmeWorld) :
    AuthzOutcome → EStateM.Result ReductionError AcmeWorld Unit → Prop
  | done {installed : Bool} {w' : AcmeWorld} (h : w'.Challenged ↔ w.Challenged ∨ installed) :
      AuthzRound w (.done installed) (.ok () w')
  | cleared {e : ReductionError} {w' : AcmeWorld} (h : ¬ w'.Challenged) :
      AuthzRound w .cleared (.error e w')
  | left {installed : Bool} {e : ReductionError} {w' : AcmeWorld}
      (h : w'.Challenged ↔ w.Challenged ∨ installed) : AuthzRound w (.left installed) (.error e w')

namespace AcmeRenewalTask

open AcmeM

variable (task : AcmeRenewalTask) (answers : AcmeAnswers)

theorem authorize_round (result : Except String Authorization) (w : AcmeWorld) :
    AuthzRound w (authzOutcome result) ((authorize result).run w) := by
  have hsame : w.Challenged ↔ w.Challenged ∨ false := by simp
  have hinstalled : ∀ domain key,
      AcmeWorld.Challenged
        { w with resolver.challengeCerts := w.resolver.challengeCerts.insert domain key } ↔
        w.Challenged ∨ true :=
    fun domain key => iff_of_true (DashMap.insert_ne_empty _ domain key) (.inr rfl)
  have hcleared : ¬ AcmeWorld.Challenged { w with resolver.challengeCerts := ∅ } := fun h => h rfl
  cases result with
  | error e => exact .left hsame
  | ok authz =>
    obtain ⟨status, challenge⟩ := authz
    cases status with
    | valid => exact .done hsame
    | pending =>
      cases challenge with
      | none => exact .left hsame
      | some challenge =>
        obtain ⟨domain, cert, setReady⟩ := challenge
        cases domain with
        | none => exact .cleared hcleared
        | some domain =>
          cases cert with
          | error e => exact .left hsame
          | ok key =>
            cases setReady with
            | ok u => exact .done (hinstalled domain key)
            | error e => exact .left (hinstalled domain key)
    | invalid => exact .cleared hcleared
    | revoked => exact .cleared hcleared
    | expired => exact .cleared hcleared
    | deactivated => exact .cleared hcleared

end AcmeRenewalTask

/-! ## The loop -/

/-- The loop leaves through `?` with a certificate installed: before it, in an earlier round, or in
    the round that fails. -/
def StopsInstalled (before : Prop) (results : List (Except String Authorization)) : Prop :=
  ∃ done result rest, results = done ++ result :: rest ∧
    (∀ r ∈ done, ∃ installed, authzOutcome r = .done installed) ∧
    ∃ installed, authzOutcome result = .left installed ∧
      (before ∨ (∃ r ∈ done, authzOutcome r = .done true) ∨ installed = true)

namespace StopsInstalled

variable {before : Prop} {result : Except String Authorization}
  {results : List (Except String Authorization)}

theorem nil_iff : ¬ StopsInstalled before [] := by
  rintro ⟨done, result, rest, heq, -⟩
  cases done <;> cases heq

/-- A round that goes on. -/
theorem cons_of_done {installed : Bool} (h : authzOutcome result = .done installed) :
    StopsInstalled before (result :: results) ↔
      StopsInstalled (before ∨ installed = true) results := by
  constructor
  · rintro ⟨done, last, rest, heq, hdone, i, hlast, hwhen⟩
    cases done with
    | nil =>
      cases heq
      cases h.symm.trans hlast
    | cons r done =>
      cases heq
      rw [List.forall_mem_cons] at hdone
      refine ⟨done, last, rest, rfl, hdone.2, i, hlast, ?_⟩
      rcases hwhen with hbefore | ⟨r', hr', hinstalled⟩ | hi
      · exact .inl (.inl hbefore)
      · rw [List.mem_cons] at hr'
        rcases hr' with rfl | hr'
        · cases h.symm.trans hinstalled
          exact .inl (.inr rfl)
        · exact .inr (.inl ⟨r', hr', hinstalled⟩)
      · exact .inr (.inr hi)
  · rintro ⟨done, last, rest, rfl, hdone, i, hlast, hwhen⟩
    refine ⟨result :: done, last, rest, rfl, List.forall_mem_cons.mpr ⟨⟨_, h⟩, hdone⟩, i, hlast, ?_⟩
    rcases hwhen with (hbefore | hinstalled) | ⟨r, hr, hinstalled⟩ | hi
    · exact .inl hbefore
    · exact .inr (.inl ⟨result, List.mem_cons_self, hinstalled ▸ h⟩)
    · exact .inr (.inl ⟨r, List.mem_cons_of_mem _ hr, hinstalled⟩)
    · exact .inr (.inr hi)

/-- A round that fails is the last one. -/
theorem cons_of_not_done (h : ∀ installed, authzOutcome result ≠ .done installed) :
    StopsInstalled before (result :: results) ↔
      ∃ installed, authzOutcome result = .left installed ∧ (before ∨ installed = true) := by
  constructor
  · rintro ⟨done, last, rest, heq, hdone, i, hlast, hwhen⟩
    cases done with
    | nil =>
      cases heq
      refine ⟨i, hlast, ?_⟩
      rcases hwhen with hbefore | ⟨r, hr, -⟩ | hi
      · exact .inl hbefore
      · cases hr
      · exact .inr hi
    | cons r done =>
      obtain ⟨rfl, -⟩ := List.cons.inj heq
      obtain ⟨installed, hr⟩ := hdone result List.mem_cons_self
      exact absurd hr (h installed)
  · rintro ⟨i, hresult, hwhen⟩
    refine ⟨[], result, results, rfl, (fun r hr => by cases hr), i, hresult, ?_⟩
    rcases hwhen with hbefore | hi
    · exact .inl hbefore
    · exact .inr (.inr hi)

end StopsInstalled

namespace AcmeRenewalTask

open AcmeM

variable (task : AcmeRenewalTask) (answers : AcmeAnswers)

/-- The loop fails with a certificate installed exactly if `StopsInstalled` says so. -/
theorem authorizations_run (results : List (Except String Authorization)) (w : AcmeWorld) :
    (∃ w', (results.forM authorize).run w = .ok () w' ∧ ¬ StopsInstalled w.Challenged results) ∨
      ∃ e w', (results.forM authorize).run w = .error e w' ∧
        (w'.Challenged ↔ StopsInstalled w.Challenged results) := by
  induction results generalizing w with
  | nil => exact .inl ⟨w, rfl, StopsInstalled.nil_iff⟩
  | cons result results ih =>
    have hround := authorize_round result w
    have hloop : (result :: results).forM authorize =
        (authorize result >>= fun _ => results.forM authorize) := rfl
    rw [hloop]
    generalize houtcome : authzOutcome result = outcome at hround
    generalize hrun : (authorize result).run w = ran at hround
    cases hround with
    | @done installed w₁ h =>
      rw [EStateM.run_bind_of_ok hrun, StopsInstalled.cons_of_done houtcome, ← h]
      exact ih w₁
    | @cleared e w₁ h =>
      rw [EStateM.run_bind_of_error hrun,
        StopsInstalled.cons_of_not_done (fun _ h => by cases houtcome.symm.trans h)]
      refine .inr ⟨e, w₁, rfl, iff_of_false h ?_⟩
      rintro ⟨_, hleft, -⟩
      cases houtcome.symm.trans hleft
    | @left installed e w₁ h =>
      rw [EStateM.run_bind_of_error hrun,
        StopsInstalled.cons_of_not_done (fun _ h => by cases houtcome.symm.trans h)]
      refine .inr ⟨e, w₁, rfl, h.trans ⟨fun hwhen => ⟨installed, houtcome, hwhen⟩, ?_⟩⟩
      rintro ⟨_, hleft, hwhen⟩
      cases houtcome.symm.trans hleft
      exact hwhen

/-! ## The rest of `provision_cert` -/

/-- The challenge certificates of the resolver. -/
def challengeCerts (w : AcmeWorld) : DashMap Bytes CertifiedKey := w.resolver.challengeCerts

theorem keeps_attempt {α : Type} (context : String) (result : Except String α) :
    Keeps challengeCerts (AcmeM.attempt context result) := by
  cases result with
  | ok a => exact .pure a
  | error e => exact .throw _

theorem keeps_persist (answer : Except PersistError Unit) (state : AcmeSecretState) :
    Keeps challengeCerts (task.persist answer state) := by
  refine .bind (.modify fun _ => rfl) fun _ => ?_
  cases task.store.answer answer with
  | ok u => exact .pure u
  | error e => exact .throw _

theorem keeps_accountBuilder : Keeps challengeCerts (task.accountBuilder answers) := by
  unfold accountBuilder
  split
  · exact keeps_attempt _ _
  · exact keeps_attempt _ _

theorem keeps_getOrCreateAccount (state : AcmeSecretState) :
    Keeps challengeCerts (task.getOrCreateAccount answers state) := by
  unfold getOrCreateAccount
  split
  · apply Keeps.bind (keeps_attempt _ _)
    intro _
    apply Keeps.bind (task.keeps_accountBuilder answers)
    intro _
    exact .bind (keeps_attempt _ _) fun _ => .pure _
  · apply Keeps.bind (task.keeps_accountBuilder answers)
    intro _
    apply Keeps.bind (keeps_attempt _ _)
    intro _
    refine Keeps.bind (.modify fun _ => rfl) fun _ => ?_
    exact .bind (task.keeps_persist _ _) fun _ => .pure _

theorem keeps_finalizeAndCache (state : AcmeSecretState) :
    Keeps challengeCerts (task.finalizeAndCache answers state) := by
  unfold finalizeAndCache
  apply Keeps.bind (keeps_attempt _ _)
  intro keyPem
  apply Keeps.bind (keeps_attempt _ _)
  intro _
  apply Keeps.bind (keeps_attempt _ _)
  intro _
  apply Keeps.bind (keeps_attempt _ _)
  intro _
  apply Keeps.bind (keeps_attempt _ _)
  intro certChainPem
  exact .bind (task.keeps_persist _ _) fun _ => keeps_attempt _ _

/-- The state is loaded, and the account is there. -/
def account : AcmeM AcmeSecretState := do
  let loaded ← task.load
  task.getOrCreateAccount answers (loaded.getD .default)

theorem keeps_account : Keeps challengeCerts (task.account answers) := by
  apply Keeps.bind
  · exact .bind (fun _ => rfl) fun w => keeps_attempt _ _
  · exact fun _ => task.keeps_getOrCreateAccount answers _

theorem provisionCert_eq : task.provisionCert answers =
    task.account answers >>= fun state =>
      task.orderReady answers >>= fun _ => task.finalizeAndCache answers state := by
  unfold provisionCert account
  rw [bind_assoc]

/-- `orderReady`, after the loop. -/
def pollOrder : AcmeM Unit := do
  clearChallengeCerts
  let status ← AcmeM.attempt "failed waiting for order ready: " answers.pollReady
  if status ≠ .ready then
    throw (.acme ("unexpected order status: " ++ status.debug))

theorem orderReady_eq : task.orderReady answers =
    (AcmeM.attempt "failed to create order: " answers.newOrder >>= fun _ =>
      (modify fun w => { w with orders := w.orders ++ [task.config.domains] }) >>= fun _ =>
        answers.authorizations.forM authorize >>= fun _ => pollOrder answers) := rfl

/-- Everything is cleared before the order is looked at. -/
theorem challengeCerts_pollOrder (w : AcmeWorld) :
    challengeCerts ((pollOrder answers).final w) = ∅ := by
  have hkeeps : Keeps challengeCerts (do
      let status ← AcmeM.attempt "failed waiting for order ready: " answers.pollReady
      if status ≠ .ready then
        throw (.acme ("unexpected order status: " ++ status.debug)) : AcmeM Unit) := by
    apply Keeps.bind (keeps_attempt _ _)
    intro status
    split
    · exact .throw _
    · exact .pure _
  exact hkeeps { w with resolver.challengeCerts := ∅ }

variable {task answers}

/-- The order leaves a certificate installed exactly if its loop stops with one. -/
theorem challenged_orderReady {w : AcmeWorld} (hempty : ¬ w.Challenged) :
    ((task.orderReady answers).final w).Challenged ↔
      answers.newOrder = .ok () ∧ StopsInstalled False answers.authorizations := by
  rw [orderReady_eq]
  cases horder : answers.newOrder with
  | error e => exact iff_of_false hempty (fun h => by cases h.1)
  | ok u =>
    rw [and_iff_right rfl]
    have hbefore : w.Challenged = False := eq_false hempty
    show (((answers.authorizations.forM authorize >>= fun _ => pollOrder answers).final
      { w with orders := w.orders ++ [task.config.domains] }).Challenged ↔ _)
    obtain ⟨w', hrun, hstops⟩ | ⟨e, w', hrun, hstops⟩ := authorizations_run answers.authorizations
      { w with orders := w.orders ++ [task.config.domains] }
    · rw [EStateM.final_bind_of_ok hrun]
      exact iff_of_false (fun h => h (challengeCerts_pollOrder answers w')) (hbefore ▸ hstops)
    · rw [EStateM.final_bind_of_error hrun]
      exact hbefore ▸ hstops

/-- The order is placed: `provision_cert` comes to the loop. -/
def PlacesOrder (task : AcmeRenewalTask) (answers : AcmeAnswers) (w : AcmeWorld) : Prop :=
  (∃ state w', (task.account answers).run w = .ok state w') ∧ answers.newOrder = .ok ()

end AcmeRenewalTask

/-- No challenge certificate outlives `provision_cert` if and only if it does not come to the loop,
    or the loop does not leave through `?` with a certificate installed. -/
theorem challenge_certs_cleared_iff (task : AcmeRenewalTask) (answers : AcmeAnswers) {w : AcmeWorld}
    (hempty : w.resolver.challengeCerts = ∅) :
    ((task.provisionCert answers).final w).resolver.challengeCerts = ∅ ↔
      ¬ (task.PlacesOrder answers w ∧ StopsInstalled False answers.authorizations) := by
  rw [AcmeRenewalTask.provisionCert_eq]
  have hkeeps := task.keeps_account answers
  unfold AcmeRenewalTask.PlacesOrder
  cases haccount : (task.account answers).run w with
  | error e w₁ =>
    rw [EStateM.final_bind_of_error haccount]
    refine iff_of_true ((hkeeps.of_error haccount).trans hempty) ?_
    rintro ⟨⟨⟨state, w', h⟩, -⟩, -⟩
    cases h
  | ok state w₁ =>
    have hempty₁ : ¬ w₁.Challenged := fun h => h ((hkeeps.of_ok haccount).trans hempty)
    have hcerts : ((task.orderReady answers >>= fun _ =>
          task.finalizeAndCache answers state).final w₁).resolver.challengeCerts =
        ((task.orderReady answers).final w₁).resolver.challengeCerts :=
      EStateM.Keeps.final_bind (fun _ => task.keeps_finalizeAndCache answers state) w₁
    rw [EStateM.final_bind_of_ok haccount, hcerts, ← not_iff_not, not_not]
    refine (AcmeRenewalTask.challenged_orderReady hempty₁).trans ?_
    constructor
    · rintro ⟨horder, hstops⟩
      exact ⟨⟨⟨state, w₁, rfl⟩, horder⟩, hstops⟩
    · rintro ⟨⟨-, horder⟩, hstops⟩
      exact ⟨horder, hstops⟩

namespace Sample

/-- A pending authorization for a domain. -/
def pendingFor (setReady : Except String Unit) : Authorization :=
  { status := .pending
    challenge := some
      { domain := some (Bytes.ascii "edge"), cert := .ok { chain := [] }, setReady } }

def authorizing (setReady : Except String Unit) : AcmeAnswers :=
  { allGranted with authorizations := [.ok (pendingFor setReady)] }

end Sample

theorem granted_order_clears_certs :
    ((((Sample.acmeTask none).provisionCert (Sample.authorizing (.ok ()))).final
      Sample.firstRun)).resolver.challengeCerts = ∅ := by
  refine (challenge_certs_cleared_iff _ _ rfl).mpr ?_
  rintro ⟨-, done, result, rest, heq, -, installed, hleft, -⟩
  -- the only authorization goes through
  have hresult : result ∈ [Except.ok (Sample.pendingFor (.ok ()))] := by
    show result ∈ (Sample.authorizing (.ok ())).authorizations
    rw [heq]
    exact List.mem_append_right _ List.mem_cons_self
  rw [List.mem_singleton.mp hresult] at hleft
  cases hleft

/-- The challenge cannot be signalled ready: the error leaves through `?`, and the certificate of
    the challenge stays. -/
theorem failed_signal_leaves_cert :
    Sample.firstRun.resolver.challengeCerts = ∅ ∧
      ((Sample.acmeTask none).provisionCert (Sample.authorizing (.error "timeout"))).run
          Sample.firstRun =
        .error (.acme "failed to signal challenge ready: timeout")
          (((Sample.acmeTask none).provisionCert (Sample.authorizing (.error "timeout"))).final
            Sample.firstRun) ∧
      ((((Sample.acmeTask none).provisionCert (Sample.authorizing (.error "timeout"))).final
        Sample.firstRun)).resolver.challengeCerts.get (Bytes.ascii "edge") =
          some { chain := [] } :=
  ⟨rfl, rfl, rfl⟩

end Reduction
