import Reduction.ForStd.Run
import Reduction.Native.Acme

/-!
# Custody of the ACME state

Every attempt loads the secret state again, may create an account, and persists up
to two states.  What it does to the store, to the accounts and to the log of
persist calls is `Effect`; `provisionCert_spec` says so as a triple, put together
from one triple for each part of the program.

A file store loads what was persisted last.  The store of Barrel custody loads
what the process was launched with, as often as it is asked: without credentials
in there, every attempt creates an account of its own, and the state that it
persists first has lost the certificate of the attempt before.

- `provisionCert_effect`: what one attempt does
- `custody_kept_iff`: the runs in which at most one account is created and a
  certificate that was persisted stays
-/

namespace Reduction

open Std.Do Run

set_option mvcgen.warning false

/-! ## The parts of an attempt -/

namespace AcmeM

variable {c : Custody}

@[spec] theorem attempt_spec {α : Type} (context : String) (result : Except String α) :
    ⦃fun w => ⌜w.custody = c⌝⦄ attempt context result
    ⦃post⟨fun a w => ⌜result = .ok a ∧ w.custody = c⌝,
      fun _ w => ⌜result.toBool = false ∧ w.custody = c⌝⟩⦄ := by
  cases result with
  | ok a =>
    unfold attempt
    mvcgen
  | error e =>
    unfold attempt
    mvcgen

@[spec] theorem setChallengeCert_spec (domain : Bytes) (key : CertifiedKey) :
    ⦃fun w => ⌜w.custody = c⌝⦄ setChallengeCert domain key
    ⦃post⟨fun _ w => ⌜w.custody = c⌝, fun _ w => ⌜w.custody = c⌝⟩⦄ := by
  unfold setChallengeCert
  mvcgen

@[spec] theorem clearChallengeCerts_spec :
    ⦃fun w => ⌜w.custody = c⌝⦄ clearChallengeCerts
    ⦃post⟨fun _ w => ⌜w.custody = c⌝, fun _ w => ⌜w.custody = c⌝⟩⦄ := by
  unfold clearChallengeCerts
  mvcgen

end AcmeM

/-- The account is created if it is asked for. -/
def AcmeAnswers.createsAccount (answers : AcmeAnswers) : Bool :=
  answers.accountBuilder.toBool && answers.create.toBool

namespace AcmeRenewalTask

variable (task : AcmeRenewalTask) (answers : AcmeAnswers) {c : Custody}

@[spec] theorem authorize_spec (result : Except String Authorization) :
    ⦃fun w => ⌜w.custody = c⌝⦄ authorize result
    ⦃post⟨fun _ w => ⌜w.custody = c⌝, fun _ w => ⌜w.custody = c⌝⟩⦄ := by
  unfold authorize
  mvcgen
  all_goals simp_all

theorem authorizations_spec (results : List (Except String Authorization)) :
    ⦃fun w => ⌜w.custody = c⌝⦄ results.forM authorize
    ⦃post⟨fun _ w => ⌜w.custody = c⌝, fun _ w => ⌜w.custody = c⌝⟩⦄ := by
  induction results with
  | nil =>
    show ⦃_⦄ (pure PUnit.unit : AcmeM PUnit) ⦃_⦄
    mvcgen
  | cons result results ih =>
    show ⦃_⦄ (do authorize result; results.forM authorize) ⦃_⦄
    mvcgen [ih]
    all_goals simp_all

/-- The order leaves the secrets alone. -/
@[spec] theorem orderReady_spec :
    ⦃fun w => ⌜w.custody = c⌝⦄ task.orderReady answers
    ⦃post⟨fun _ w => ⌜w.custody = c⌝, fun _ w => ⌜w.custody = c⌝⟩⦄ := by
  unfold orderReady
  mvcgen [authorizations_spec]
  all_goals simp_all +zetaDelta

@[spec] theorem load_spec :
    ⦃fun w => ⌜w.custody = c⌝⦄ task.load
    ⦃post⟨fun state w => ⌜task.store.load task.libs.json c = .ok state ∧ w.custody = c⌝,
      fun _ w => ⌜(task.store.load task.libs.json c).toBool = false ∧ w.custody = c⌝⟩⦄ := by
  unfold load
  mvcgen
  all_goals simp_all

@[spec] theorem persist_spec (answer : Except PersistError Unit) (state : AcmeSecretState) :
    ⦃fun w => ⌜w.custody = c⌝⦄ task.persist answer state
    ⦃post⟨fun _ w => ⌜w.custody = c.persist task.libs.json task.store answer state⌝,
      fun _ w => ⌜w.custody = c.persist task.libs.json task.store answer state⌝⟩⦄ := by
  unfold persist
  mvcgen
  all_goals simp_all +zetaDelta

@[spec] theorem accountBuilder_spec :
    ⦃fun w => ⌜w.custody = c⌝⦄ task.accountBuilder answers
    ⦃post⟨fun _ w => ⌜answers.accountBuilder = .ok () ∧ w.custody = c⌝,
      fun _ w => ⌜answers.accountBuilder.toBool = false ∧ w.custody = c⌝⟩⦄ := by
  unfold accountBuilder
  mvcgen

/-- The custody after the account of this attempt was created and persisted. -/
def afterCreate (c : Custody) (state : AcmeSecretState) : Custody :=
  (c.createAccount task.newAccount).persist task.libs.json task.store answers.persistAccount state

/-- What an attempt has after `get_or_create_account`: the account of the state that it loaded, or a
    new one. -/
inductive HasAccount (c : Custody) (state : AcmeSecretState) : AcmeSecretState → Custody → Prop
  | restored (h : state.accountCredentials ≠ none) : HasAccount c state state c
  | created {credentials : Bytes} (h : state.accountCredentials = none)
      (hcreates : answers.createsAccount = true) :
      HasAccount c state { state with accountCredentials := some credentials }
        (task.afterCreate answers c { state with accountCredentials := some credentials })

@[spec] theorem getOrCreateAccount_spec (state : AcmeSecretState) :
    ⦃fun w => ⌜w.custody = c⌝⦄ task.getOrCreateAccount answers state
    ⦃post⟨fun state' w => ⌜task.HasAccount answers c state state' w.custody⌝,
      fun _ w =>
        ⌜((state.accountCredentials = none → answers.createsAccount = false) ∧ w.custody = c) ∨
          ∃ state', task.HasAccount answers c state state' w.custody⌝⟩⦄ := by
  unfold getOrCreateAccount
  mvcgen
  all_goals simp_all +zetaDelta [AcmeAnswers.createsAccount, Except.toBool]
  · exact .restored (by simp_all)
  · exact .created ‹_› (by simp_all [AcmeAnswers.createsAccount, Except.toBool])
  · exact fun _ => ⟨_, .created ‹_› (by simp_all [AcmeAnswers.createsAccount, Except.toBool])⟩

/-- Nothing is persisted before the certificate is there. -/
@[spec] theorem finalizeAndCache_spec (state : AcmeSecretState) :
    ⦃fun w => ⌜w.custody = c⌝⦄ task.finalizeAndCache answers state
    ⦃post⟨fun _ w => ⌜∃ cert key, w.custody =
          c.persist task.libs.json task.store answers.persistCert
            { state with certChainPem := some cert, keyPem := some key }⌝,
      fun _ w => ⌜w.custody = c ∨ ∃ cert key, w.custody =
          c.persist task.libs.json task.store answers.persistCert
            { state with certChainPem := some cert, keyPem := some key }⌝⟩⦄ := by
  unfold finalizeAndCache
  mvcgen
  all_goals simp_all +zetaDelta
  · exact fun _ _ => ⟨_, _, rfl⟩
  · exact fun _ _ => .inr ⟨_, _, rfl⟩
  · exact fun _ => .inr ⟨_, _, rfl⟩

/-! ## One attempt -/

/-- The state in the store has no account. -/
def NeedsAccount (c : Custody) : Prop :=
  ∃ state, task.store.load task.libs.json c = .ok state ∧
    (state.getD .default).accountCredentials = none

/-- What an attempt does to the custody. -/
inductive Effect (c : Custody) : Custody → Prop
  | nothing (h : ¬ (task.NeedsAccount c ∧ answers.createsAccount = true)) : Effect c c
  | account {state : Option AcmeSecretState} {state' : AcmeSecretState} {c' : Custody}
      (hload : task.store.load task.libs.json c = .ok state)
      (haccount : task.HasAccount answers c (state.getD .default) state' c') : Effect c c'
  | issued {state : Option AcmeSecretState} {state' : AcmeSecretState} {c' : Custody}
      {cert key : Bytes} (hload : task.store.load task.libs.json c = .ok state)
      (haccount : task.HasAccount answers c (state.getD .default) state' c') :
      Effect c
        (c'.persist task.libs.json task.store answers.persistCert
          { state' with certChainPem := some cert, keyPem := some key })

/-- The store was read, and the account refused. -/
theorem effect_of_refused {state : Option AcmeSecretState}
    (hload : task.store.load task.libs.json c = .ok state)
    (h : (state.getD .default).accountCredentials = none → answers.createsAccount = false) :
    task.Effect answers c c := by
  refine .nothing ?_
  rintro ⟨⟨state', hload', hnone⟩, hcreates⟩
  cases hload.symm.trans hload'
  rw [h hnone] at hcreates
  cases hcreates

theorem effect_of_unreadable (h : (task.store.load task.libs.json c).toBool = false) :
    task.Effect answers c c := by
  refine .nothing ?_
  rintro ⟨⟨state, hload, -⟩, -⟩
  rw [hload] at h
  cases h

theorem provisionCert_spec :
    ⦃fun w => ⌜w.custody = c⌝⦄ task.provisionCert answers
    ⦃post⟨fun _ w => ⌜task.Effect answers c w.custody⌝,
      fun _ w => ⌜task.Effect answers c w.custody⌝⟩⦄ := by
  unfold provisionCert
  mvcgen
  all_goals simp_all
  · rename_i hload haccount _
    exact fun cert key _ => .issued hload.1 haccount
  · rename_i hload haccount _
    rintro (hsame | ⟨cert, key, hpersist⟩)
    · exact hsame ▸ .account hload.1 haccount
    · exact hpersist ▸ .issued hload.1 haccount
  · rename_i hload haccount
    exact fun _ => .account hload.1 haccount
  · rename_i hload
    rintro (⟨hrefused, hsame⟩ | ⟨state', haccount⟩)
    · rw [hsame]
      exact task.effect_of_refused answers hload.1 hrefused
    · exact .account hload.1 haccount
  · exact fun hload _ => task.effect_of_unreadable answers hload

/-- One attempt of the process; a certificate that was issued is installed. -/
def attempt (w : AcmeWorld) (answers : AcmeAnswers) : AcmeWorld :=
  match (task.provisionCert answers).run w with
  | .ok key w => setCert key w
  | .error _ w => w

theorem provisionCert_effect (w : AcmeWorld) :
    task.Effect answers w.custody (task.attempt w answers).custody := by
  have h := task.provisionCert_spec answers (c := w.custody) w rfl
  unfold attempt
  cases hrun : (task.provisionCert answers).run w with
  | ok key w' =>
    show task.Effect answers w.custody w'.custody
    simpa [WP.wp, PredTrans.apply, hrun] using h
  | error e w' => simpa [WP.wp, PredTrans.apply, hrun] using h

end AcmeRenewalTask

/-! ## Calls of `persist` -/

/-- The state has a certificate chain and a key. -/
def AcmeSecretState.Complete (state : AcmeSecretState) : Prop :=
  state.certChainPem ≠ none ∧ state.keyPem ≠ none

namespace Custody

/-- Every call of `persist` succeeded. -/
def AllPersisted (c : Custody) : Prop := ∀ call ∈ c.persists, call.2 = .ok ()

/-- At most one account was created, and what was persisted after a certificate and a key has both. -/
structure Kept (c : Custody) : Prop where
  accounts : c.accounts.length ≤ 1
  certs : c.persists.Pairwise fun earlier later => earlier.1.Complete → later.1.Complete

variable {c : Custody} {json : StateJson} {store : SecretStore} {answer : Except PersistError Unit}
  {state : AcmeSecretState}

@[simp] theorem persists_persist : (c.persist json store answer state).persists =
    c.persists ++ [(state, store.answer answer)] := by
  unfold persist
  dsimp only
  split
  · cases store <;> rfl
  · rfl

@[simp] theorem accounts_persist : (c.persist json store answer state).accounts = c.accounts := by
  unfold persist
  dsimp only
  split
  · cases store <;> rfl
  · rfl

/-- A file store loads what was persisted last. -/
theorem load_persist_file {dir : PathBuf} (hanswer : SecretStore.answer (.file dir) answer = .ok ()) :
    SecretStore.load json (c.persist json (.file dir) answer state) (.file dir) =
      .ok (some state) := by
  unfold persist
  dsimp only
  rw [hanswer]
  dsimp only [SecretStore.stored, SecretStore.load]
  rw [Function.update_self]
  show (json.fromJson (json.toJson state)).map some = .ok (some state)
  rw [json.fromJson_toJson]
  rfl

/-- The store of Barrel custody does not. -/
theorem load_persist_barrel {var : Bytes} {command : List Bytes} :
    SecretStore.load json (c.persist json (.barrel var command) answer state)
        (.barrel var command) =
      SecretStore.load json c (.barrel var command) := by
  have hvars : (c.persist json (.barrel var command) answer state).vars = c.vars := by
    unfold persist
    dsimp only
    split <;> rfl
  rw [SecretStore.load, SecretStore.load, hvars]

theorem AllPersisted.of_persist (h : (c.persist json store answer state).AllPersisted) :
    c.AllPersisted ∧ store.answer answer = .ok () := by
  unfold AllPersisted at h ⊢
  rw [persists_persist, List.forall_mem_append, List.forall_mem_singleton] at h
  exact h

theorem exists_complete_persist :
    (∃ call ∈ (c.persist json store answer state).persists, call.1.Complete) ↔
      (∃ call ∈ c.persists, call.1.Complete) ∨ state.Complete := by
  simp only [persists_persist, List.mem_append, List.mem_singleton, or_and_right, exists_or,
    exists_eq_left]

/-- A persisted state that has what earlier ones had keeps the custody. -/
theorem Kept.persist (h : c.Kept)
    (hcerts : (∃ call ∈ c.persists, call.1.Complete) → state.Complete) :
    (c.persist json store answer state).Kept := by
  refine ⟨by rw [accounts_persist]; exact h.accounts, ?_⟩
  rw [persists_persist, List.pairwise_append]
  refine ⟨h.certs, List.pairwise_singleton .., ?_⟩
  intro earlier hearlier later hlater hcomplete
  rw [List.mem_singleton.mp hlater]
  exact hcerts ⟨earlier, hearlier, hcomplete⟩

end Custody

namespace AcmeRenewalTask

variable {task : AcmeRenewalTask} {answers : AcmeAnswers} {c c' : Custody}

/-- The calls of an attempt are added to those before. -/
theorem Effect.allPersisted (h : task.Effect answers c c') (hok : c'.AllPersisted) :
    c.AllPersisted := by
  have haccount : ∀ {state state' c'}, task.HasAccount answers c state state' c' →
      c'.AllPersisted → c.AllPersisted := by
    intro state state' c' h hok
    cases h with
    | restored => exact hok
    | created => exact hok.of_persist.1
  cases h with
  | nothing => exact hok
  | account _ h => exact haccount h hok
  | issued _ h => exact haccount h hok.of_persist.1

theorem Effect.length_accounts (h : task.Effect answers c c') :
    (task.NeedsAccount c ∧ answers.createsAccount = true ∧
        c'.accounts.length = c.accounts.length + 1) ∨
      (¬ (task.NeedsAccount c ∧ answers.createsAccount = true) ∧ c'.accounts = c.accounts) := by
  have haccount : ∀ {state : Option AcmeSecretState} {state' c'},
      task.store.load task.libs.json c = .ok state →
      task.HasAccount answers c (state.getD .default) state' c' →
      (task.NeedsAccount c ∧ answers.createsAccount = true ∧
          c'.accounts.length = c.accounts.length + 1) ∨
        (¬ (task.NeedsAccount c ∧ answers.createsAccount = true) ∧ c'.accounts = c.accounts) := by
    intro state state' c' hload h
    cases h with
    | restored h =>
      refine .inr ⟨?_, rfl⟩
      rintro ⟨⟨state'', hload', hnone⟩, -⟩
      cases hload.symm.trans hload'
      exact h hnone
    | created h hcreates =>
      refine .inl ⟨⟨state, hload, h⟩, hcreates, ?_⟩
      rw [afterCreate, Custody.accounts_persist, Custody.createAccount, List.length_append]
      rfl
  cases h with
  | nothing h => exact .inr ⟨h, rfl⟩
  | account hload h => exact haccount hload h
  | issued hload h =>
    rw [Custody.accounts_persist]
    exact haccount hload h

/-! ## The file store -/

section File

variable {dir : PathBuf}

/-- The file has what was persisted: the account, and the certificate if there was one. -/
structure FileKept (task : AcmeRenewalTask) (c : Custody) : Prop extends c.Kept where
  account : c.accounts ≠ [] → ¬ task.NeedsAccount c
  loaded : (∃ call ∈ c.persists, call.1.Complete) →
    ∃ state, task.store.load task.libs.json c = .ok (some state) ∧ state.Complete

theorem FileKept.of_persist (hstore : task.store = .file dir) {answer : Except PersistError Unit}
    {state : AcmeSecretState} (h : c.Kept) (hanswer : task.store.answer answer = .ok ())
    (haccount : state.accountCredentials ≠ none)
    (hcerts : (∃ call ∈ c.persists, call.1.Complete) → state.Complete) :
    task.FileKept (c.persist task.libs.json task.store answer state) := by
  have hload : task.store.load task.libs.json (c.persist task.libs.json task.store answer state) =
      .ok (some state) := by
    rw [hstore] at hanswer ⊢
    exact Custody.load_persist_file hanswer
  refine ⟨h.persist hcerts, ?_, ?_⟩
  · rintro - ⟨state', hload', hnone⟩
    cases hload.symm.trans hload'
    exact haccount hnone
  · rw [Custody.exists_complete_persist]
    exact fun hcomplete => ⟨state, hload, hcomplete.elim hcerts id⟩

/-- With its account an attempt has what the file has. -/
theorem FileKept.hasAccount (h : task.FileKept c) (hstore : task.store = .file dir)
    {state : Option AcmeSecretState} {state' : AcmeSecretState}
    (hload : task.store.load task.libs.json c = .ok state)
    (haccount : task.HasAccount answers c (state.getD .default) state' c')
    (hok : c'.AllPersisted) :
    task.FileKept c' ∧ state'.accountCredentials ≠ none ∧
      ((∃ call ∈ c'.persists, call.1.Complete) → state'.Complete) := by
  have hstate : (∃ call ∈ c.persists, call.1.Complete) → (state.getD .default).Complete := by
    intro hcall
    obtain ⟨loaded, hloaded, hcomplete⟩ := h.loaded hcall
    cases hload.symm.trans hloaded
    exact hcomplete
  cases haccount with
  | restored haccount => exact ⟨h, haccount, hstate⟩
  | created hnone hcreates =>
    rename_i credentials
    have hempty : c.accounts = [] := by
      by_contra hne
      exact h.account hne ⟨state, hload, hnone⟩
    have hcreated : (c.createAccount task.newAccount).Kept := by
      refine ⟨?_, h.certs⟩
      rw [Custody.createAccount, hempty]
      exact Nat.le_refl 1
    have hcerts : (∃ call ∈ c.persists, call.1.Complete) →
        AcmeSecretState.Complete { state.getD .default with accountCredentials := some credentials } :=
      hstate
    have hkept := FileKept.of_persist hstore hcreated hok.of_persist.2 (by simp) hcerts
    refine ⟨hkept, by simp, ?_⟩
    rw [afterCreate, Custody.exists_complete_persist]
    exact fun hcomplete => hcomplete.elim hcerts id

theorem FileKept.effect (h : task.FileKept c) (hstore : task.store = .file dir)
    (heffect : task.Effect answers c c') (hok : c'.AllPersisted) : task.FileKept c' := by
  cases heffect with
  | nothing => exact h
  | account hload haccount => exact (h.hasAccount hstore hload haccount hok).1
  | issued hload haccount =>
    obtain ⟨hok', hanswer⟩ := hok.of_persist
    obtain ⟨hkept, hstate, -⟩ := h.hasAccount hstore hload haccount hok'
    exact FileKept.of_persist hstore hkept.toKept hanswer hstate (fun _ => ⟨by simp, by simp⟩)

/-- A certificate is stored before it is handed out. -/
theorem provisionCert_stored (hstore : task.store = .file dir) :
    ⦃fun w => ⌜w.custody = c⌝⦄ task.provisionCert answers
    ⦃post⟨fun key w => ⌜task.loadCachedCert w.custody = some key⌝, fun _ _ => ⌜True⌝⟩⦄ := by
  unfold provisionCert finalizeAndCache persist
  mvcgen
  all_goals simp_all +zetaDelta
  rename_i hanswer
  intro hbuild _
  simp [loadCachedCert, hstore, Custody.load_persist_file hanswer, hbuild, Except.toOption]

end File

/-! ## The store of Barrel custody -/

section Barrel

variable {var : Bytes} {command : List Bytes}

/-- What the process was launched with is what every attempt loads. -/
theorem Effect.load_barrel (hstore : task.store = .barrel var command)
    (h : task.Effect answers c c') :
    task.store.load task.libs.json c' = task.store.load task.libs.json c := by
  rw [hstore]
  have haccount : ∀ {state state' c'}, task.HasAccount answers c state state' c' →
      SecretStore.load task.libs.json c' (.barrel var command) =
        SecretStore.load task.libs.json c (.barrel var command) := by
    intro state state' c' h
    cases h with
    | restored => rfl
    | created =>
      rw [afterCreate, hstore, Custody.load_persist_barrel]
      rfl
  cases h with
  | nothing => rfl
  | account _ h => exact haccount h
  | issued _ h =>
    rw [hstore, Custody.load_persist_barrel]
    exact haccount h

theorem Effect.needsAccount_barrel (hstore : task.store = .barrel var command)
    (h : task.Effect answers c c') : task.NeedsAccount c' ↔ task.NeedsAccount c := by
  unfold NeedsAccount
  rw [h.load_barrel hstore]

/-- With an account from the start, whatever is persisted has a certificate. -/
theorem Effect.complete_of_account (h : task.Effect answers c c') (hneeds : ¬ task.NeedsAccount c)
    (hcomplete : ∀ call ∈ c.persists, call.1.Complete) :
    ∀ call ∈ c'.persists, call.1.Complete := by
  have haccount : ∀ {state : Option AcmeSecretState} {state' c'},
      task.store.load task.libs.json c = .ok state →
      task.HasAccount answers c (state.getD .default) state' c' → c' = c := by
    intro state state' c' hload h
    cases h with
    | restored => rfl
    | created hnone => exact absurd ⟨state, hload, hnone⟩ hneeds
  cases h with
  | nothing => exact hcomplete
  | account hload h => exact haccount hload h ▸ hcomplete
  | issued hload h =>
    rw [haccount hload h, Custody.persists_persist, List.forall_mem_append,
      List.forall_mem_singleton]
    exact ⟨hcomplete, by simp, by simp⟩

/-- Without one, nothing is persisted before the first account is created, and the attempt that
    creates it persists the certificate last. -/
structure FirstKept (c : Custody) : Prop where
  persists : c.accounts = [] → c.persists = []
  certs : c.accounts.length = 1 →
    c.persists.Pairwise fun earlier later => earlier.1.Complete → later.1.Complete

theorem FirstKept.afterCreate (h : FirstKept c) (state : AcmeSecretState) :
    FirstKept (task.afterCreate answers c state) ∧ (task.afterCreate answers c state).accounts ≠ [] := by
  have haccounts : (task.afterCreate answers c state).accounts = c.accounts ++ [task.newAccount] :=
    Custody.accounts_persist
  have hne : (task.afterCreate answers c state).accounts ≠ [] := by simp [haccounts]
  refine ⟨⟨fun hempty => absurd hempty hne, ?_⟩, hne⟩
  rw [haccounts, List.length_append, List.length_singleton, Nat.add_eq_right,
    List.length_eq_zero_iff]
  intro hempty
  rw [AcmeRenewalTask.afterCreate, Custody.persists_persist]
  show (c.persists ++ [_]).Pairwise _
  rw [h.persists hempty]
  exact List.pairwise_singleton ..

theorem FirstKept.effect (h : FirstKept c) (heffect : task.Effect answers c c')
    (hneeds : task.NeedsAccount c) : FirstKept c' := by
  cases heffect with
  | nothing => exact h
  | account _ haccount =>
    cases haccount with
    | restored => exact h
    | created => exact (h.afterCreate _).1
  | issued hload haccount =>
    cases haccount with
    | restored haccount =>
      obtain ⟨state', hload', hnone⟩ := hneeds
      cases hload.symm.trans hload'
      exact absurd hnone haccount
    | created =>
      obtain ⟨hfirst, hne⟩ := @FirstKept.afterCreate task answers _ h _
      refine ⟨fun hempty => absurd (Custody.accounts_persist ▸ hempty) hne, ?_⟩
      rw [Custody.accounts_persist]
      intro hone
      have hkept : Custody.Kept _ := ⟨Nat.le_of_eq hone, hfirst.certs hone⟩
      exact (hkept.persist fun _ => ⟨by simp, by simp⟩).certs

end Barrel

/-! ## Whole runs -/

section Runs

/-- The store gives back what was persisted, or holds an account from the start, or cannot be read. -/
def Custodial (task : AcmeRenewalTask) (c : Custody) : Prop :=
  match task.store with
  | .file _ => True
  | .barrel .. => ¬ task.NeedsAccount c

variable (w : AcmeWorld) (attempts : List AcmeAnswers)

/-- What every attempt keeps if its persist calls succeed holds after a run in which they all did. -/
theorem run_attempt_invariant {inv : Custody → Prop}
    (hstep : ∀ {answers c c'}, inv c → task.Effect answers c c' → c'.AllPersisted → inv c')
    (h₀ : inv w.custody) (hok : (run task.attempt w attempts).custody.AllPersisted) :
    inv (run task.attempt w attempts).custody := by
  have hinv : (run task.attempt w attempts).custody.AllPersisted →
      inv (run task.attempt w attempts).custody :=
    @run_invariant_of_step _ _ _
      (fun w => w.custody.AllPersisted → inv w.custody)
      (fun w answers h hok =>
        hstep (h ((task.provisionCert_effect answers w).allPersisted hok))
          (task.provisionCert_effect answers w) hok)
      w (fun _ => h₀) attempts
  exact hinv hok

variable {w}

theorem length_accounts_barrel {var : Bytes} {command : List Bytes}
    (hstore : task.store = .barrel var command) (hneeds : task.NeedsAccount w.custody) :
    (run task.attempt w attempts).custody.accounts.length =
      w.custody.accounts.length + attempts.countP AcmeAnswers.createsAccount := by
  induction attempts generalizing w with
  | nil => rfl
  | cons answers attempts ih =>
    have heffect := task.provisionCert_effect answers w
    rw [run_cons, ih ((heffect.needsAccount_barrel hstore).mpr hneeds), List.countP_cons]
    obtain ⟨-, hcreates, hlength⟩ | ⟨hnot, hsame⟩ := heffect.length_accounts
    · rw [hlength, if_pos hcreates]
      omega
    · rw [hsame, if_neg fun hcreates => hnot ⟨hneeds, hcreates⟩]
      omega

theorem kept_file {dir : PathBuf} (hstore : task.store = .file dir)
    (haccounts : w.custody.accounts = []) (hpersists : w.custody.persists = [])
    (hok : (run task.attempt w attempts).custody.AllPersisted) :
    (run task.attempt w attempts).custody.Kept := by
  have hfile : task.FileKept w.custody := by
    refine ⟨⟨?_, ?_⟩, fun hne => absurd haccounts hne, ?_⟩
    · rw [haccounts]
      exact Nat.zero_le 1
    · rw [hpersists]
      exact .nil
    · rw [hpersists]
      rintro ⟨call, hcall, -⟩
      cases hcall
  have hrun := @run_attempt_invariant task w attempts task.FileKept
    (fun h heffect hok => h.effect hstore heffect hok) hfile hok
  exact hrun.toKept

section Barrel

variable {var : Bytes} {command : List Bytes} (hstore : task.store = .barrel var command)
include hstore

theorem kept_barrel_of_account (hneeds : ¬ task.NeedsAccount w.custody)
    (haccounts : w.custody.accounts = []) (hpersists : w.custody.persists = [])
    (hok : (run task.attempt w attempts).custody.AllPersisted) :
    (run task.attempt w attempts).custody.Kept := by
  let inv (c : Custody) : Prop :=
    ¬ task.NeedsAccount c ∧ c.accounts = [] ∧ ∀ call ∈ c.persists, call.1.Complete
  have hstep : ∀ {answers c c'}, inv c → task.Effect answers c c' → c'.AllPersisted → inv c' := by
    rintro answers c c' ⟨hneeds, haccounts, hcomplete⟩ heffect -
    refine ⟨fun hneeds' => hneeds ((heffect.needsAccount_barrel hstore).mp hneeds'), ?_,
      heffect.complete_of_account hneeds hcomplete⟩
    obtain ⟨hneeds', -⟩ | ⟨-, hsame⟩ := heffect.length_accounts
    · exact absurd hneeds' hneeds
    · rw [hsame, haccounts]
  have hinv₀ : inv w.custody := ⟨hneeds, haccounts, by simp [hpersists]⟩
  obtain ⟨-, hnone, hcomplete⟩ := run_attempt_invariant w attempts hstep hinv₀ hok
  refine ⟨?_, ?_⟩
  · rw [hnone]
    exact Nat.zero_le 1
  · exact List.pairwise_of_forall_mem_list fun _ _ later hlater _ => hcomplete later hlater

theorem kept_barrel_iff (hneeds : task.NeedsAccount w.custody)
    (haccounts : w.custody.accounts = []) (hpersists : w.custody.persists = [])
    (hok : (run task.attempt w attempts).custody.AllPersisted) :
    (run task.attempt w attempts).custody.Kept ↔
      attempts.countP AcmeAnswers.createsAccount ≤ 1 := by
  have hcount := length_accounts_barrel attempts hstore hneeds
  rw [haccounts, List.length_nil, Nat.zero_add] at hcount
  refine ⟨fun hkept => hcount ▸ hkept.accounts, fun hle => ⟨hcount ▸ hle, ?_⟩⟩
  let inv (c : Custody) : Prop := FirstKept c ∧ task.NeedsAccount c
  have hstep : ∀ {answers c c'}, inv c → task.Effect answers c c' → c'.AllPersisted → inv c' := by
    rintro answers c c' ⟨hfirst, hneeds⟩ heffect -
    exact ⟨hfirst.effect heffect hneeds, (heffect.needsAccount_barrel hstore).mpr hneeds⟩
  have hfirst₀ : FirstKept w.custody := by
    refine ⟨fun _ => hpersists, fun _ => ?_⟩
    rw [hpersists]
    exact .nil
  obtain ⟨hfirst, -⟩ := run_attempt_invariant w attempts hstep ⟨hfirst₀, hneeds⟩ hok
  -- with no account nothing was persisted, and with one its attempt did
  cases hempty : (run task.attempt w attempts).custody.accounts with
  | nil =>
    rw [hfirst.persists hempty]
    exact .nil
  | cons account rest =>
    refine hfirst.certs ?_
    rw [hempty, List.length_cons] at hcount ⊢
    omega

end Barrel

/-- When every call of `persist` succeeds, the custody is kept if and only if the store holds the
    account, or at most one attempt creates one. -/
theorem custody_kept_iff (task : AcmeRenewalTask) {w : AcmeWorld}
    (haccounts : w.custody.accounts = []) (hpersists : w.custody.persists = [])
    (attempts : List AcmeAnswers)
    (hok : (run task.attempt w attempts).custody.AllPersisted) :
    (run task.attempt w attempts).custody.Kept ↔
      task.Custodial w.custody ∨ attempts.countP AcmeAnswers.createsAccount ≤ 1 := by
  cases hstore : task.store with
  | file dir =>
    refine iff_of_true (kept_file attempts hstore haccounts hpersists hok) (.inl ?_)
    rw [Custodial, hstore]
    trivial
  | barrel var command =>
    have hcustodial : task.Custodial w.custody ↔ ¬ task.NeedsAccount w.custody := by
      rw [Custodial, hstore]
    rw [hcustodial]
    by_cases hneeds : task.NeedsAccount w.custody
    · rw [kept_barrel_iff attempts hstore hneeds haccounts hpersists hok]
      exact (or_iff_right_of_imp fun hnot => absurd hneeds hnot).symm
    · exact iff_of_true (kept_barrel_of_account attempts hstore hneeds haccounts hpersists hok)
        (.inl hneeds)

end Runs

end AcmeRenewalTask

/-! ## Sample attempts -/

namespace Sample

/-- A length-free encoding: each byte of a text is marked, and its end. -/
def fieldBytes : Option Bytes → Bytes
  | none => [0]
  | some text => 1 :: (text.flatMap (fun byte => [1, byte]) ++ [0])

def readText : Bytes → Option (Bytes × Bytes)
  | 0 :: rest => some ([], rest)
  | 1 :: byte :: rest => (readText rest).map fun (text, rest) => (byte :: text, rest)
  | _ => none

def readField : Bytes → Option (Option Bytes × Bytes)
  | 0 :: rest => some (none, rest)
  | 1 :: rest => (readText rest).map fun (text, rest) => (some text, rest)
  | _ => none

theorem readText_text (text rest : Bytes) :
    readText (text.flatMap (fun byte => [1, byte]) ++ 0 :: rest) = some (text, rest) := by
  induction text with
  | nil => rfl
  | cons byte text ih =>
    show (readText (text.flatMap (fun byte => [1, byte]) ++ 0 :: rest)).map _ = _
    rw [ih]
    rfl

theorem readField_fieldBytes (field : Option Bytes) (rest : Bytes) :
    readField (fieldBytes field ++ rest) = some (field, rest) := by
  cases field with
  | none => rfl
  | some text =>
    show (readText (text.flatMap (fun byte => [1, byte]) ++ [0] ++ rest)).map _ = _
    rw [List.append_assoc, List.singleton_append, readText_text]
    rfl

def readState (bytes : Bytes) : Option AcmeSecretState := do
  let (accountCredentials, rest) ← readField bytes
  let (certChainPem, rest) ← readField rest
  let (keyPem, _) ← readField rest
  return { accountCredentials, certChainPem, keyPem }

/-- The fields one after the other. -/
def stateJson : StateJson where
  toJson state :=
    fieldBytes state.accountCredentials ++ (fieldBytes state.certChainPem ++
      (fieldBytes state.keyPem ++ []))
  fromJson bytes :=
    match readState bytes with
    | some state => .ok state
    | none => .error "expected a field"
  fromJson_toJson state := by
    simp only [readState, readField_fieldBytes, Option.bind_eq_bind, Option.bind_some,
      Option.pure_def]

def acmeLibs : AcmeLibs :=
  { json := stateJson
    parseCredentials := fun _ => .ok ()
    buildCertifiedKeyFromPem := fun _ _ => .ok { chain := [] } }

/-- A task that keeps its state in a file, or with the given command. -/
def acmeTask (barrelState : Option BarrelStateConfig) : AcmeRenewalTask :=
  { config :=
      { domains := []
        acmeEmail := ⟨Bytes.ascii "certs@edge", by decide⟩
        cacheDir := Bytes.ascii "certs"
        staging := false
        directoryUrl := none
        directoryCaCert := none
        barrelState }
    libs := acmeLibs }

/-- A server that creates accounts and issues certificates. -/
def allGranted : AcmeAnswers :=
  { accountBuilder := .ok ()
    fromCredentials := .ok ()
    create := .ok (Bytes.ascii "acct")
    persistAccount := .ok ()
    newOrder := .ok ()
    authorizations := []
    pollReady := .ok .ready
    generateKey := .ok (Bytes.ascii "key")
    csrParams := .ok ()
    serializeRequest := .ok ()
    finalizeCsr := .ok ()
    pollCertificate := .ok (Bytes.ascii "cert")
    persistCert := .ok () }

/-- Nothing is stored, and no variable is set. -/
def firstRun : AcmeWorld :=
  { custody := { files := fun _ => none, vars := fun _ => none, accounts := [], persists := [] }
    resolver := { cert := none, challengeCerts := ∅ }
    orders := [] }

/-- What is persisted with the account, and with the certificate. -/
def accountState : AcmeSecretState :=
  { accountCredentials := some (Bytes.ascii "acct"), certChainPem := none, keyPem := none }

def certState : AcmeSecretState :=
  { accountState with
    certChainPem := some (Bytes.ascii "cert")
    keyPem := some (Bytes.ascii "key") }

def barrelState : BarrelStateConfig :=
  { envVar := Bytes.ascii "REDUCTION_ACME_STATE", persistCommand := [Bytes.ascii "barrel"] }

end Sample

theorem file_store_keeps_custody :
    (run (Sample.acmeTask none).attempt Sample.firstRun
        [Sample.allGranted, Sample.allGranted]).custody.AllPersisted ∧
      (run (Sample.acmeTask none).attempt Sample.firstRun
        [Sample.allGranted, Sample.allGranted]).custody.Kept := by
  have hok : (run (Sample.acmeTask none).attempt Sample.firstRun
      [Sample.allGranted, Sample.allGranted]).custody.AllPersisted := by
    intro call hcall
    have hmem : call ∈ [(Sample.accountState, .ok ()), (Sample.certState, .ok ()),
        (Sample.certState, .ok ())] := hcall
    simp only [List.mem_cons, List.not_mem_nil, or_false] at hmem
    obtain rfl | rfl | rfl := hmem <;> rfl
  exact ⟨hok, (AcmeRenewalTask.custody_kept_iff (Sample.acmeTask none) rfl rfl _ hok).mpr
    (.inl trivial)⟩

/-- The second attempt loads nothing again: it creates another account, and the state that it persists
    first has no certificate any more. -/
theorem barrel_forgets_account :
    let c := (run (Sample.acmeTask (some Sample.barrelState)).attempt Sample.firstRun
      [Sample.allGranted, Sample.allGranted]).custody
    c.AllPersisted ∧ c.accounts.length = 2 ∧
      c.persists.map Prod.fst =
        [Sample.accountState, Sample.certState, Sample.accountState, Sample.certState] ∧
      ¬ c.Kept := by
  refine ⟨?_, rfl, rfl, fun h => absurd h.accounts (by decide)⟩
  intro call hcall
  have hmem : call ∈ [(Sample.accountState, .ok ()), (Sample.certState, .ok ()),
      (Sample.accountState, .ok ()), (Sample.certState, .ok ())] := hcall
  simp only [List.mem_cons, List.not_mem_nil, or_false] at hmem
  obtain rfl | rfl | rfl | rfl := hmem <;> rfl

end Reduction
