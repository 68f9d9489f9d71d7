import Reduction.Spec.AcmeCustody

/-!
# Pacing of ACME renewals

Between two attempts `AcmeRenewalTask::run` sleeps until the certificate is due,
and after a failure for the backoff at least.  A success resets the backoff, so
then the certificate alone decides: one that was issued for no more than the
renewal buffer is due at once, and the loop orders the next without any sleep.

- `nextRenewalSleep_pos_iff`: when a sleep is positive
- `renewals_paced_iff`: the runs in which no attempt follows another at once
-/

namespace Reduction

open Std.Do Run

/-! ## One sleep -/

theorem failureBackoff_pos {failures : UInt32} (h : failures ≠ 0) : 0 < failureBackoff failures := by
  rw [failureBackoff, if_neg h]
  have hpow : 0 < 2 ^ min (failures.toNat - 1) 16 := Nat.two_pow_pos _
  have hsecs : 0 < min (min (2 ^ 64 - 1) (300 * 2 ^ min (failures.toNat - 1) 16)) 21600 := by
    refine lt_min (lt_min (by decide) ?_) (by decide)
    omega
  exact Nat.mul_pos hsecs (by decide)

namespace RenewalLoop

variable {task : AcmeRenewalTask} {l : RenewalLoop} {round : RenewalRound}

/-- The certificate in use is not due before the buffer. -/
def LongLived (l : RenewalLoop) (now : UInt64) : Prop :=
  ∃ key, l.world.resolver.cert = some key ∧ acmeRenewalBuffer < timeUntilExpiry key now

theorem nextRenewalSleep_pos_iff (hcert : l.world.resolver.cert ≠ none) (now : UInt64) :
    0 < l.nextRenewalSleep now ↔ l.consecutiveFailures ≠ 0 ∨ l.LongLived now := by
  obtain ⟨key, hkey⟩ := Option.ne_none_iff_exists'.mp hcert
  have hlong : l.LongLived now ↔ 0 < timeUntilRenewal key now := by
    rw [timeUntilRenewal, Nat.sub_pos_iff_lt]
    constructor
    · rintro ⟨key', hkey', hlong⟩
      cases hkey.symm.trans hkey'
      exact hlong
    · exact fun h => ⟨key, hkey, h⟩
  rw [nextRenewalSleep, hkey, hlong, lt_max_iff]
  by_cases hfailures : l.consecutiveFailures = 0
  · have hbackoff : failureBackoff l.consecutiveFailures = 0 := by
      rw [hfailures]
      rfl
    rw [hbackoff]
    simp [hfailures]
  · exact iff_of_true (.inr (failureBackoff_pos hfailures)) (.inl hfailures)

/-! ## Whole runs -/

/-- No attempt but the first comes without a sleep before it. -/
def Paced (l : RenewalLoop) : Prop := ∀ d ∈ l.sleeps.tail, 0 < d

/-- The round makes an attempt, after one that succeeded. -/
def Renews (l : RenewalLoop) (round : RenewalRound) : Prop :=
  l.shutDown = false ∧ round.shutdown = false ∧ l.sleeps ≠ [] ∧ l.consecutiveFailures = 0

/-- After a success there is a certificate. -/
def Served (l : RenewalLoop) : Prop :=
  l.sleeps ≠ [] → l.consecutiveFailures = 0 → l.world.resolver.cert ≠ none

theorem served_start (w : AcmeWorld) : (start w).Served := fun h => absurd rfl h

theorem Served.step (h : l.Served) (round : RenewalRound) : (l.step task round).Served := by
  unfold RenewalLoop.step
  split
  · exact h
  · split
    · exact h
    · dsimp only
      split
      · exact fun _ _ => Option.some_ne_none _
      · -- a failure leaves the counter above zero
        intro _ hzero
        dsimp only at hzero
        split at hzero
        · rename_i hlt
          have hsucc : (l.consecutiveFailures + 1).toNat = l.consecutiveFailures.toNat + 1 := by
            rw [UInt32.toNat_add, UInt32.toNat_one, Nat.mod_eq_of_lt hlt]
          rw [hzero, UInt32.toNat_zero] at hsucc
          omega
        · rename_i hmax
          rw [hzero, UInt32.toNat_zero] at hmax
          omega

theorem sleeps_step (hrunning : l.shutDown = false) (hround : round.shutdown = false) :
    (l.step task round).sleeps = l.sleeps ++ [l.nextRenewalSleep round.now] := by
  unfold RenewalLoop.step
  rw [if_neg (by simp [hrunning]), if_neg (by simp [hround])]
  dsimp only
  split <;> rfl

theorem sleeps_step_of_shutdown (h : l.shutDown = true ∨ round.shutdown = true) :
    (l.step task round).sleeps = l.sleeps := by
  unfold RenewalLoop.step
  split
  · rfl
  · rename_i hrunning
    rw [if_pos (h.resolve_left hrunning)]

/-- One round: an attempt after a success needs a certificate that is not due. -/
theorem paced_step_iff (h : l.Served) (round : RenewalRound) :
    (l.step task round).Paced ↔ l.Paced ∧ (l.Renews round → l.LongLived round.now) := by
  by_cases hruns : l.shutDown = false ∧ round.shutdown = false
  · by_cases hfirst : l.sleeps = []
    · refine iff_of_true ?_ ⟨?_, fun hrenews => absurd hfirst hrenews.2.2.1⟩
      · rw [Paced, sleeps_step hruns.1 hruns.2, hfirst]
        intro d hd
        cases hd
      · rw [Paced, hfirst]
        intro d hd
        cases hd
    · have hrenews : l.Renews round ↔ l.consecutiveFailures = 0 := by
        rw [Renews, and_iff_right hruns.1, and_iff_right hruns.2, and_iff_right hfirst]
      have hsleep : 0 < l.nextRenewalSleep round.now ↔ (l.Renews round → l.LongLived round.now) := by
        rw [hrenews]
        by_cases hfailures : l.consecutiveFailures = 0
        · rw [nextRenewalSleep_pos_iff (h hfirst hfailures), or_iff_right (not_not.mpr hfailures)]
          exact (imp_iff_right hfailures).symm
        · refine iff_of_true ?_ (fun hzero => absurd hzero hfailures)
          exact lt_max_of_lt_right (failureBackoff_pos hfailures)
      rw [Paced, sleeps_step hruns.1 hruns.2, List.tail_append_of_ne_nil hfirst,
        List.forall_mem_append, List.forall_mem_singleton, hsleep]
      rfl
  · have hstopped : l.shutDown = true ∨ round.shutdown = true := by
      cases hshut : l.shutDown with
      | true => exact .inl rfl
      | false =>
        cases hround : round.shutdown with
        | true => exact .inr rfl
        | false => exact absurd ⟨hshut, hround⟩ hruns
    rw [Paced, sleeps_step_of_shutdown hstopped]
    exact (and_iff_left fun hrenews => absurd ⟨hrenews.1, hrenews.2.1⟩ hruns).symm

/-- No attempt follows another without a sleep if and only if every certificate that was issued
    before another attempt has more than the renewal buffer left. -/
theorem renewals_paced_iff (task : AcmeRenewalTask) (w : AcmeWorld) (rounds : List RenewalRound) :
    (run (step task) (start w) rounds).Paced ↔
      RunOk (step task) (fun l round => l.Renews round → l.LongLived round.now) (start w)
        rounds := by
  have hpaced₀ : (start w).Paced := fun d hd => by cases hd
  rw [run_iff_runOk (fun _ round h => h.step round) (fun _ round h => paced_step_iff h round)
    (served_start w) rounds]
  exact and_iff_right hpaced₀

end RenewalLoop

namespace Sample

/-- The server issues a certificate that ends at the given time. -/
def issuing (notAfter : Int64) : AcmeRenewalTask :=
  { acmeTask none with
    libs := { acmeLibs with buildCertifiedKeyFromPem := fun _ _ => .ok { chain := [some notAfter] } } }

/-- A round at the given time, in which the server grants everything. -/
def renewal (now : UInt64) : RenewalRound := { now, shutdown := false, answers := allGranted }

end Sample

/-- A certificate for six days is renewed at once. -/
theorem short_certificate_storms :
    ¬ (run (RenewalLoop.step (Sample.issuing 518400)) (.start Sample.firstRun)
        [Sample.renewal 0, Sample.renewal 0]).Paced ∧
      (run (RenewalLoop.step (Sample.issuing 518400)) (.start Sample.firstRun)
        [Sample.renewal 0, Sample.renewal 0]).sleeps = [Duration.fromSecs 43200, 0] := by
  have hsleeps : (run (RenewalLoop.step (Sample.issuing 518400)) (.start Sample.firstRun)
      [Sample.renewal 0, Sample.renewal 0]).sleeps = [Duration.fromSecs 43200, 0] := by
    decide +kernel
  refine ⟨?_, hsleeps⟩
  rw [RenewalLoop.Paced, hsleeps]
  decide

/-! ## Restarts -/

/-- A certificate outlives the process that got it: the next one finds it in the files, and serves
    it without another order until its renewal is due. -/
theorem issued_cert_survives_restart {task : AcmeRenewalTask} {dir : PathBuf}
    (hstore : task.store = .file dir) {answers : AcmeAnswers} {w w' next : AcmeWorld}
    {key : CertifiedKey} (hissued : (task.provisionCert answers).run w = .ok key w')
    (hfiles : next.custody.files = w'.custody.files) {now : UInt64}
    (hdue : 0 < timeUntilRenewal key now) (later : AcmeAnswers) :
    task.provisionInitialCert later now next = (AcmeRenewalTask.setCert key next, .ok ()) := by
  have hstored := @AcmeRenewalTask.provisionCert_stored task answers _ dir hstore w rfl
  replace hstored : task.loadCachedCert w'.custody = some key := by
    simpa [WP.wp, PredTrans.apply, hissued] using hstored
  have hnext : task.loadCachedCert next.custody = some key := by
    rw [← hstored]
    simp only [AcmeRenewalTask.loadCachedCert, hstore, SecretStore.load, hfiles]
  rw [AcmeRenewalTask.provisionInitialCert, hnext]
  exact if_pos hdue

theorem long_certificate_survives_restart : ∃ w key,
    ((Sample.issuing 5184000).provisionCert Sample.allGranted).run Sample.firstRun = .ok key w ∧
      (Sample.issuing 5184000).provisionInitialCert Sample.allGranted 0 w =
        (AcmeRenewalTask.setCert key w, .ok ()) :=
  ⟨_, _, rfl, @issued_cert_survives_restart _ _ rfl Sample.allGranted Sample.firstRun _ _ _ rfl rfl
    _ (by decide) _⟩

end Reduction
