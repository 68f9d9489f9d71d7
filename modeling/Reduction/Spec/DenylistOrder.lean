import Reduction.ForStd.Run
import Reduction.Native.FsWatch

/-!
# The order in which denylists are published

Any number of watcher threads and the config reload read the revocation file and
publish what they have read, in two steps.  Nothing orders one party's steps with
another's: a set can be published after a newer one, and what was revoked between
the two is admitted again.

`denylist_neverBack_iff` says exactly when that does not happen: when every set that is
published is still `Current`, that is, no newer one was published since it was
read.
-/

namespace Reduction

open Run

namespace Denylist

/-- Once a version has been published, no older one is. -/
def NeverBack (d : Denylist) : Prop := d.published.Pairwise fun later earlier => earlier ≤ later

instance (d : Denylist) : Decidable d.NeverBack :=
  inferInstanceAs (Decidable (List.Pairwise _ _))

/-- No set from a newer version was published since this one was read. -/
def Current (d : Denylist) (read : ReadSet) : Prop :=
  ∀ v ∈ d.published.take (d.published.length - read.seen), v ≤ read.version

/-- What is published is current. -/
def PublishesCurrent (d : Denylist) : DenylistAction → Prop
  | .publish i =>
    match d.threads[i]? with
    | some (.sending read) => d.Current read
    | _ => True
  | .reloadPublish =>
    match d.reloading with
    | some read => d.Current read
    | none => True
  | _ => True

/-! ## What a set in hand knows -/

/-- Everything that was published before the set was read is from its version or an older one. -/
structure Knows (d : Denylist) (read : ReadSet) : Prop where
  version_le : read.version ≤ d.version
  seen_le : read.seen ≤ d.published.length
  earlier_le : ∀ v ∈ d.published.drop (d.published.length - read.seen), v ≤ read.version

def ThreadKnows (d : Denylist) : RevocationThread → Prop
  | .sending read => d.Knows read
  | _ => True

structure Inv (d : Denylist) : Prop where
  published_le : ∀ v ∈ d.published, v ≤ d.version
  threads : ∀ t ∈ d.threads, d.ThreadKnows t
  reloading : ∀ read, d.reloading = some read → d.Knows read

variable {d d' : Denylist} {read : ReadSet}

theorem knows_load (hle : ∀ v ∈ d.published, v ≤ d.version) (h : d.load = .ok read) :
    d.Knows read := by
  unfold load at h
  split at h
  · cases h
    exact ⟨le_rfl, le_rfl, fun v hv => hle v (List.mem_of_mem_drop hv)⟩
  · cases h

/-- A set in hand knows the same when the file is written or another set is published. -/
theorem Knows.mono (h : d.Knows read) (hversion : d.version ≤ d'.version)
    (hpublished : d'.published = d.published ∨ ∃ v, d'.published = v :: d.published) :
    d'.Knows read := by
  have hle := h.seen_le
  rcases hpublished with heq | ⟨v, heq⟩
  · exact ⟨h.version_le.trans hversion, heq ▸ hle, heq ▸ h.earlier_le⟩
  · have hlen : d'.published.length = d.published.length + 1 := by
      rw [heq]
      rfl
    have hsub : d'.published.length - read.seen = d.published.length - read.seen + 1 := by omega
    refine ⟨h.version_le.trans hversion, by omega, ?_⟩
    rw [hsub, heq, List.drop_succ_cons]
    exact h.earlier_le

theorem ThreadKnows.mono {t : RevocationThread} (h : d.ThreadKnows t)
    (hversion : d.version ≤ d'.version)
    (hpublished : d'.published = d.published ∨ ∃ v, d'.published = v :: d.published) :
    d'.ThreadKnows t := by
  cases t with
  | sending read => exact Knows.mono h hversion hpublished
  | sleeping | reading | done => trivial

/-- A set is current if and only if nothing newer has been published at all. -/
theorem Knows.current_iff (h : d.Knows read) :
    d.Current read ↔ ∀ v ∈ d.published, v ≤ read.version := by
  constructor
  · intro hcurrent v hv
    rw [← List.take_append_drop (d.published.length - read.seen) d.published] at hv
    cases List.mem_append.mp hv with
    | inl hmem => exact hcurrent v hmem
    | inr hmem => exact h.earlier_le v hmem
  · exact fun hall v hv => hall v (List.mem_of_mem_take hv)

theorem neverBack_send (h : d.Knows read)
    (hpublished : d'.published = read.version :: d.published) :
    d'.NeverBack ↔ d.NeverBack ∧ d.Current read := by
  rw [NeverBack, hpublished, List.pairwise_cons, h.current_iff, and_comm]
  rfl

/-! ## Steps -/

theorem Inv.start (path : PathBuf) (set : RevocationSet) : (Denylist.start path set).Inv :=
  ⟨fun _ hv => (List.mem_singleton.mp hv).le, (fun _ ht => by cases ht), (fun _ h => by cases h)⟩

/-- A step that publishes nothing. -/
theorem Inv.of_published_eq (h : d.Inv) (hpublished : d'.published = d.published)
    (hversion : d.version ≤ d'.version)
    (hthreads : ∀ t ∈ d'.threads, t ∈ d.threads ∨ d'.ThreadKnows t)
    (hreloading : ∀ read, d'.reloading = some read → d.reloading = some read ∨ d'.Knows read) :
    d'.Inv := by
  refine ⟨fun v hv => ?_, fun t ht => ?_, fun read hread => ?_⟩
  · exact (h.published_le v (hpublished ▸ hv)).trans hversion
  · cases hthreads t ht with
    | inl hmem => exact (h.threads t hmem).mono hversion (.inl hpublished)
    | inr hknows => exact hknows
  · cases hreloading read hread with
    | inl hsame => exact (h.reloading read hsame).mono hversion (.inl hpublished)
    | inr hknows => exact hknows

/-- One thread has moved on. -/
theorem Inv.set (h : d.Inv) {i : Nat} {t : RevocationThread} (ht : d.ThreadKnows t) :
    ({ d with threads := d.threads.set i t } : Denylist).Inv := by
  refine h.of_published_eq rfl le_rfl (fun t' ht' => ?_) (fun _ hread => .inl hread)
  cases List.mem_or_eq_of_mem_set ht' with
  | inl hmem => exact .inl hmem
  | inr heq =>
    subst heq
    exact .inr (ht.mono le_rfl (.inl rfl))

/-- A step that publishes a set. -/
theorem Inv.send (h : d.Inv) (hread : d.Knows read) {threads : List RevocationThread}
    {reloading : Option ReadSet} (hthreads : ∀ t ∈ threads, t ∈ d.threads ∨ t = .done)
    (hreloading : ∀ read, reloading = some read → d.reloading = some read) :
    ({ d.send read with threads, reloading } : Denylist).Inv := by
  have hpublished : ({ d.send read with threads, reloading } : Denylist).published =
    read.version :: d.published := rfl
  refine ⟨fun v hv => ?_, fun t ht => ?_, fun read' hread' => ?_⟩
  · cases List.mem_cons.mp hv with
    | inl heq => exact heq ▸ hread.version_le
    | inr hmem => exact h.published_le v hmem
  · rcases hthreads t ht with hmem | rfl
    · exact (h.threads t hmem).mono le_rfl (.inr ⟨_, hpublished⟩)
    · trivial
  · exact (h.reloading read' (hreloading read' hread')).mono le_rfl (.inr ⟨_, hpublished⟩)

theorem Inv.step (h : d.Inv) (a : DenylistAction) : (d.step a).Inv := by
  cases a with
  | write contents =>
    exact h.of_published_eq rfl (Nat.le_succ _) (fun _ ht => .inl ht) (fun _ hr => .inl hr)
  | event event =>
    dsimp only [Denylist.step]
    split
    · refine h.of_published_eq rfl le_rfl (fun t ht => ?_) (fun _ hr => .inl hr)
      cases List.mem_append.mp ht with
      | inl hmem => exact .inl hmem
      | inr hmem =>
        cases List.mem_singleton.mp hmem
        exact .inr trivial
    · exact h
  | check i =>
    dsimp only [Denylist.step]
    split
    · refine h.set ?_
      split <;> trivial
    · exact h
  | read i =>
    dsimp only [Denylist.step]
    split
    · split
      · rename_i hload
        exact h.set (t := .sending _) (knows_load h.published_le hload)
      · exact h.set (t := .done) trivial
    · exact h
  | publish i =>
    dsimp only [Denylist.step]
    split
    · rename_i read hget
      exact h.send (h.threads _ (List.mem_of_getElem? hget))
        (fun _ ht => List.mem_or_eq_of_mem_set ht) (fun _ hr => hr)
    · exact h
  | reloadRead =>
    dsimp only [Denylist.step]
    split
    · rename_i hload
      refine h.of_published_eq rfl le_rfl (fun _ ht => .inl ht) (fun read' hread' => .inr ?_)
      cases hread'
      exact knows_load h.published_le hload
    · exact h
  | reloadPublish =>
    dsimp only [Denylist.step]
    split
    · rename_i read hget
      exact h.send (h.reloading read hget) (fun _ ht => .inl ht) (fun _ hr => by cases hr)
    · exact h

/-- A step keeps the order if it publishes what is current, or nothing. -/
theorem neverBack_step (h : d.Inv) (a : DenylistAction) :
    (d.step a).NeverBack ↔ d.NeverBack ∧ d.PublishesCurrent a := by
  -- a step that publishes nothing leaves the history as it was
  have hsame : (d.step a).published = d.published → d.PublishesCurrent a →
      ((d.step a).NeverBack ↔ d.NeverBack ∧ d.PublishesCurrent a) := by
    intro hpublished hok
    rw [NeverBack, hpublished, and_iff_left hok]
    rfl
  cases a with
  | write contents => exact hsame rfl trivial
  | event event =>
    refine hsame ?_ trivial
    dsimp only [Denylist.step]
    split <;> rfl
  | check i =>
    refine hsame ?_ trivial
    dsimp only [Denylist.step]
    split <;> rfl
  | read i =>
    refine hsame ?_ trivial
    dsimp only [Denylist.step]
    split
    · split <;> rfl
    · rfl
  | publish i =>
    cases hget : d.threads[i]? with
    | none =>
      exact hsame (by simp only [Denylist.step, hget]) (by simp only [PublishesCurrent, hget])
    | some t =>
      cases t with
      | sending read =>
        have hknows : d.Knows read := h.threads _ (List.mem_of_getElem? hget)
        simp only [Denylist.step, PublishesCurrent, hget]
        exact neverBack_send hknows rfl
      | sleeping | reading | done =>
        exact hsame (by simp only [Denylist.step, hget]) (by simp only [PublishesCurrent, hget])
  | reloadRead =>
    refine hsame ?_ trivial
    dsimp only [Denylist.step]
    split <;> rfl
  | reloadPublish =>
    cases hget : d.reloading with
    | none =>
      exact hsame (by simp only [Denylist.step, hget]) (by simp only [PublishesCurrent, hget])
    | some read =>
      have hknows : d.Knows read := h.reloading read hget
      simp only [Denylist.step, PublishesCurrent, hget]
      exact neverBack_send hknows rfl

end Denylist

namespace Sample

def revocationPath : PathBuf := Bytes.ascii "/etc/revoked.toml"

def revocationSaved : FsEvent := { kind := .modify, paths := [revocationPath] }

def stolenKey : Vector UInt8 32 := Vector.replicate 32 7

/-- The thread of the first save has read its version when another thread reads the second save,
    which revokes a key, and publishes it; then the first thread goes on. -/
def slowThread : List DenylistAction :=
  [.write (.ok .default), .event revocationSaved, .check 0, .read 0,
    .write (.ok { spki := [stolenKey], backendIds := [] }), .event revocationSaved, .check 1,
    .read 1, .publish 1, .publish 0]

end Sample

end Reduction
