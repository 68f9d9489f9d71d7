import Reduction.Native.Balancer

/-!
# Rendezvous selection with any score

The two selection loops, `rendezvous::select_backend` in
`src/balancer/rendezvous.rs` and `select_with_pressure_excluding` in
`src/balancer/mod.rs`, for scores of any kind.  Neither does anything with the
score but compare it.
-/

namespace Reduction

/-- The octets of an IPv4 address in the last two segments of `::ffff:a.b.c.d`. -/
def IpAddr.toIpv6Mapped (octets : Vector UInt8 4) : Vector UInt16 8 :=
  #v[0, 0, 0, 0, 0, 0xffff, .ofNat ((octets.get 0).toNat * 256 + (octets.get 1).toNat),
    .ofNat ((octets.get 2).toNat * 256 + (octets.get 3).toNat)]

/-- The score of a client, an id and a weight, and whether one score is below another. -/
structure Scoring (S : Type) where
  score : IpAddr → Bytes → F64 → S
  less : S → S → Bool

namespace Scoring

variable {S : Type} {α : Type}

/-- The scores of the source. -/
def rendezvous (ln : F64 → F64) : Scoring F64 := { score := rendezvousScore ln, less := F64.lt }

/-- Any function of the canonical client, the id and the weight into a linear order. -/
def ofOrder [LinearOrder S] (score : IpAddr → Bytes → F64 → S) : Scoring S :=
  { score := fun clientIp => score clientIp.toCanonical, less := fun a b => decide (a < b) }

/-- The end of a round of either loop: `best_index` and `best_score` after a candidate that was not
    skipped. -/
def consider (scoring : Scoring S) (clientIp : IpAddr) (best : Option (α × S)) (candidate : α)
    (id : Bytes) (weight : F64) : Option (α × S) :=
  let score := scoring.score clientIp id weight
  match best with
  | none => some (candidate, score)
  | some (_, bestScore) => if scoring.less bestScore score then some (candidate, score) else best

/-- `rendezvous::select_backend`: an id without a weight weighs one. -/
def selectBackend (scoring : Scoring S) (clientIp : IpAddr) (backendIds : List Bytes)
    (weights : List F64) : Option Nat :=
  let best := backendIds.zipIdx.foldl
    (fun best candidate =>
      let weight := weights[candidate.2]?.getD .one
      if weight.le .zero then best
      else scoring.consider clientIp best candidate.2 candidate.1 weight)
    none
  best.map Prod.fst

end Scoring

/-- `select_with_pressure_excluding`. -/
def BackendPool.selectBy {S : Type} (pool : BackendPool) (scoring : Scoring S) (clientIp : IpAddr)
    (env : BalancerEnv) (excluded : List BackendId) : Option BackendConfig :=
  let best := pool.backends.foldl
    (fun best b =>
      let weight := env.weight b
      if weight.le .zero || excluded.contains b.id then best
      else scoring.consider clientIp best b b.id.bytes weight)
    none
  best.map Prod.fst

end Reduction
