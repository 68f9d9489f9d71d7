import Reduction.Native.Backend

/-!
# Backend selection

Model of `src/balancer/mod.rs` and `src/balancer/rendezvous.rs`: weighted
rendezvous hashing over the backends of a pool.
-/

namespace Reduction

/-! ## Rendezvous scores -/

def fnvOffsetBasis : UInt64 := 0xcbf29ce484222325

def fnvPrime : UInt64 := 0x100000001b3

/-- Fold bytes into a running FNV-1a hash. -/
def fnv1aUpdate (hash : UInt64) (bytes : Bytes) : UInt64 :=
  bytes.foldl (fun acc b => (acc ^^^ b.toUInt64) * fnvPrime) hash

/-- The hash of a client and a backend; an IPv4-mapped client counts as its IPv4 address. -/
def hashPair (clientIp : IpAddr) (backendId : Bytes) : UInt64 :=
  let canonical := clientIp.toCanonical
  let tag : UInt8 := match canonical with
    | .v4 _ => 4
    | .v6 _ => 6
  fnv1aUpdate (fnv1aUpdate (fnv1aUpdate fnvOffsetBasis [tag]) canonical.octets) backendId

/-- `rendezvous_score`; `ln` is the natural logarithm of the platform's math library. -/
def rendezvousScore (ln : F64 → F64) (clientIp : IpAddr) (backendId : Bytes) (weight : F64) : F64 :=
  if weight.le .zero then
    .zero
  else
    -- the hash, mapped into the open interval from 0 to 1
    let h := ((F64.ofNat (hashPair clientIp backendId).toNat).add (.fin (1 / 2))).div
      ((F64.ofNat (2 ^ 64 - 1)).add .one)
    weight.neg.div (ln h)

/-! ## Pools -/

/-- `MAX_BACKENDS`. -/
def maxBackends : Nat := 256

structure BackendPool where
  backends : List BackendConfig
  bounded : backends.length ≤ maxBackends

/-- What one selection reads from outside the pool: the health factors, the connection pressures
    and the logarithm. -/
structure BalancerEnv where
  weightFactor : Bytes → F64
  pressure : BackendConfig → F64
  ln : F64 → F64

/-- One entry of `scored_weights`: the effective weight of a backend. -/
def BalancerEnv.weight (env : BalancerEnv) (b : BackendConfig) : F64 :=
  let healthWeight := b.weight.mul (env.weightFactor b.id.bytes)
  let pressure := (env.pressure b).clamp .zero .one
  healthWeight.mul (F64.one.sub pressure)

namespace BackendPool

/-- `with_max`: the configured limit is checked before the hard one. -/
def withMax (backends : List BackendConfig) (max : UInt32) : Except ReductionError BackendPool :=
  if max.toNat < backends.length then
    .error (.config ("backend count " ++ toString backends.length ++ " exceeds maximum " ++
      toString max))
  else if h : maxBackends < backends.length then
    .error (.config ("backend count " ++ toString backends.length ++ " exceeds hard limit " ++
      toString maxBackends))
  else
    .ok { backends, bounded := Nat.le_of_not_lt h }

/-- One iteration of the selection loop: a later backend has to score strictly higher. -/
def selectStep (env : BalancerEnv) (clientIp : IpAddr) (excluded : List BackendId)
    (best : Option (BackendConfig × F64)) (b : BackendConfig) : Option (BackendConfig × F64) :=
  let weight := env.weight b
  if weight.le .zero || excluded.contains b.id then
    best
  else
    let score := rendezvousScore env.ln clientIp b.id.bytes weight
    match best with
    | none => some (b, score)
    | some (_, bestScore) => if bestScore.lt score then some (b, score) else best

/-- `select_with_pressure_excluding`. -/
def selectWithPressureExcluding (pool : BackendPool) (clientIp : IpAddr) (env : BalancerEnv)
    (excluded : List BackendId) : Option BackendConfig :=
  (pool.backends.foldl (selectStep env clientIp excluded) none).map Prod.fst

/-- `select`: no connection pressure, and no backend excluded. -/
def select (pool : BackendPool) (clientIp : IpAddr) (weightFactor : Bytes → F64) (ln : F64 → F64) :
    Option BackendConfig :=
  pool.selectWithPressureExcluding clientIp { weightFactor, pressure := fun _ => .zero, ln } []

end BackendPool

/-! ## Selection in the request handler -/

/-- `select_backend_excluding`. -/
def selectBackendExcluding (pool : BackendPool) (clientIp : IpAddr) (env : BalancerEnv)
    (excluded : List BackendId) : Except ReductionError BackendConfig :=
  match pool.selectWithPressureExcluding clientIp env excluded with
  | some backend => .ok backend
  | none => .error .backendUnavailable

/-- `mark_failed`, on a vector of capacity `MAX_BACKENDS`. -/
def markFailed (failed : List BackendId) (id : BackendId) : List BackendId :=
  if failed.contains id then failed
  else if failed.length < maxBackends then failed ++ [id]
  else failed

end Reduction
