import Reduction.ForStd.Lru
import Reduction.Native.CacheControl

/-!
# The shared response cache

Model of `src/cache.rs`: the length-prefixed cache key with its three encoders
(owned, stack buffer, heap buffer), and the LRU store of responses.
-/

namespace Reduction

open Http

/-- The `[cache]` section. -/
structure CacheConfig where
  enabled : Bool
  maxEntries : { n : Nat // 0 < n }
  maxEntryBytes : { n : Nat // 0 < n }
  defaultTtlSecs : NonZeroU64
deriving DecidableEq

/-- Response headers a shared cache must never store. -/
def uncacheableHeaders : List HeaderName :=
  [.lit "set-cookie" (by decide), .lit "set-cookie2" (by decide), connection, keepAlive,
    proxyAuthenticate, proxyAuthorization, te, trailer, transferEncoding, upgrade]

/-- `sanitized_for_cache`. -/
def sanitizedForCache (headers : HeaderMap) : HeaderMap := headers.removeAll uncacheableHeaders

structure CachedResponse where
  status : StatusCode
  headers : HeaderMap
  body : Bytes
  insertedAt : Instant
  ttl : Duration
deriving DecidableEq

/-- `is_expired`. -/
def CachedResponse.isExpired (e : CachedResponse) (now : Instant) : Bool :=
  now - e.insertedAt > e.ttl

/-- The parts of a cache key that a caller supplies. -/
structure CacheKeyRef where
  method : Bytes
  path : Bytes
  identity : Bytes
deriving DecidableEq

def cacheKeyStackCap : Nat := 512

/-- `write_cache_key`: the format string `{}:{}{}:{}{}:{}`, piece by piece. -/
def writeCacheKey {W : Type} [FmtWrite W] (buf : W) (method path identity : Bytes) : Option W :=
  FmtWrite.writePieces buf
    [Bytes.decimal method.length, [Bytes.colon], method,
      Bytes.decimal path.length, [Bytes.colon], path,
      Bytes.decimal identity.length, [Bytes.colon], identity]

/-- `CacheKey::from`: the owned key of a stored entry.  Writing into a `String` is infallible; the
    result of the write is ignored, as in the source. -/
def cacheKey (key : CacheKeyRef) : Bytes :=
  (writeCacheKey ([] : Bytes) key.method key.path key.identity).getD []

/-- A lookup key, on the stack when it fits. -/
inductive KeyBuf where
  | stack (s : ArrayString cacheKeyStackCap)
  | heap (s : Bytes)

/-- `Deref for KeyBuf`. -/
def KeyBuf.deref : KeyBuf → Bytes
  | .stack s => s.bytes
  | .heap s => s

/-- `build_lookup_key`. -/
def buildLookupKey (method path identity : Bytes) : KeyBuf :=
  match writeCacheKey (ArrayString.empty : ArrayString cacheKeyStackCap) method path identity with
  | some s => .stack s
  | none => .heap ((writeCacheKey ([] : Bytes) method path identity).getD [])

structure ResponseCache where
  store : LruCache Bytes CachedResponse
  config : CacheConfig

namespace ResponseCache

def new (config : CacheConfig) : ResponseCache :=
  { store := .new config.maxEntries.val config.maxEntries.property, config }

/-- `get`: an expired entry is popped and counts as a miss. -/
def get (c : ResponseCache) (key : CacheKeyRef) (now : Instant) : ResponseCache × Option Response :=
  let lookup := (buildLookupKey key.method key.path key.identity).deref
  let (store, found) := c.store.get lookup
  match found with
  | none => ({ c with store }, none)
  | some entry =>
    if entry.isExpired now then
      ({ c with store := store.pop lookup }, none)
    else
      ({ c with store },
        some { status := entry.status, headers := entry.headers, body := .ofBytes entry.body })

/-- The lifetime of an entry, in seconds. -/
def ttlSecs (c : ResponseCache) (directives : CacheDirectives) : Nat :=
  directives.maxAge.getD c.config.defaultTtlSecs.val.toNat

/-- `put`: the cache afterwards, and whether the response was accepted. -/
def put (c : ResponseCache) (key : CacheKeyRef) (status : StatusCode) (headers : HeaderMap)
    (body : Bytes) (directives : CacheDirectives) (now : Instant) : ResponseCache × Bool :=
  if directives.noStore || directives.isPrivate then
    (c, false)
  else if body.length > c.config.maxEntryBytes.val then
    (c, false)
  else if c.ttlSecs directives = 0 then
    (c, false)
  else
    let entry : CachedResponse :=
      { status
        headers := sanitizedForCache headers
        body
        insertedAt := now
        ttl := Duration.fromSecs (c.ttlSecs directives) }
    ({ c with store := c.store.put (cacheKey key) entry }, true)

/-- `clear`. -/
def clear (c : ResponseCache) : ResponseCache := { c with store := c.store.clear }

/-- `len`. -/
def len (c : ResponseCache) : Nat := c.store.len

end ResponseCache

end Reduction
