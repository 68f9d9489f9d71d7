import Reduction.Native.Types

/-!
# `Cache-Control` directives

Model of `src/cache_control.rs`.
-/

namespace Reduction

open Http

/-- The directives of a response that the proxy acts on. -/
structure CacheDirectives where
  noStore : Bool := false
  noTransform : Bool := false
  isPrivate : Bool := false
  isPublic : Bool := false
  maxAge : Option Nat := none
deriving DecidableEq

/-- `strip_prefix_ci`: the rest of `s` after `pre`, ignoring ASCII case. -/
def stripPrefixCi (s pre : Bytes) : Option Bytes :=
  if pre.length ≤ s.length ∧ Bytes.eqIgnoreAsciiCase (s.take pre.length) pre then
    some (s.drop pre.length)
  else
    none

namespace CacheDirectives

/-- The effect of one comma-separated part of the header. -/
def parsePart (d : CacheDirectives) (part : Bytes) : CacheDirectives :=
  let trimmed := part.trim
  if trimmed.eqIgnoreAsciiCase (Bytes.ascii "no-store") then
    { d with noStore := true }
  else if trimmed.eqIgnoreAsciiCase (Bytes.ascii "no-transform") then
    { d with noTransform := true }
  else if trimmed.eqIgnoreAsciiCase (Bytes.ascii "private") then
    { d with isPrivate := true }
  else if trimmed.eqIgnoreAsciiCase (Bytes.ascii "public") then
    { d with isPublic := true }
  else
    match stripPrefixCi trimmed (Bytes.ascii "max-age=") with
    | some value => { d with maxAge := value.trim.parseUnsigned 64 }
    | none => d

/-- `CacheDirectives::parse`. -/
def parse (header : Bytes) : CacheDirectives := header.splitComma.foldl parsePart {}

/-- `CacheDirectives::from_response`. -/
def fromResponse (headers : HeaderMap) : CacheDirectives :=
  match headers.get cacheControl with
  | some v =>
    match v.toStr? with
    | some s => parse s
    | none => {}
  | none => {}

end CacheDirectives

end Reduction
