import Reduction.Native.Attempt

/-!
# The header fields that reach a backend

`forward_request` rewrites the fields of a request: hop-by-hop fields and those
that the client's `Connection` lines nominate are dropped, and the proxy sets
fields of its own.  Every other field reaches the backend as the client sent it.
-/

namespace Reduction

open Http

/-- The fields that the proxy drops or sets itself, whatever the client sent. -/
def managedHeaders : List HeaderName :=
  hopByHopHeaders ++
    [host, headerXForwardedFor, headerXForwardedProto, headerXForwardedHost, forwarded,
      headerXRealIp, headerClientId, headerClientSpki, .lit "traceparent" (by decide),
      .lit "tracestate" (by decide)]

variable {n : HeaderName} {headers headers' : HeaderMap}

theorem getAll_stripHopByHopHeaders (headers : HeaderMap) (hn : n ∉ hopByHopHeaders) :
    (stripHopByHopHeaders headers).getAll n =
      if n ∈ connectionNominated headers then [] else headers.getAll n := by
  rw [stripHopByHopHeaders, HeaderMap.getAll_removeAll, HeaderMap.getAll_removeAll, if_neg hn]

variable {clientIp : IpAddr} {identity : Option PeerIdentity}

theorem getAll_applyForwardedHeaders (h : applyForwardedHeaders headers clientIp = .ok headers')
    (hn : n ∉ managedHeaders) : headers'.getAll n = headers.getAll n := by
  simp only [managedHeaders, List.mem_append, List.mem_cons, List.not_mem_nil, or_false,
    not_or] at hn
  unfold applyForwardedHeaders at h
  cases hip : headerValueOr "client-ip" clientIp.toText with
  | error e => simp [hip, bind, Except.bind] at h
  | ok ip =>
    simp only [hip, bind, Except.bind, Except.ok.injEq] at h
    subst h
    simp [HeaderMap.getAll_insert, HeaderMap.getAll_removeAll, hn]

theorem getAll_applyIdentityHeaders (h : applyIdentityHeaders headers identity = .ok headers')
    (hn : n ∉ managedHeaders) : headers'.getAll n = headers.getAll n := by
  simp only [managedHeaders, List.mem_append, List.mem_cons, List.not_mem_nil, or_false,
    not_or] at hn
  unfold applyIdentityHeaders at h
  cases identity with
  | none =>
    simp only [Except.ok.injEq] at h
    subst h
    simp [HeaderMap.getAll_removeAll, hn]
  | some identity =>
    cases hcn : headerValueOr "client-id" identity.commonName.bytes with
    | error e => simp [hcn, bind, Except.bind] at h
    | ok cn =>
      cases hspki : headerValueOr "client-spki" identity.spkiHex with
      | error e => simp [hcn, hspki, bind, Except.bind] at h
      | ok spki =>
        simp only [hcn, hspki, bind, Except.bind, Except.ok.injEq] at h
        subst h
        simp [HeaderMap.getAll_insert, HeaderMap.getAll_removeAll, hn]

theorem getAll_headerInjectorSet (headers : HeaderMap) {key value : Bytes}
    (hn : HeaderName.fromBytes? key ≠ some n) :
    (headerInjectorSet headers key value).getAll n = headers.getAll n := by
  unfold headerInjectorSet
  split
  · rename_i name val hname hval
    rw [HeaderMap.getAll_insert, if_neg]
    rintro rfl
    exact hn hname
  · rfl

theorem getAll_injectContext (headers : HeaderMap) (trace : Option TraceContext)
    (hn : n ∉ managedHeaders) : (injectContext headers trace).getAll n = headers.getAll n := by
  cases trace with
  | none => rfl
  | some cx =>
    rw [injectContext, getAll_headerInjectorSet, getAll_headerInjectorSet]
    · intro hparent
      have : n = .lit "traceparent" (by decide) := Option.some.inj (hparent.symm.trans (by decide))
      exact hn (by simp [managedHeaders, this])
    · intro hstate
      have : n = .lit "tracestate" (by decide) := Option.some.inj (hstate.symm.trans (by decide))
      exact hn (by simp [managedHeaders, this])

/-- A field that the proxy does not manage reaches the backend as the client sent it, unless a
    `Connection` line nominates it: then it does not reach the backend at all. -/
theorem getAll_rewriteHeaders {b : BackendConfig}
    (h : rewriteHeaders headers b clientIp identity = .ok headers') (trace : Option TraceContext)
    (hn : n ∉ managedHeaders) :
    (injectContext headers' trace).getAll n =
      if n ∈ connectionNominated headers then [] else headers.getAll n := by
  have hhop : n ∉ hopByHopHeaders := fun hmem => hn (by simp [managedHeaders, hmem])
  have hhost : n ≠ host := by
    rintro rfl
    exact hn (by simp [managedHeaders])
  unfold rewriteHeaders at h
  cases hvalue : headerValueOr "host" b.host with
  | error e => simp [hvalue, bind, Except.bind] at h
  | ok value =>
    cases hfwd : applyForwardedHeaders ((stripHopByHopHeaders headers).insert host value) clientIp with
    | error e => simp [hvalue, hfwd, bind, Except.bind] at h
    | ok forwarded =>
      -- from the last rewriting step back to the first, each leaving an unmanaged field alone
      simp only [hvalue, hfwd, bind, Except.bind] at h
      rw [getAll_injectContext _ _ hn, getAll_applyIdentityHeaders h hn,
        getAll_applyForwardedHeaders hfwd hn, HeaderMap.getAll_insert, if_neg hhost,
        getAll_stripHopByHopHeaders _ hhop]

theorem connectionNominated_congr (h : headers'.getAll connection = headers.getAll connection) :
    connectionNominated headers' = connectionNominated headers := by
  rw [connectionNominated, h]
  rfl

end Reduction
