import Reduction.ForStd.Run
import Reduction.Spec.HandlerRuns

/-!
# What a backend is told about the client

`forward_request` drops the fields of one hop and those that the client's
`Connection` lines nominate, and then sets the fields that it vouches for: the
host, the address of the peer and its proven identity.  Since it sets them last,
no line of the client can remove them, and since it replaces them, no value of
the client survives beside them.

- `valuesOf_rewriteHeaders`: the values of every field after all rewriting steps
- `mem_connectionNominated_iff`: the fields that are collected from the
  `Connection` lines are those that are nominated there
- `headers_rewritten`: the result for the claims of the proxy, for what is dropped,
  and for all the rest
-/

namespace Reduction

open Http Run

/-! ## The fields that the proxy sets -/

variable {text : Bytes} {value : HeaderValue} {m : HeaderName} {identity : Option PeerIdentity}
  {clientIp : IpAddr}

theorem headerValueOr_ok {what : String} (h : headerValueOr what text = .ok value) :
    value.bytes = text := by
  unfold headerValueOr HeaderValue.fromStr? at h
  split at h
  · rename_i v hv
    cases h
    split at hv
    · cases hv
      rfl
    · cases hv
  · cases h

/-- The values of the identity fields, the proven ones or none. -/
def identityValue (identity : Option PeerIdentity) (n : HeaderName) : List Bytes :=
  match identity with
  | none => []
  | some identity => [if n = headerClientId then identity.commonName.bytes else identity.spkiHex]

/-- The values of a field. -/
def valuesOf (headers : HeaderMap) (n : HeaderName) : List Bytes :=
  (headers.getAll n).map HeaderValue.bytes

variable {headers headers' : HeaderMap} {n : HeaderName}

theorem valuesOf_insert :
    valuesOf (headers.insert n value) m = if m = n then [value.bytes] else valuesOf headers m := by
  rw [valuesOf, HeaderMap.getAll_insert]
  split <;> rfl

theorem valuesOf_removeAll {ns : List HeaderName} :
    valuesOf (headers.removeAll ns) m = if m ∈ ns then [] else valuesOf headers m := by
  rw [valuesOf, HeaderMap.getAll_removeAll]
  split <;> rfl

theorem valuesOf_applyIdentityHeaders (h : applyIdentityHeaders headers identity = .ok headers')
    (n : HeaderName) :
    valuesOf headers' n =
      if n ∈ [headerClientId, headerClientSpki] then identityValue identity n
      else valuesOf headers n := by
  unfold applyIdentityHeaders at h
  cases identity with
  | none =>
    cases h
    exact valuesOf_removeAll
  | some identity =>
    obtain ⟨cn, hcn, h⟩ := bind_eq_ok.mp h
    obtain ⟨spki, hspki, h⟩ := bind_eq_ok.mp h
    cases h
    rw [valuesOf_insert, valuesOf_insert, valuesOf_removeAll, headerValueOr_ok hcn,
      headerValueOr_ok hspki]
    by_cases hid : n = headerClientId
    · subst hid
      rw [if_neg (by decide), if_pos rfl, if_pos (by decide), identityValue, if_pos rfl]
    · by_cases hkey : n = headerClientSpki
      · rw [if_pos hkey, if_pos (by simp [hkey]), identityValue, if_neg hid]
      · rw [if_neg hkey, if_neg hid, if_neg (by simp [hid, hkey]), if_neg (by simp [hid, hkey])]

theorem valuesOf_applyForwardedHeaders (h : applyForwardedHeaders headers clientIp = .ok headers')
    (n : HeaderName) :
    valuesOf headers' n =
      if n ∈ [headerXForwardedFor, headerXRealIp] then [clientIp.toText]
      else if n ∈ [headerXForwardedProto, headerXForwardedHost, forwarded] then []
      else valuesOf headers n := by
  obtain ⟨ip, hip, h⟩ := bind_eq_ok.mp h
  cases h
  rw [valuesOf_insert, valuesOf_insert, valuesOf_removeAll, headerValueOr_ok hip]
  by_cases hreal : n = headerXRealIp
  · rw [if_pos hreal, if_pos (by simp [hreal])]
  · by_cases hfor : n = headerXForwardedFor
    · rw [if_neg hreal, if_pos hfor, if_pos (by simp [hfor])]
    · simp only [List.mem_cons, List.not_mem_nil, or_false, hreal, hfor, false_or]
      rfl

/-- The values of every field after all rewriting steps; the last step that concerns a field
    decides. -/
theorem valuesOf_rewriteHeaders {b : BackendConfig}
    (h : rewriteHeaders headers b clientIp identity = .ok headers') (n : HeaderName) :
    valuesOf headers' n =
      if n ∈ [headerClientId, headerClientSpki] then identityValue identity n
      else if n ∈ [headerXForwardedFor, headerXRealIp] then [clientIp.toText]
      else if n ∈ [headerXForwardedProto, headerXForwardedHost, forwarded] then []
      else if n = host then [b.host]
      else if n ∈ hopByHopHeaders ++ connectionNominated headers then []
      else valuesOf headers n := by
  obtain ⟨hostValue, hhost, h⟩ := bind_eq_ok.mp h
  obtain ⟨forwardedHeaders, hforwarded, h⟩ := bind_eq_ok.mp h
  rw [valuesOf_applyIdentityHeaders h, valuesOf_applyForwardedHeaders hforwarded, valuesOf_insert,
    headerValueOr_ok hhost, stripHopByHopHeaders, valuesOf_removeAll, valuesOf_removeAll]
  simp only [List.mem_append]
  by_cases hhop : n ∈ hopByHopHeaders
  · simp only [hhop, true_or, if_true, ite_self]
  · simp only [hhop, false_or, if_false]

/-! ## Nominated fields -/

/-- The client's `Connection` lines name the field, in whatever case. -/
def Nominated (headers : HeaderMap) (n : HeaderName) : Prop :=
  ∃ member ∈ headers.members connection, member.toAsciiLowercase = n.bytes

theorem fromBytes?_eq_some :
    HeaderName.fromBytes? text = some n ↔ text.toAsciiLowercase = n.bytes := by
  unfold HeaderName.fromBytes?
  constructor
  · intro h
    split at h
    · cases h
      rfl
    · cases h
  · intro h
    have hvalid : isName text.toAsciiLowercase = true := h ▸ n.valid
    rw [dif_pos hvalid]
    congr

/-- The fields that the source collects are those that are nominated, if it can read every line. -/
theorem mem_connectionNominated_iff (hvisible : ∀ v ∈ headers.getAll connection, v.toStr? ≠ none)
    (n : HeaderName) : n ∈ connectionNominated headers ↔ Nominated headers n := by
  have htext : ∀ {v : HeaderValue} {text : Bytes}, v.toStr? = some text → text = v.bytes := by
    intro v text h
    unfold HeaderValue.toStr? at h
    split at h
    · exact (Option.some.inj h).symm
    · cases h
  constructor
  · intro h
    obtain ⟨part, hpart, hname⟩ := List.mem_filterMap.mp h
    obtain ⟨text, hline, hpart⟩ := List.mem_flatMap.mp hpart
    obtain ⟨v, hv, hstr⟩ := List.mem_filterMap.mp hline
    rw [htext hstr] at hpart
    have hlower := fromBytes?_eq_some.mp hname
    refine ⟨part.trim, ?_, hlower⟩
    rw [HeaderMap.members_eq, List.mem_flatMap]
    refine ⟨v, hv, List.mem_filter.mpr ⟨List.mem_map_of_mem hpart, ?_⟩⟩
    -- a field name is not empty
    rw [decide_eq_true_eq]
    intro hempty
    have hvalid := n.valid
    rw [← hlower, hempty] at hvalid
    cases hvalid
  · rintro ⟨member, hmember, hlower⟩
    rw [HeaderMap.members_eq, List.mem_flatMap] at hmember
    obtain ⟨v, hv, hmember⟩ := hmember
    obtain ⟨part, hpart, rfl⟩ := List.mem_map.mp (List.mem_of_mem_filter hmember)
    obtain ⟨text, hstr⟩ := Option.ne_none_iff_exists'.mp (hvisible v hv)
    refine List.mem_filterMap.mpr ⟨part, ?_, fromBytes?_eq_some.mpr hlower⟩
    refine List.mem_flatMap.mpr ⟨text, List.mem_filterMap.mpr ⟨v, hv, hstr⟩, ?_⟩
    rw [htext hstr]
    exact hpart

/-! ## The result -/

/-- The fields that the proxy sets. -/
def vouchedHeaders (identity : Option PeerIdentity) : List HeaderName :=
  [host, headerXForwardedFor, headerXRealIp] ++
    if identity.isSome then [headerClientId, headerClientSpki] else []

/-- The fields that the proxy drops without a replacement. -/
def droppedHeaders : List HeaderName :=
  [forwarded, headerXForwardedProto, headerXForwardedHost, headerClientId, headerClientSpki] ++
    hopByHopHeaders

/-- What a backend receives. -/
structure Rewritten (headers headers' : HeaderMap) (b : BackendConfig) (clientIp : IpAddr)
    (identity : Option PeerIdentity) : Prop where
  forwardedFor : valuesOf headers' headerXForwardedFor = [clientIp.toText]
  realIp : valuesOf headers' headerXRealIp = [clientIp.toText]
  host : valuesOf headers' host = [b.host]
  clientId : valuesOf headers' headerClientId =
    (identity.map fun identity => identity.commonName.bytes).toList
  clientSpki : valuesOf headers' headerClientSpki = (identity.map PeerIdentity.spkiHex).toList
  dropped : ∀ n ∈ droppedHeaders, n ∉ vouchedHeaders identity → headers'.getAll n = []
  nominated : ∀ n, Nominated headers n → n ∉ vouchedHeaders identity → headers'.getAll n = []
  others : ∀ n, n ∉ vouchedHeaders identity → n ∉ droppedHeaders → ¬ Nominated headers n →
    headers'.getAll n = headers.getAll n

theorem getAll_eq_nil_iff :
    headers.getAll n = [] ↔ valuesOf headers n = [] := List.map_eq_nil_iff.symm

theorem getAll_eq_of_valuesOf (h : valuesOf headers' n = valuesOf headers n) :
    headers'.getAll n = headers.getAll n := by
  refine List.map_injective_iff.mpr ?_ h
  rintro ⟨bytes, valid⟩ ⟨bytes', valid'⟩ rfl
  rfl

section Result

variable {headers headers' : HeaderMap} {b : BackendConfig} {clientIp : IpAddr}
  {identity : Option PeerIdentity}

variable {n : HeaderName}

theorem getAll_dropped (h : rewriteHeaders headers b clientIp identity = .ok headers')
    (hn : n ∉ vouchedHeaders identity)
    (hdropped : n ∈ droppedHeaders ∨ n ∈ connectionNominated headers) : headers'.getAll n = [] := by
  simp only [vouchedHeaders, List.mem_append, List.mem_cons, List.not_mem_nil, or_false,
    not_or] at hn
  obtain ⟨⟨hhost, hfor, hreal⟩, hidentity⟩ := hn
  have hip : n ∉ [headerXForwardedFor, headerXRealIp] := by simp [hfor, hreal]
  rw [getAll_eq_nil_iff, valuesOf_rewriteHeaders h]
  by_cases hid : n ∈ [headerClientId, headerClientSpki]
  · -- an identity field stays only with an identity
    rw [if_pos hid]
    cases identity with
    | none => rfl
    | some identity => exact absurd hid hidentity
  · rw [if_neg hid, if_neg hip]
    by_cases hunvouched : n ∈ [headerXForwardedProto, headerXForwardedHost, forwarded]
    · rw [if_pos hunvouched]
    · rw [if_neg hunvouched, if_neg hhost, if_pos]
      simp only [droppedHeaders, List.mem_append, List.mem_cons, List.not_mem_nil, or_false,
        not_or] at hid hunvouched hdropped ⊢
      obtain ⟨hproto, hfhost, hfwd⟩ := hunvouched
      simpa only [hfwd, hproto, hfhost, hid.1, hid.2, false_or] using hdropped

theorem getAll_kept (h : rewriteHeaders headers b clientIp identity = .ok headers')
    (hn : n ∉ vouchedHeaders identity) (hdropped : n ∉ droppedHeaders)
    (hnominated : n ∉ connectionNominated headers) : headers'.getAll n = headers.getAll n := by
  simp only [vouchedHeaders, droppedHeaders, List.mem_append, List.mem_cons, List.not_mem_nil,
    or_false, not_or] at hn hdropped
  obtain ⟨⟨hhost, hfor, hreal⟩, -⟩ := hn
  obtain ⟨⟨hfwd, hproto, hfhost, hid, hspki⟩, hhop⟩ := hdropped
  apply getAll_eq_of_valuesOf
  rw [valuesOf_rewriteHeaders h, if_neg (by simp [hid, hspki]), if_neg (by simp [hfor, hreal]),
    if_neg (by simp [hproto, hfhost, hfwd]), if_neg hhost, if_neg (by simp [hhop, hnominated])]

/-- For every client, every peer and every identity for which rewriting succeeds, a backend receives
    the fields that the proxy vouches for once and with the proxy's values, none of those that are
    dropped or nominated, and all others as the client sent them. -/
theorem headers_rewritten (hvisible : ∀ v ∈ headers.getAll connection, v.toStr? ≠ none)
    (h : rewriteHeaders headers b clientIp identity = .ok headers') :
    Rewritten headers headers' b clientIp identity := by
  have hvalues := valuesOf_rewriteHeaders h
  constructor
  case forwardedFor =>
    rw [hvalues, if_neg (by decide), if_pos (by decide)]
  case realIp =>
    rw [hvalues, if_neg (by decide), if_pos (by decide)]
  case host =>
    rw [hvalues, if_neg (by decide), if_neg (by decide), if_neg (by decide), if_pos rfl]
  case clientId =>
    rw [hvalues, if_pos (by decide)]
    cases identity <;> rfl
  case clientSpki =>
    rw [hvalues, if_pos (by decide)]
    cases identity <;> rfl
  case dropped => exact fun n hn hvouched => getAll_dropped h hvouched (.inl hn)
  case nominated =>
    intro n hn hvouched
    exact getAll_dropped h hvouched (.inr ((mem_connectionNominated_iff hvisible n).mpr hn))
  case others =>
    intro n hvouched hdropped hn
    exact getAll_kept h hvouched hdropped
      (fun hmem => hn ((mem_connectionNominated_iff hvisible n).mp hmem))

end Result

namespace Sample

/-- A client that names fields of its own and of the proxy in its `Connection` lines, and forges
    others. -/
def forgedHeaders : HeaderMap :=
  [(connection, .lit "X-Debug, host" (by decide)),
    (.lit "x-debug" (by decide), .lit "verbose" (by decide)),
    (host, .lit "forged" (by decide)),
    (headerXForwardedFor, .lit "192.0.2.1" (by decide)),
    (headerXForwardedFor, .lit "192.0.2.2" (by decide)),
    (headerClientId, .lit "somebody" (by decide)),
    (cookie, .lit "a=1" (by decide)),
    (cookie, .lit "b=2" (by decide))]

end Sample

theorem forged_headers_rewritten :
    ∃ headers', rewriteHeaders Sample.forgedHeaders Sample.b1 Sample.b2.address.ip none =
        .ok headers' ∧
      Rewritten Sample.forgedHeaders headers' Sample.b1 Sample.b2.address.ip none :=
  ⟨_, rfl, headers_rewritten (by decide) rfl⟩

end Reduction
