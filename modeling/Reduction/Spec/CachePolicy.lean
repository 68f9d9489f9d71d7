import Reduction.Spec.CacheCorrect
import Reduction.Spec.HandlerRuns

/-!
# What the shared cache may hold

`Cache-Control` and `Vary` are list fields: a response may repeat them, and then
the lists of all the lines count.  The proxy reads the first line of each, and
of `Vary` only if it is visible ASCII.

## Key results

- `mem_puts`: what a run stores is a response that a backend answered with and
  that `should_cache_response` let through
- `stored_response_shareable_iff`: the cache holds what it may hold exactly if
  the lines that the proxy does not read would have changed nothing
- `second_line_is_stored`: a `no-store` in a second line is not seen
-/

namespace Reduction

open Http Traced

/-! ## The policy -/

/-- A member of a `Cache-Control` list that lets a shared cache keep the response. -/
def StorableDirective (m : Bytes) : Prop :=
  m.eqIgnoreAsciiCase (Bytes.ascii "no-store") = false ∧
    m.eqIgnoreAsciiCase (Bytes.ascii "private") = false

/-- A member of a `Vary` list that the cache accounts for. -/
def KeyedHeader (m : Bytes) : Prop :=
  m.toAsciiLowercase ∈ [acceptEncoding.bytes, headerClientId.bytes, headerClientSpki.bytes]

/-- A response that a cache shared under one identity may hold. -/
def Shareable (headers : HeaderMap) : Prop :=
  (∀ m ∈ headers.members cacheControl, StorableDirective m) ∧
    ∀ m ∈ headers.members vary, KeyedHeader m

instance (m : Bytes) : Decidable (StorableDirective m) := inferInstanceAs (Decidable (_ ∧ _))

instance (m : Bytes) : Decidable (KeyedHeader m) := inferInstanceAs (Decidable (_ ∈ _))

instance (headers : HeaderMap) : Decidable (Shareable headers) :=
  inferInstanceAs (Decidable (_ ∧ _))

/-- The `Cache-Control` lines that `from_response` does not look at. -/
def unreadCacheControl (headers : HeaderMap) : List HeaderValue :=
  (headers.getAll cacheControl).tail

/-- The `Vary` lines that `vary_permits_caching` does not look at: all but the first, and the first
    as well if it is not visible ASCII. -/
def unreadVary (headers : HeaderMap) : List HeaderValue :=
  match headers.getAll vary with
  | [] => []
  | first :: rest => if first.toStr?.isSome then rest else first :: rest

/-! ## The lines that are read -/

namespace CacheDirectives

/-- A part is at most one of two different directives. -/
theorem eqIgnoreAsciiCase_of_ne {s a b : Bytes} (ha : s.eqIgnoreAsciiCase a = true)
    (hne : a.toAsciiLowercase ≠ b.toAsciiLowercase) : s.eqIgnoreAsciiCase b = false := by
  simp only [Bytes.eqIgnoreAsciiCase, beq_iff_eq, beq_eq_false_iff_ne] at ha ⊢
  rw [ha]
  exact hne

variable (d : CacheDirectives) (part : Bytes)

theorem parsePart_noStore :
    (parsePart d part).noStore =
      (d.noStore || part.trim.eqIgnoreAsciiCase (Bytes.ascii "no-store")) := by
  by_cases hstore : part.trim.eqIgnoreAsciiCase (Bytes.ascii "no-store") = true
  · simp [parsePart, hstore]
  · rw [Bool.not_eq_true] at hstore
    simp only [parsePart, hstore, Bool.false_eq_true, if_false, Bool.or_false]
    repeat' split
    all_goals rfl

theorem parsePart_isPrivate :
    (parsePart d part).isPrivate =
      (d.isPrivate || part.trim.eqIgnoreAsciiCase (Bytes.ascii "private")) := by
  by_cases hprivate : part.trim.eqIgnoreAsciiCase (Bytes.ascii "private") = true
  · have hstore := eqIgnoreAsciiCase_of_ne (b := Bytes.ascii "no-store") hprivate (by decide)
    have htransform := eqIgnoreAsciiCase_of_ne (b := Bytes.ascii "no-transform") hprivate
      (by decide)
    simp [parsePart, hprivate, hstore, htransform]
  · rw [Bool.not_eq_true] at hprivate
    simp only [parsePart, hprivate, Bool.false_eq_true, if_false, Bool.or_false]
    repeat' split
    all_goals rfl

/-- A flag that a part raises exactly if it passes a test is raised by a line exactly if one of its
    parts does. -/
theorem foldl_parsePart {flag : CacheDirectives → Bool} {test : Bytes → Bool}
    (hpart : ∀ d part, flag (parsePart d part) = (flag d || test part)) (parts : List Bytes)
    (d : CacheDirectives) : flag (parts.foldl parsePart d) = (flag d || parts.any test) := by
  induction parts generalizing d with
  | nil => simp
  | cons part parts ih => rw [List.foldl_cons, ih, hpart, List.any_cons, Bool.or_assoc]

theorem parse_storable {line : Bytes} (hstore : (parse line).noStore = false)
    (hprivate : (parse line).isPrivate = false) :
    ∀ m ∈ HeaderMap.elements line, StorableDirective m := by
  rw [parse, foldl_parsePart parsePart_noStore, Bool.false_or, List.any_eq_false] at hstore
  rw [parse, foldl_parsePart parsePart_isPrivate, Bool.false_or, List.any_eq_false] at hprivate
  intro m hm
  obtain ⟨part, hpart, rfl⟩ := List.mem_map.mp (List.mem_filter.mp hm).1
  exact ⟨by simpa using hstore part hpart, by simpa using hprivate part hpart⟩

/-- A response marked `public` has a first `Cache-Control` line, and its directives are those of
    that line. -/
theorem fromResponse_public {headers : HeaderMap} (h : (fromResponse headers).isPublic = true) :
    ∃ first rest, headers.getAll cacheControl = first :: rest ∧
      fromResponse headers = parse first.bytes := by
  rw [fromResponse, HeaderMap.get] at h ⊢
  cases hlines : headers.getAll cacheControl with
  | nil => simp [hlines] at h
  | cons first rest =>
    refine ⟨first, rest, rfl, ?_⟩
    simp only [hlines, List.head?_cons, HeaderValue.toStr?] at h ⊢
    cases hvisible : first.bytes.all isVisible with
    | false => simp [hvisible] at h
    | true => simp

end CacheDirectives

/-- Every member of the first `Vary` line is accounted for, unless that line was not read. -/
theorem varyPermitsCaching_keyed {headers : HeaderMap} (h : varyPermitsCaching headers = true)
    {first : HeaderValue} {rest : List HeaderValue} (hlines : headers.getAll vary = first :: rest)
    (hvisible : first.toStr?.isSome = true) :
    ∀ m ∈ HeaderMap.elements first.bytes, KeyedHeader m := by
  obtain ⟨line, hline⟩ := Option.isSome_iff_exists.mp hvisible
  have hbytes : line = first.bytes := by
    simp only [HeaderValue.toStr?, Option.ite_none_right_eq_some, Option.some.injEq] at hline
    exact hline.2.symm
  have hall : line.splitComma.all varyTokenPermitted = true := by
    simpa [varyPermitsCaching, HeaderMap.get, hlines, hline] using h
  intro m hm
  obtain ⟨token, htoken, rfl⟩ := List.mem_map.mp (List.mem_filter.mp hm).1
  have hpermitted := List.all_eq_true.mp hall token (hbytes ▸ htoken)
  simp only [varyTokenPermitted, Bool.or_eq_true, beq_iff_eq] at hpermitted
  simp only [KeyedHeader, List.mem_cons, List.not_mem_nil, or_false]
  exact or_assoc.mp hpermitted

/-! ## The lines as a whole -/

/-- With what is known of the lines that are read, the whole lists are as good as the others. -/
theorem shareable_iff_unread {headers : HeaderMap}
    (hstore : (CacheDirectives.fromResponse headers).noStore = false)
    (hprivate : (CacheDirectives.fromResponse headers).isPrivate = false)
    (hpublic : (CacheDirectives.fromResponse headers).isPublic = true)
    (hvary : varyPermitsCaching headers = true) :
    Shareable headers ↔
      (∀ v ∈ unreadCacheControl headers, ∀ m ∈ HeaderMap.elements v.bytes, StorableDirective m) ∧
        ∀ v ∈ unreadVary headers, ∀ m ∈ HeaderMap.elements v.bytes, KeyedHeader m := by
  have hcontrol : (∀ m ∈ headers.members cacheControl, StorableDirective m) ↔
      ∀ v ∈ unreadCacheControl headers, ∀ m ∈ HeaderMap.elements v.bytes, StorableDirective m := by
    -- only a `public` response is stored, so there is a first line and it was parsed
    obtain ⟨first, rest, hlines, hparse⟩ := CacheDirectives.fromResponse_public hpublic
    rw [hparse] at hstore hprivate
    have hread := CacheDirectives.parse_storable hstore hprivate
    simp only [HeaderMap.members_eq, unreadCacheControl, hlines, List.mem_flatMap, List.tail_cons]
    constructor
    · intro hall v hv m hm
      exact hall m ⟨v, List.mem_cons_of_mem _ hv, hm⟩
    · rintro hunread m ⟨v, hv, hm⟩
      rcases List.mem_cons.mp hv with rfl | hv
      · exact hread m hm
      · exact hunread v hv m hm
  have hkeyed : (∀ m ∈ headers.members vary, KeyedHeader m) ↔
      ∀ v ∈ unreadVary headers, ∀ m ∈ HeaderMap.elements v.bytes, KeyedHeader m := by
    simp only [HeaderMap.members_eq, unreadVary, List.mem_flatMap]
    cases hlines : headers.getAll vary with
    | nil => simp
    | cons first rest =>
      constructor
      · intro hall v hv m hm
        refine hall m ⟨v, ?_, hm⟩
        dsimp only at hv
        split at hv
        · exact List.mem_cons_of_mem _ hv
        · exact hv
      · rintro hunread m ⟨v, hv, hm⟩
        dsimp only at hunread
        split at hunread
        · rename_i hvisible
          rcases List.mem_cons.mp hv with rfl | hv
          · exact varyPermitsCaching_keyed hvary hlines hvisible m hm
          · exact hunread v hv m hm
        · exact hunread v hv m hm
  rw [Shareable, hcontrol, hkeyed]

/-! ## What a run stores -/

/-- The response is stored as the backend sent it, with its own directives, and was let through. -/
structure CachePut.Of (put : CachePut) (ctx : RequestCtx) (response : Response) : Prop where
  status_eq : put.status = response.status
  headers_eq : put.headers = response.headers
  directives_eq : put.directives = .fromResponse response.headers
  allowed : shouldCacheResponse ctx response response.status (.fromResponse response.headers) = true

variable (ctx : RequestCtx)

theorem deliverResponse_puts (s : Selected) (response : Response) (reqParts : Parts) :
    ∀ put ∈ (deliverResponse ctx s response reqParts).events.filterMap Event.put?,
      put.Of ctx response := by
  have hdrop := filterMap_gate put?_of_gate (dropGuards_gate s)
  cases hallowed : shouldCacheResponse ctx response response.status
      (.fromResponse response.headers) with
  | false =>
    -- what is streamed is not stored
    cases hserver : response.status.isServerError <;>
    simp [deliverResponse, hserver, hallowed, Event.put?]
  | true =>
    cases hserver : response.status.isServerError <;>
    cases hbody : response.body.collect <;>
    simp only [deliverResponse, storeAndRespond, hserver, hallowed, hbody, if_true, if_false,
      Bool.false_eq_true, events_bind, val_bind, events_emit, events_pure, List.filterMap_append,
      List.filterMap_cons, List.filterMap_nil, hdrop, Event.put?, List.append_nil, List.nil_append,
      List.not_mem_nil, List.mem_singleton, false_implies, implies_true, forall_eq]
    all_goals exact ⟨rfl, rfl, rfl, hallowed⟩

theorem handleResponse_puts (env : AttemptEnv) (attempt : Nat) (s : Selected)
    (result : Except ReductionError Response) (reqParts : Parts) (retry : RetryState) :
    ∀ put ∈ (handleResponse ctx env attempt s result reqParts retry).events.filterMap Event.put?,
      ∃ response, result = .ok response ∧ put.Of ctx response := by
  have hdrop := filterMap_gate put?_of_gate (dropGuards_gate s)
  cases result with
  | error err =>
    have herror : (handleForwardError ctx env attempt s.backend err retry).events.filterMap
        Event.put? = [] := by
      unfold handleForwardError
      split
      · cases hwake : env.wake s.backend <;> simp [parkForWake, hwake, Event.put?]
      · split <;> simp [Event.put?]
    simp [handleResponse, List.filterMap_append, herror, hdrop, -List.filterMap_eq_nil_iff]
  | ok response =>
    intro put hput
    refine ⟨response, rfl, deliverResponse_puts ctx s response reqParts put ?_⟩
    cases hretry : isRetryableStatus response.status with
    | false =>
      simpa only [handleResponse, hretry, Bool.false_eq_true, if_false, events_bind, events_pure,
        List.append_nil] using hput
    | true =>
      by_cases hlast : attempt + 1 < ctx.maxAttempts
      · simp only [handleResponse, hretry, hlast, if_true, events_bind, events_emit, events_pure,
          List.filterMap_append, List.filterMap_cons, List.filterMap_nil, Event.put?, hdrop,
          List.append_nil, List.not_mem_nil] at hput
      · simpa only [handleResponse, hretry, hlast, if_true, if_false, events_bind, events_emit,
          events_pure, List.filterMap_append, List.filterMap_cons, List.filterMap_nil, Event.put?,
          List.nil_append, List.append_nil] using hput

/-- What a run stores is an answer that it got from a backend and that `should_cache_response` let
    through. -/
theorem mem_puts {state : ProxyState} {env : HandlerEnv} {req : Request} {put : CachePut}
    (h : put ∈ (proxyHandler state env req).puts) :
    ∃ log ∈ (proxyHandler state env req).attempts, ∃ b ctx response,
      .answered b (.ok response) ∈ log.events ∧ put.Of ctx response := by
  rw [proxyHandler_puts, List.mem_flatMap] at h
  obtain ⟨log, hlog, hput⟩ := h
  obtain ⟨p, -, -, -, remaining, hat⟩ := mem_attempts hlog
  refine ⟨log, hlog, ?_⟩
  rw [hat] at hput ⊢
  simp only [AttemptLog.puts, attemptAt] at hput ⊢
  cases runAttempt_case p.ctx (env.attempts log.attempt) log.attempt remaining log.replay log.retry
    with
  | noBackend e hsel hgate hval => simp [filterMap_gate put?_of_gate hgate] at hput
  | skipped b msg hsel hadm hgate hval => simp [filterMap_gate put?_of_gate hgate] at hput
  | consumed b hsel hadm hreq hgate hval => simp [filterMap_gate put?_of_gate hgate] at hput
  | forwarded b request replay' fwd answer hsel hadm hreq hfwd hanswer htrace hrest hval =>
    -- a put is neither gating nor exchange, so it comes from interpreting the answer
    obtain ⟨e, he, hview⟩ := List.mem_filterMap.mp hput
    have hkind := put?_eq_some_iff.mp hview
    have hanswered := hrest e he (by rw [hkind]; rfl) (by rw [hkind]; rfl)
    rw [hanswer] at hanswered
    obtain ⟨response, hresponse, hof⟩ := handleResponse_puts _ _ _ _ _ _ _ put
      (List.mem_filterMap.mpr ⟨e, hanswered, hview⟩)
    exact ⟨b, p.ctx, response, (htrace.mem_answered b _).mpr ⟨rfl, hresponse.symm⟩, hof⟩

/-- A response that a run hands to the cache and that the cache accepts is one that it may hold,
    exactly if the lines that were not read would have changed nothing: no later `Cache-Control`
    line has a `no-store` or a `private`, and the unread `Vary` lines name nothing that the cache
    does not account for. -/
theorem stored_response_shareable_iff {state : ProxyState} {env : HandlerEnv} {req : Request}
    {put : CachePut} (hput : put ∈ (proxyHandler state env req).puts) {cache : ResponseCache}
    {now : Instant}
    (haccepted :
      (cache.put put.key put.status put.headers put.body put.directives now).2 = true) :
    Shareable put.headers ↔
      (∀ v ∈ unreadCacheControl put.headers,
        ∀ m ∈ HeaderMap.elements v.bytes, StorableDirective m) ∧
        ∀ v ∈ unreadVary put.headers, ∀ m ∈ HeaderMap.elements v.bytes, KeyedHeader m := by
  obtain ⟨-, -, -, ctx, response, -, hof⟩ := mem_puts hput
  have hallowed := hof.allowed
  have hdirectives := hof.directives_eq
  simp only [shouldCacheResponse, responsePermitsSharedCaching, Bool.and_eq_true] at hallowed
  rw [← hof.headers_eq] at hallowed hdirectives
  -- an accepted put had neither `no-store` nor `private` in the line that was read
  rcases cache.put_cases put.key put.status put.headers put.body put.directives now with
    hrejected | ⟨hstore, hprivate, -⟩
  · rw [hrejected] at haccepted
    cases haccepted
  · rw [hdirectives] at hstore hprivate
    exact shareable_iff_unread hstore hprivate hallowed.2.2 hallowed.1.2

namespace Sample

/-- The sample proxy with its cache switched on. -/
def caching : ProxyState :=
  { state 0 with cacheConfig := { (state 0).cacheConfig with enabled := true } }

/-- The backends answer with an empty body and the given header lines. -/
def answeringWith (headers : HeaderMap) : HandlerEnv :=
  env twoBackends fun _ =>
    { attempt .ok with send := fun _ _ _ => .ok { status := .ok, headers, body := .ofBytes [] } }

def publicLine : HeaderName × HeaderValue := (cacheControl, .lit "public, max-age=60" (by decide))

end Sample

theorem plain_public_response_shareable :
    ∃ put ∈ (proxyHandler Sample.caching
        (Sample.answeringWith [Sample.publicLine, (vary, .lit "Accept-Encoding" (by decide))])
        (Sample.request .get [])).puts,
      ((ResponseCache.new Sample.caching.cacheConfig).put put.key put.status put.headers put.body
        put.directives 0).2 = true ∧ Shareable put.headers := by
  have hstored : ∃ put ∈ (proxyHandler Sample.caching
        (Sample.answeringWith [Sample.publicLine, (vary, .lit "Accept-Encoding" (by decide))])
        (Sample.request .get [])).puts,
      ((ResponseCache.new Sample.caching.cacheConfig).put put.key put.status put.headers put.body
        put.directives 0).2 = true ∧
      unreadCacheControl put.headers = [] ∧ unreadVary put.headers = [] := by
    decide +kernel
  obtain ⟨put, hput, haccepted, hcontrol, hvary⟩ := hstored
  refine ⟨put, hput, haccepted, (stored_response_shareable_iff hput haccepted).mpr ?_⟩
  simp [hcontrol, hvary]

/-- A response that says `no-store` in its second `Cache-Control` line goes into the cache. -/
theorem second_line_is_stored :
    ∃ put ∈ (proxyHandler Sample.caching
        (Sample.answeringWith [Sample.publicLine, (cacheControl, .lit "no-store" (by decide))])
        (Sample.request .get [])).puts,
      ((ResponseCache.new Sample.caching.cacheConfig).put put.key put.status put.headers put.body
        put.directives 0).2 = true ∧ ¬ Shareable put.headers := by
  decide +kernel

end Reduction
