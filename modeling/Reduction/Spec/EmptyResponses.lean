import Reduction.Native.StreamedResponse
import Reduction.Spec.CompressFaithful

/-!
# Responses without content

A 204 or 304 has no content, and compression does not look at the status: unless
one of its other conditions keeps it away, the body becomes the zstd frame of
nothing, which is not empty, and the fields say so.

- `OutgoingBody.plain_silent_iff`: a body yields no data iff none of its frames has any
- `transduce_silent`: a compressed body without data yields what its encoder is flushed of
- `stays_empty_iff`
-/

namespace Reduction

open Http

/-! ## Polls -/

namespace OutgoingBody

variable {z : ZstdEncoder} {ε : Type}

/-- The polls of a client at the given times, and the body after them. -/
def pollAll : OutgoingBody z ε → List Instant → List (FramePoll ε) × OutgoingBody z ε
  | body, [] => ([], body)
  | body, now :: times =>
    ((body.pollFrame now).1 :: ((body.pollFrame now).2.pollAll times).1,
      ((body.pollFrame now).2.pollAll times).2)

/-- The frames that the client gets. -/
def frames (body : OutgoingBody z ε) (times : List Instant) :
    List (Except (CompressError ε) Frame) :=
  CompressedBody.framesOf (body.pollAll times).1

/-- However it is polled, the body yields no data. -/
def Silent (body : OutgoingBody z ε) : Prop :=
  ∀ times bytes, .ok (.data bytes) ∈ body.frames times → bytes = []

theorem frames_compressed (body : CompressedBody z ε) (times : List Instant) :
    (compressed body).frames times = CompressedBody.framesOf (body.pollAll times).1 := by
  have hpolls : ∀ body : CompressedBody z ε,
      ((compressed body).pollAll times).1 = (body.pollAll times).1 := by
    induction times with
    | nil => exact fun _ => rfl
    | cons now times ih =>
      intro body
      have hrest := ih (body.pollFrame now).2
      rw [pollAll, CompressedBody.pollAll, ← hrest]
      rfl
  rw [frames, hpolls]

/-- A poll hands out the first frame, if it has arrived. -/
theorem frames_plain_cons (body : Incoming ε) (now : Instant) (times : List Instant) :
    (∃ frame arrival rest, body.frames = (arrival, frame) :: rest ∧
      (plain body : OutgoingBody z ε).frames (now :: times) =
        passed frame :: (plain (body.took arrival now rest) : OutgoingBody z ε).frames times) ∨
    (plain body : OutgoingBody z ε).frames (now :: times) =
      (plain body : OutgoingBody z ε).frames times := by
  rcases hframes : body.frames with _ | ⟨⟨arrival, frame⟩, rest⟩
  · refine .inr ?_
    by_cases hend : body.endAt ≤ now
    · simp [frames, pollAll, pollFrame, Incoming.pollFrame, hframes, hend, CompressedBody.framesOf]
    · simp [frames, pollAll, pollFrame, Incoming.pollFrame, hframes, hend, CompressedBody.framesOf]
  · by_cases harrived : arrival ≤ now
    · refine .inl ⟨frame, arrival, rest, rfl, ?_⟩
      simp [frames, pollAll, pollFrame, Incoming.pollFrame, hframes, harrived,
        CompressedBody.framesOf]
    · refine .inr ?_
      simp [frames, pollAll, pollFrame, Incoming.pollFrame, hframes, harrived,
        CompressedBody.framesOf]

/-- A client that polls at each arrival gets all frames. -/
theorem frames_arrivals (body : Incoming ε) :
    (plain body : OutgoingBody z ε).frames (body.frames.map Prod.fst) =
      body.frames.map fun f => passed f.2 := by
  induction hframes : body.frames generalizing body with
  | nil => rfl
  | cons f rest ih =>
    have hrest := ih (body.took f.1 f.1 rest) rfl
    rw [List.map_cons, List.map_cons, ← hrest]
    simp [frames, pollAll, pollFrame, Incoming.pollFrame, hframes, CompressedBody.framesOf]

theorem plain_silent_iff (body : Incoming ε) :
    (plain body : OutgoingBody z ε).Silent ↔
      ∀ f ∈ body.frames, ∀ bytes, f.2 = .ok (.data bytes) → bytes = [] := by
  constructor
  · intro h f hf bytes hbytes
    refine h (body.frames.map Prod.fst) bytes ?_
    rw [frames_arrivals, List.mem_map]
    exact ⟨f, hf, by rw [hbytes]; rfl⟩
  · intro h times bytes hmem
    induction times generalizing body with
    | nil => simp [frames, pollAll, CompressedBody.framesOf] at hmem
    | cons now times ih =>
      rcases frames_plain_cons (z := z) body now times with
        ⟨frame, arrival, rest, hframes, hcons⟩ | hsame
      · rw [hcons, List.mem_cons] at hmem
        rcases hmem with hfirst | hlater
        · refine h (arrival, frame) (by rw [hframes]; exact List.mem_cons_self) bytes ?_
          cases frame with
          | ok frame =>
            cases hfirst
            rfl
          | error e => cases hfirst
        · refine ih (body.took arrival now rest) (fun f hf => ?_) hlater
          exact h f (by rw [hframes]; exact List.mem_cons_of_mem _ hf)
      · rw [hsame] at hmem
        exact ih body h hmem

end OutgoingBody

/-! ## Compressed bodies without data -/

section Compressed

variable {z : ZstdEncoder} {ε : Type}

theorem compressChunk_nil (z : ZstdEncoder) (s : z.State) : compressChunk z s [] = .ok (s, []) := by
  rw [compressChunk, compressChunk.loop, if_pos rfl]

variable {s s' : z.State} {out : Bytes}

/-- One pass is enough if it leaves nothing. -/
theorem finishEncoder_of_finish (h : z.finish s outputBufSize = .ok (s', 0, out)) :
    finishEncoder z s = .ok (s', out) := by
  rw [finishEncoder, finishEncoder.loop_ok h, if_pos rfl, List.nil_append]

/-- A body without data yields what its encoder is flushed of. -/
theorem mem_transduce_silent (hflush : finishEncoder z s = .ok (s', out)) (hout : out ≠ [])
    (offloads : List Offload) (frames : List (Except ε Frame))
    (hsilent : ∀ f ∈ frames, ∀ bytes, f = .ok (.data bytes) →
      bytes = []) : .ok (.data out) ∈ transduce z s offloads frames := by
  induction frames with
  | nil => simp [transduce, hflush, frameOf, hout]
  | cons f frames ih =>
    have hrest := ih fun f' hf' => hsilent f' (List.mem_cons_of_mem _ hf')
    cases f with
    | error e => exact List.mem_cons_of_mem _ hrest
    | ok frame =>
      cases frame with
      | trailers fields => exact List.mem_cons_of_mem _ hrest
      | data d =>
        obtain rfl := hsilent _ List.mem_cons_self d rfl
        have hshort : ¬ offloadThresholdBytes < ([] : Bytes).length := by simp
        simpa [transduce, chunkResult, offloadsAfter, hshort, compressChunk_nil, frameOf] using hrest

/-- The client gets it when it polls the body to its end. -/
theorem exists_frames_compressed (hflush : finishEncoder z s = .ok (s', out)) (hout : out ≠ [])
    (offloads : List Offload) (body : Incoming ε)
    (hsilent : ∀ f ∈ body.frames, ∀ bytes, f.2 = .ok (.data bytes) →
      bytes = []) :
    ∃ times, .ok (.data out) ∈
      (OutgoingBody.compressed (CompressedBody.withEncoder body offloads s)).frames times := by
  obtain ⟨times, -, hdone⟩ :=
    (CompressedBody.withEncoder body offloads s).exists_pollAll_done 0
  refine ⟨times, ?_⟩
  have hall := CompressedBody.pollAll_toCome
    (show (CompressedBody.withEncoder body offloads s).Intact from rfl) times
  have hend : ((CompressedBody.withEncoder body offloads s).pollAll times).2.toCome = [] := by
    rw [CompressedBody.toCome, hdone]
  have hmem := mem_transduce_silent hflush hout offloads (body.frames.map Prod.snd) (by
    intro f hf bytes hbytes
    obtain ⟨f', hf', rfl⟩ := List.mem_map.mp hf
    exact hsilent f' hf' bytes hbytes)
  rw [hend, List.append_nil] at hall
  rw [OutgoingBody.frames_compressed, ← hall]
  exact hmem

end Compressed

/-! ## The conditions of compression -/

namespace StreamedResponse

variable {z : ZstdEncoder} {ε : Type} (newEncoder : Int → Option z.State) (offloads : List Offload)
  (response : StreamedResponse (Incoming ε))

/-- The response declares a length below the configured minimum. -/
def DeclaredShort (minBytes : UInt32) : Prop :=
  ∃ len, ((response.headers.get contentLength).bind HeaderValue.toStr?).bind
    (Bytes.parseUnsigned 32) = some len ∧ len < minBytes.toNat

/-- Nothing keeps compression away from the response. -/
structure Compresses (acceptsZstd : Bool) (directives : CacheDirectives)
    (config : CompressionConfig) : Prop where
  enabled : config.enabled = true
  accepts : acceptsZstd = true
  unencoded : response.headers.containsKey contentEncoding = false
  transformable : directives.noTransform = false
  long : ¬ response.DeclaredShort config.minBytes

theorem compressResponse_of_short {minBytes : UInt32} (h : response.DeclaredShort minBytes)
    (level : Int) :
    response.compressResponse newEncoder offloads minBytes level = response.unchanged := by
  obtain ⟨len, hlen, hshort⟩ := h
  simp only [compressResponse, hlen, hshort, if_true]

theorem compressResponse_of_long {minBytes : UInt32} (h : ¬ response.DeclaredShort minBytes)
    (level : Int) :
    response.compressResponse newEncoder offloads minBytes level =
      compressResponse.compress newEncoder offloads response level := by
  unfold compressResponse
  dsimp only
  cases hlen : ((response.headers.get contentLength).bind HeaderValue.toStr?).bind
      (Bytes.parseUnsigned 32) with
  | none => rfl
  | some len =>
    have hlong : ¬ len < minBytes.toNat := fun hlt => h ⟨len, hlen, hlt⟩
    simp only [hlong, if_false]

variable {acceptsZstd : Bool} {directives : CacheDirectives} {config : CompressionConfig}

theorem maybeCompress_of_not (h : ¬ response.Compresses acceptsZstd directives config) :
    response.maybeCompress newEncoder offloads acceptsZstd directives config =
      response.unchanged := by
  unfold maybeCompress
  split
  case isFalse => rfl
  case isTrue hall =>
    simp only [Bool.and_eq_true, Bool.not_eq_true', decide_eq_true_eq] at hall
    obtain ⟨⟨⟨⟨henabled, haccepts⟩, hplain⟩, -⟩, htransform⟩ := hall
    refine response.compressResponse_of_short newEncoder offloads ?_ _
    by_contra hlong
    exact h ⟨henabled, haccepts, hplain, htransform, hlong⟩

/-- The status is only looked at for partial content. -/
theorem maybeCompress_of_compresses (hstatus : response.status ≠ .partialContent)
    (h : response.Compresses acceptsZstd directives config) :
    response.maybeCompress newEncoder offloads acceptsZstd directives config =
      compressResponse.compress newEncoder offloads response config.level := by
  rw [maybeCompress, if_pos (by simp [h.enabled, h.accepts, h.unencoded, h.transformable, hstatus])]
  exact response.compressResponse_of_long newEncoder offloads h.long _

/-- A response without content leaves without content, and its fields say the same about it. -/
structure StaysEmpty (out : StreamedResponse (OutgoingBody z ε)) : Prop where
  silent : out.body.Silent
  encoding : out.headers.getAll contentEncoding = response.headers.getAll contentEncoding
  length : out.headers.getAll contentLength = response.headers.getAll contentLength

end StreamedResponse

open StreamedResponse in
/-- A 204 or 304 without data stays without exactly if something keeps compression away from it.
    Otherwise there are polls that get data: the frame of nothing, or a message. -/
theorem stays_empty_iff {z : ZstdEncoder} {ε : Type} {newEncoder : Int → Option z.State}
    {config : CompressionConfig}
    (hflush : ∀ s, newEncoder config.level = some s →
      ∃ s' out, finishEncoder z s = .ok (s', out) ∧ out ≠ [])
    (offloads : List Offload) {response : StreamedResponse (Incoming ε)}
    (hstatus : response.status.code = 204 ∨ response.status.code = 304)
    (hsilent : (OutgoingBody.plain response.body : OutgoingBody z ε).Silent) (acceptsZstd : Bool)
    (directives : CacheDirectives) :
    let out := response.maybeCompress newEncoder offloads acceptsZstd directives config
    (response.StaysEmpty out ↔ ¬ response.Compresses acceptsZstd directives config) ∧
      (response.Compresses acceptsZstd directives config →
        ∃ times bytes, bytes ≠ [] ∧ .ok (.data bytes) ∈ out.body.frames times) := by
  have hpartial : response.status ≠ .partialContent := by
    intro h
    rw [h] at hstatus
    exact absurd hstatus (by decide)
  have hdata : response.Compresses acceptsZstd directives config → ∃ times bytes, bytes ≠ [] ∧
      .ok (.data bytes) ∈ (response.maybeCompress newEncoder offloads acceptsZstd directives
        config).body.frames times := by
    intro h
    rw [maybeCompress_of_compresses newEncoder offloads response hpartial h,
      StreamedResponse.compressResponse.compress]
    cases henc : newEncoder config.level with
    | none =>
      refine ⟨[0], Bytes.ascii "response compression failed", by decide, ?_⟩
      exact List.mem_cons_self
    | some s =>
      obtain ⟨s', out, hfinish, hout⟩ := hflush s henc
      obtain ⟨times, hmem⟩ := exists_frames_compressed hfinish hout offloads response.body
        ((OutgoingBody.plain_silent_iff response.body).mp hsilent)
      exact ⟨times, out, hout, hmem⟩
  refine ⟨⟨fun hempty h => ?_, fun h => ?_⟩, hdata⟩
  · obtain ⟨times, bytes, hne, hmem⟩ := hdata h
    exact hne (hempty.silent times bytes hmem)
  · rw [maybeCompress_of_not newEncoder offloads response h]
    exact ⟨hsilent, rfl, rfl⟩

namespace Sample

/-- An encoder that has a byte to write before it is given any, as zstd has its frame header. -/
def framingEncoder : Int → Option bufferingEncoder.State := fun _ => some ([40] : Bytes)

def noContent : StreamedResponse (Incoming String) :=
  { status := ⟨204, by decide⟩, headers := [], body := { frames := [], endAt := 0, taken := [] } }

def zstdConfig : CompressionConfig := { enabled := true, minBytes := 256, level := 3 }

theorem noContent_silent :
    (OutgoingBody.plain noContent.body : OutgoingBody bufferingEncoder String).Silent :=
  (OutgoingBody.plain_silent_iff noContent.body).mpr fun _ hf => absurd hf List.not_mem_nil

end Sample

open Sample in
theorem no_content_stays_empty_unless_accepted :
    noContent.StaysEmpty (noContent.maybeCompress framingEncoder [] false (.fromResponse [])
      zstdConfig) := by
  refine (stays_empty_iff (fun s hs => ?_) [] (.inl rfl) noContent_silent false _).1.mpr fun h => ?_
  · cases hs
    exact ⟨([] : Bytes), [40], finishEncoder_of_finish rfl, by decide⟩
  · cases h.accepts

open Sample in
theorem no_content_gets_zstd_frame :
    (OutgoingBody.plain noContent.body : OutgoingBody bufferingEncoder String).Silent ∧
      let out := noContent.maybeCompress framingEncoder [] true (.fromResponse []) zstdConfig
      out.status.code = 204 ∧ out.body.frames [0] = [.ok (.data [40])] ∧
        out.headers.getAll contentEncoding = [zstdValue] ∧
        noContent.headers.getAll contentEncoding = [] :=
  ⟨noContent_silent, by decide +kernel⟩

end Reduction
