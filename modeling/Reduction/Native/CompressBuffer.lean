import Reduction.ForStd.OutBuffer
import Reduction.ForStd.Traced
import Reduction.Native.CompressBody

/-!
# The buffers of the compressor

Model of `compress_chunk` and `finish_encoder` of `src/proxy/compress_body.rs` with the
buffers they work on: the input with the position up to which it is consumed, and the
output with the cells that are filled.  Here nothing bounds what an encoder may write, so
the loops are given a number of passes, and a result `none` is a loop that has made them
all and would go on.  Each pass is reported.
-/

namespace Reduction

namespace Buffered

/-- An encoder of the crate `zstd`: a pass consumes no more than it is offered and writes no more
    than there is space for. -/
structure ZstdEncoder where
  State : Type
  run : State → Bytes → Nat → Except String (State × Nat × Bytes)
  finish : State → Nat → Except String (State × Nat × Bytes)
  run_consumed : ∀ {s input space s' n out}, run s input space = .ok (s', n, out) →
    n ≤ input.length
  run_fits : ∀ {s input space s' n out}, run s input space = .ok (s', n, out) →
    out.length ≤ space
  finish_fits : ∀ {s space s' left out}, finish s space = .ok (s', left, out) →
    out.length ≤ space

/-- A pass: the space it was given, what it consumed and wrote, and how many bytes were left
    after it, of the input or in the encoder. -/
structure Pass where
  space : Nat
  consumed : Nat
  written : Bytes
  left : Option Nat
deriving DecidableEq

/-- A pass that failed. -/
def Pass.failed (space : Nat) : Pass := { space, consumed := 0, written := [], left := none }

/-- What a loop has come to: `none` while it goes on. -/
abbrev Outcome (z : ZstdEncoder) := Option (Except String (z.State × Bytes))

/-- The `while` loop of `compress_chunk`. -/
def compressChunk.loop (z : ZstdEncoder) (input : Bytes) :
    Nat → z.State → Nat → OutBuffer UInt8 → Traced Pass (Outcome z)
  | 0, s, pos, output =>
    if pos < input.length then pure none else pure (some (.ok (s, output.content)))
  | passes + 1, s, pos, output =>
    if pos < input.length then
      match z.run s (input.drop pos) output.room with
      | .error e => do
        Traced.emit (Pass.failed output.room)
        pure (some (.error e))
      | .ok (s', consumed, written) => do
        let left := input.length - (pos + consumed)
        Traced.emit { space := output.room, consumed, written, left := some left }
        let output := output.write written
        if written.length = 0 ∧ pos + consumed = pos then
          pure (some (.error "zstd encoder made no progress"))
        else
          compressChunk.loop z input passes s' (pos + consumed)
            (output.enlargeIfFull 0 outputBufSize)
    else
      -- `truncate` leaves the filled cells
      pure (some (.ok (s, output.content)))

def compressChunk (z : ZstdEncoder) (passes : Nat) (s : z.State) (input : Bytes) :
    Traced Pass (Outcome z) :=
  compressChunk.loop z input passes s 0 (OutBuffer.zeroed 0 (max outputBufSize input.length))

/-- The loop of `finish_encoder`. -/
def finishEncoder.loop (z : ZstdEncoder) :
    Nat → z.State → OutBuffer UInt8 → Traced Pass (Outcome z)
  | 0, _, _ => pure none
  | passes + 1, s, output =>
    match z.finish s output.room with
    | .error e => do
      Traced.emit (Pass.failed output.room)
      pure (some (.error e))
    | .ok (s', remaining, written) => do
      Traced.emit { space := output.room, consumed := 0, written, left := some remaining }
      let output := output.write written
      if remaining = 0 then
        pure (some (.ok (s', output.content)))
      else if written.length = 0 ∧ output.filled < output.cells.length then
        pure (some (.error "zstd encoder made no progress during finish"))
      else
        finishEncoder.loop z passes s' (output.enlargeIfFull 0 outputBufSize)

def finishEncoder (z : ZstdEncoder) (passes : Nat) (s : z.State) : Traced Pass (Outcome z) :=
  finishEncoder.loop z passes s (OutBuffer.zeroed 0 outputBufSize)

end Buffered

end Reduction
