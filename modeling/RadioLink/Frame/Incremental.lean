import RadioLink.Frame.Codec
/-! An incremental decoder over a growing buffer, for callers that append bytes as they
arrive. Decoding discards rejected frames (counting them) and stops when the buffer holds no
complete frame; at the end of the input the leftover bytes are classified once. -/
namespace RadioLink
namespace Frame

structure Incremental where
  buffer : Bytes := []
  discarded : Nat := 0
  maxFrameLen : Nat := maxLength
  deriving Repr, Inhabited

namespace Incremental

def nextWith : Nat → Incremental → Except FrameError (Option RawFrame) × Incremental
  | 0, d => (.ok none, d)
  | fuel + 1, d =>
    let step := decode d.maxFrameLen d.buffer
    match step.result with
    | .pending => (.ok none, { d with buffer := step.rest })
    | .frame f => (.ok (some f), { d with buffer := step.rest })
    | .fault e =>
      if e.isRecoverable then nextWith fuel { d with buffer := step.rest, discarded := d.discarded + 1 }
      else (.error e, { d with buffer := step.rest })

/-- The next complete frame; each rejection consumes a byte, so the buffer bounds them. -/
def next (d : Incremental) : Except FrameError (Option RawFrame) × Incremental :=
  nextWith (d.buffer.length + 1) d

/-- The next frame at the end of the input, or the error that explains the bytes left over. -/
def nextAtEnd (d : Incremental) : Except FrameError (Option RawFrame) × Incremental :=
  match d.next with
  | (.ok (some f), d) => (.ok (some f), d)
  | (.error e, d) => (.error e, d)
  | (.ok none, d) =>
    if d.buffer.isEmpty then (.ok none, d)
    else match eofError d.buffer with
      | .closed => (.ok none, { d with buffer := [] })
      | e => (.error e, { d with buffer := [] })

def encodeFrame (f : RawFrame) : Except FrameError Bytes := encode f.kind f.data

end Incremental

end Frame
end RadioLink
