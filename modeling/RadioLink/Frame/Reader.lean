import RadioLink.Frame.Codec
/-! A frame reader over a byte source. The source answers each read with some bytes, a
failure, or nothing (the end of the stream). The reader keeps the bytes it has not used yet,
reads at most 256 bytes at a time, tries an interrupted read again, and counts the noise
bytes it dropped before start markers. -/
namespace RadioLink
namespace Frame

/-- What one read of the source returns. -/
inductive Delivery where
  | bytes (bs : Bytes)
  | failure (kind : IoKind)
  deriving DecidableEq, Repr, Inhabited

/-- The size of one delivery: its bytes, and one for the read itself. -/
def Delivery.size : Delivery → Nat
  | .bytes bs => bs.length + 1
  | .failure _ => 1

def readChunk : Nat := 256

/-- A reader: its source, the bytes it holds, the noise it skipped, its length limit. -/
structure Reader where
  source : List Delivery
  pending : Bytes := []
  skipped : Nat := 0
  maxFrameLen : Nat := maxLength
  deriving Repr, Inhabited

namespace Reader

/-- A size of the source that every read makes smaller. -/
def sourceSize (r : Reader) : Nat :=
  r.source.foldr (fun d n => d.size + n) 0

/-- The reader after dropping noise before the first marker. -/
def skipNoise (r : Reader) : Reader :=
  let (n, rest) := skipToStart r.pending
  { r with pending := rest, skipped := r.skipped + n }

def readWith : Nat → Reader → Except FrameError RawFrame × Reader
  | 0, r => (.error .closed, r)
  | fuel + 1, r =>
    let r := r.skipNoise
    let step := decode r.maxFrameLen r.pending
    match step.result with
    | .frame f => (.ok f, { r with pending := step.rest })
    | .fault e => (.error e, { r with pending := step.rest })
    | .pending =>
      match r.source with
      | .failure k :: rest =>
        if k.isRetried then readWith fuel { r with source := rest }
        else (.error (.stream k), { r with source := rest })
      | [] => (.error (eofError r.pending), { r with pending := [] })
      | .bytes [] :: rest => (.error (eofError r.pending), { r with source := rest, pending := [] })
      | .bytes bs :: rest =>
        if bs.length ≤ readChunk then readWith fuel { r with source := rest, pending := r.pending ++ bs }
        else
          let left := Delivery.bytes (bs.drop readChunk)
          readWith fuel { r with source := left :: rest, pending := r.pending ++ bs.take readChunk }

/-- The next frame, or the error that stopped the reader; each read shrinks the source. -/
def readFrame (r : Reader) : Except FrameError RawFrame × Reader :=
  readWith (r.sourceSize + 1) r

def buffered (r : Reader) : Nat := r.pending.length

/-- The results of `n` successive reads, each with the reader it left. -/
def reads : Nat → Reader → List (Except FrameError RawFrame × Reader)
  | 0, _ => []
  | n + 1, r =>
    let (x, r) := r.readFrame
    (x, r) :: reads n r

end Reader

end Frame
end RadioLink
