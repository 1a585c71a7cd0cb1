import RadioLink.Frame.Codec
/-! A frame writer over a byte sink. The sink may take fewer bytes than offered, report that
it took none, or fail; an interrupted or not-ready write or flush is tried again. A frame is
written whole and then flushed. -/
namespace RadioLink
namespace Frame

/-- What one write call of the sink does. -/
inductive WriteOutcome where
  | accept
  | take (n : Nat)
  | refuse
  | failure (kind : IoKind)
  deriving DecidableEq, Repr, Inhabited

def IoKind.isRetriedOnWrite : IoKind → Bool
  | .interrupted | .wouldBlock => true
  | _ => false

/-- A sink: the script of its write calls, the failures of its flushes and its largest write. -/
structure Sink where
  writeScript : List WriteOutcome := []
  flushScript : List IoKind := []
  maxChunk : Nat := 0
  taken : Bytes := []
  writes : Nat := 0
  flushes : Nat := 0
  deriving Repr, Inhabited

structure Writer where
  sink : Sink
  maxFrameLen : Nat := maxLength
  framesWritten : Nat := 0
  deriving Repr, Inhabited

namespace Sink

def took (s : Sink) (bytes : Bytes) (n : Nat) : Except IoKind Nat × Sink :=
  if n = 0 then (.ok 0, s)
  else (.ok n, { s with taken := s.taken ++ bytes.take n, writes := s.writes + 1 })

def write (s : Sink) (bytes : Bytes) : Except IoKind Nat × Sink :=
  let chunk := if s.maxChunk = 0 then bytes.length else min s.maxChunk bytes.length
  match s.writeScript with
  | [] => s.took bytes chunk
  | .accept :: rest => { s with writeScript := rest }.took bytes chunk
  | .take n :: rest => { s with writeScript := rest }.took bytes (min n bytes.length)
  | .refuse :: rest => { s with writeScript := rest }.took bytes 0
  | .failure k :: rest => (.error k, { s with writeScript := rest })

/-- Offers the rest of `bytes` until all is taken; a call that takes nothing means the link is gone. -/
def writeAll : Nat → Sink → Bytes → Except FrameError Unit × Sink
  | 0, s, _ => (.error .closed, s)
  | _ + 1, s, [] => (.ok (), s)
  | fuel + 1, s, bytes@(_ :: _) =>
    match s.write bytes with
    | (.ok n, s) => if n = 0 then (.error .closed, s) else writeAll fuel s (bytes.drop n)
    | (.error k, s) =>
      if k.isRetriedOnWrite then writeAll fuel s bytes else (.error (.stream k), s)

def flushAll : List IoKind → Sink → Except FrameError Unit × Sink
  | [], s => (.ok (), { s with flushScript := [], flushes := s.flushes + 1 })
  | k :: rest, s =>
    if k.isRetriedOnWrite then flushAll rest s
    else (.error (.stream k), { s with flushScript := rest })

/-- Puts all of `bytes` on the sink and flushes; each call uses a script entry or takes a byte. -/
def writeFully (s : Sink) (bytes : Bytes) : Except FrameError Unit × Sink :=
  match writeAll (bytes.length + s.writeScript.length + 1) s bytes with
  | (.ok (), s) => flushAll s.flushScript s
  | (.error e, s) => (.error e, s)

end Sink

namespace Writer

/-- Writes one frame: refused when its length exceeds the limit, else written whole and flushed. -/
def send (w : Writer) (t : UInt8) (d : Bytes) : Except FrameError Unit × Writer :=
  let len := d.length + 1
  if len > w.maxFrameLen then (.error (.tooLarge len w.maxFrameLen), w)
  else match encode t d with
    | .error e => (.error e, w)
    | .ok bytes =>
      match w.sink.writeFully bytes with
      | (.ok (), s) => (.ok (), { w with sink := s, framesWritten := w.framesWritten + 1 })
      | (.error e, s) => (.error e, { w with sink := s })

end Writer

end Frame
end RadioLink
