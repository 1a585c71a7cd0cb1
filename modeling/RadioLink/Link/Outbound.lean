import RadioLink.Link.Config
import RadioLink.Request
import RadioLink.Frame.Writer
/-! Sends by any number of callers sharing one link, run concurrently. Under the writer lock
the writer refuses a frame too large for the length field, or puts its wire form in a scratch
buffer and offers the rest of it to the stream until all is taken, then flushes. Each stream
call and each lock operation is one step, so every interleaving of steps is a run. -/
namespace RadioLink
namespace Outbound

inductive WriteResult where
  | took (k : Nat)
  | failed (kind : Frame.IoKind)
  deriving DecidableEq, Repr

/-- Where a caller is in its send. -/
inductive Phase where
  | ready
  | queued
  | writing (offset : Nat)
  | flushing
  | unlocking (res : Except Frame.FrameError Unit)
  | counting
  | done (out : Except RadioError Unit)
  deriving Repr

/-- The shared state of a link with `n` callers, each sending one request. -/
structure World (n : Nat) where
  state : LinkState := .connected
  requests : Fin n → Request
  phases : Fin n → Phase := fun _ => .ready
  holder : Option (Fin n) := none
  scratch : Bytes := []
  wire : Bytes := []
  framesSent : Nat := 0
  takers : List (Fin n) := []

/-- One step of a run. -/
inductive Event (n : Nat) where
  | check (c : Fin n)
  | acquire (c : Fin n)
  | write (c : Fin n) (r : WriteResult)
  | flush (c : Fin n) (failure : Option Frame.IoKind)
  | release (c : Fin n)
  | count (c : Fin n)
  | setState (s : LinkState)
  deriving DecidableEq, Repr

def afterWrite (bytes : Bytes) (offset : Nat) : Phase :=
  if bytes.length ≤ offset then .flushing else .writing offset

namespace World

variable {n : Nat}

def setPhase (w : World n) (c : Fin n) (p : Phase) : World n :=
  { w with phases := fun d => if d = c then p else w.phases d }

/-- The wire form of caller `c`'s request, or why it cannot be written. -/
def encoded (w : World n) (c : Fin n) : Except Frame.FrameError Bytes :=
  let f := (w.requests c).toFrame
  Frame.encode f.kind f.data

/-- Caller `c` checks the link state; on a link that is down it returns at once. -/
def check (w : World n) (c : Fin n) : World n :=
  match w.phases c with
  | .ready => w.setPhase c (if w.state = .connected then .queued else .done (.error .notConnected))
  | _ => w

/-- Caller `c` takes a free writer lock; a refused frame leaves the scratch buffer as it was. -/
def acquire (w : World n) (c : Fin n) : World n :=
  match w.phases c, w.holder with
  | .queued, none =>
    let w' := { w with holder := some c, takers := w.takers ++ [c] }
    match w.encoded c with
    | .error e => w'.setPhase c (.unlocking (.error e))
    | .ok bytes => { w'.setPhase c (afterWrite bytes 0) with scratch := bytes }
  | _, _ => w

/-- One write call offering the rest of the scratch buffer; taking nothing ends the send. -/
def write (w : World n) (c : Fin n) (r : WriteResult) : World n :=
  match w.phases c, r with
  | .writing _, .took 0 => w.setPhase c (.unlocking (.error .closed))
  | .writing offset, .took (k + 1) =>
    { w.setPhase c (afterWrite w.scratch (offset + k + 1)) with
      wire := w.wire ++ (w.scratch.drop offset).take (k + 1) }
  | .writing _, .failed kind =>
    if kind.isRetriedOnWrite then w else w.setPhase c (.unlocking (.error (.stream kind)))
  | _, _ => w

def flush (w : World n) (c : Fin n) (failure : Option Frame.IoKind) : World n :=
  match w.phases c, failure with
  | .flushing, none => w.setPhase c (.unlocking (.ok ()))
  | .flushing, some kind =>
    if kind.isRetriedOnWrite then w else w.setPhase c (.unlocking (.error (.stream kind)))
  | _, _ => w

def release (w : World n) (c : Fin n) : World n :=
  match w.phases c with
  | .unlocking (.ok ()) => { w.setPhase c .counting with holder := none }
  | .unlocking (.error e) => { w.setPhase c (.done (.error (.frame e))) with holder := none }
  | _ => w

def count (w : World n) (c : Fin n) : World n :=
  match w.phases c with
  | .counting => { w.setPhase c (.done (.ok ())) with framesSent := w.framesSent + 1 }
  | _ => w

def step (w : World n) : Event n → World n
  | .check c => w.check c
  | .acquire c => w.acquire c
  | .write c r => w.write c r
  | .flush c failure => w.flush c failure
  | .release c => w.release c
  | .count c => w.count c
  | .setState s => { w with state := s }

/-- The world after the steps `evs`, in order. -/
def run (w : World n) (evs : List (Event n)) : World n := evs.foldl step w

def start (requests : Fin n → Request) : World n := { requests }

end World

end Outbound
end RadioLink
