import RadioLink.Link.Pending
/-! Synchronous sends by any number of callers, run concurrently with the reader and the
shutdown. A caller registers a wait under its frame identifier, writes its request, waits on
its reply channel and drops its registration as it returns; the reader hands each frame to the
wait registered under its identifier. Every interleaving of the steps is a run. -/
namespace RadioLink
namespace SyncSend

/-- The reply channel of one wait; it holds at most one frame. -/
inductive Slot where
  | unused
  | open
  | filled (k : Nat) (f : Response)
  | closed
  deriving DecidableEq, Repr

/-- Where a caller is in its synchronous send. -/
inductive Phase where
  | ready
  | registered
  | waiting
  | leaving (out : Except RadioError Response)
  | done (out : Except RadioError Response)

structure Caller where
  id : FrameId
  /-- How long it waits; zero waits without a deadline. -/
  timeout : Duration
  phase : Phase := .ready
  ticket : Option Guard := none
  slot : Slot := .unused
  since : Nat := 0

/-- The caller whose wait is `g` gets the frame `f`, the `k`-th dispatched. -/
def Caller.deliver (g : Guard) (k : Nat) (f : Response) (x : Caller) : Caller :=
  if x.ticket = some g then { x with slot := .filled k f } else x

/-- The channel of a caller whose wait is in table `t` closes. -/
def Caller.release (t : PendingTable) (x : Caller) : Caller :=
  match x.ticket with
  | some g => if g ∈ t.entries then { x with slot := .closed } else x
  | none => x

/-- The shared state of a link with `n` callers. -/
structure World (n : Nat) where
  state : LinkState := .connected
  pending : PendingTable := {}
  callers : Fin n → Caller
  dispatched : List Response := []

/-- One step of a run. -/
inductive Event (n : Nat) where
  | register (c : Fin n)
  | send (c : Fin n) (failure : Option RadioError)
  | receive (c : Fin n)
  | expire (c : Fin n)
  | leave (c : Fin n)
  | dispatch (f : Response)
  | setState (s : LinkState)
  | release

namespace World

variable {n : Nat}

def setCaller (w : World n) (c : Fin n) (x : Caller) : World n :=
  { w with callers := fun d => if d = c then x else w.callers d }

/-- Caller `c` registers under the table's lock, refused on a down link or an unusable identifier. -/
def register (w : World n) (c : Fin n) : World n :=
  let x := w.callers c
  match x.phase with
  | .ready =>
    if !x.id.expectsResponse then w.setCaller c { x with phase := .done (.error .noResponseFrameId) }
    else
      match w.pending.register (w.state == .connected) x.id with
      | .error e => w.setCaller c { x with phase := .done (.error e) }
      | .ok (g, p) =>
        { w.setCaller c { x with phase := .registered, ticket := some g, slot := .open,
                                 since := w.dispatched.length } with pending := p }
  | _ => w

def send (w : World n) (c : Fin n) (failure : Option RadioError) : World n :=
  let x := w.callers c
  match x.phase with
  | .registered =>
    if w.state != .connected then w.setCaller c { x with phase := .leaving (.error .notConnected) }
    else
      match failure with
      | some e => w.setCaller c { x with phase := .leaving (.error e) }
      | none => w.setCaller c { x with phase := .waiting }
  | _ => w

def receive (w : World n) (c : Fin n) : World n :=
  let x := w.callers c
  match x.phase, x.slot with
  | .waiting, .filled _ f => w.setCaller c { x with phase := .leaving (.ok f) }
  | .waiting, .closed => w.setCaller c { x with phase := .leaving (.error .notConnected) }
  | _, _ => w

def expire (w : World n) (c : Fin n) : World n :=
  let x := w.callers c
  match x.phase, x.slot with
  | .waiting, .open =>
    if x.timeout.nanos = 0 then w
    else w.setCaller c { x with phase := .leaving (.error (.timeout x.timeout)) }
  | _, _ => w

/-- Caller `c` drops its registration and returns; the entry goes only if it carries its token. -/
def leave (w : World n) (c : Fin n) : World n :=
  let x := w.callers c
  match x.phase, x.ticket with
  | .leaving out, some g =>
    let slot := if w.pending.tokenOf g.id = some g.token then .closed else x.slot
    { w.setCaller c { x with phase := .done out, slot } with pending := w.pending.drop g }
  | .leaving out, none => w.setCaller c { x with phase := .done out }
  | _, _ => w

/-- The reader dispatches `f` to the wait registered under its frame identifier, if any. -/
def dispatch (w : World n) (f : Response) : World n :=
  let w' := { w with dispatched := w.dispatched ++ [f] }
  match f.frameId? with
  | some i =>
    match w.pending.take i with
    | (some g, p) =>
      { w' with pending := p, callers := fun c => (w.callers c).deliver g w.dispatched.length f }
    | (none, _) => w'
  | none => w'

/-- Every wait is released: the table is emptied and the channel of every wait in it closes. -/
def release (w : World n) : World n :=
  { w with pending := w.pending.clear, callers := fun c => (w.callers c).release w.pending }

def step (w : World n) : Event n → World n
  | .register c => w.register c
  | .send c failure => w.send c failure
  | .receive c => w.receive c
  | .expire c => w.expire c
  | .leave c => w.leave c
  | .dispatch f => w.dispatch f
  | .setState s => { w with state := s }
  | .release => w.release

def run (w : World n) (evs : List (Event n)) : World n := evs.foldl step w

def start (calls : Fin n → FrameId × Duration) : World n :=
  { callers := fun c => { id := (calls c).1, timeout := (calls c).2 } }

def pendingRequests (w : World n) : Nat := w.pending.size

end World

end SyncSend
end RadioLink
