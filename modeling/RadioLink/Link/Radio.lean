import RadioLink.Link.Backlog
import RadioLink.Link.Pending
import RadioLink.Frame.Reader
/-! A radio link as a state machine. The reader takes frames off the incoming bytes and
dispatches each response in a fixed order: it is counted, it completes the wait on its frame
identifier, the backlog keeps it if the filter accepts it, then every subscriber and every
listener gets it. When the stream ends or the link is closed, every wait is released, the
subscribers are dropped and the backlog is closed. -/
namespace RadioLink

/-- A subscription: what its channel got, whether the link holds its sender, whether it listens. -/
structure Subscription where
  frames : List Response := []
  linked : Bool := true
  listening : Bool := true
  deriving Repr

namespace Subscription

/-- The subscription after the link offered it a response: kept if listening, dropped if deaf. -/
def offer (s : Subscription) (f : Response) : Subscription :=
  if s.linked then
    if s.listening then { s with frames := s.frames ++ [f] } else { s with linked := false }
  else s

def unlink (s : Subscription) : Subscription := { s with linked := false }

end Subscription

structure Listener where
  id : Nat
  frames : List Response := []
  deriving Repr

structure Radio where
  config : RadioConfig
  registry : Registry
  state : LinkState := .connected
  ids : FrameIdAllocator := {}
  backlog : Backlog
  inbound : Bytes := []
  stats : LinkStats := {}
  pending : PendingTable := {}
  wait : Option Guard := none
  answer : Option Response := none
  subscribers : List Subscription := []
  listeners : List Listener := []
  nextListener : Nat := 1
  reading : Bool := true
  shut : Bool := false

namespace Radio

/-- A link over a fresh stream, if the settings are usable. -/
def «open» (config : RadioConfig) (registry : Registry) : Except RadioError Radio := do
  config.validate
  pure { config, registry, backlog := Backlog.new config.backlogCapacity }

def isConnected (r : Radio) : Bool := r.state == .connected

def nextFrameId (r : Radio) : FrameId × Radio :=
  let (i, ids) := r.ids.next
  (i, { r with ids })

def dispatch (r : Radio) (f : Response) : Radio :=
  let stats := { r.stats with framesReceived := r.stats.framesReceived + 1 }
  let (pending, answer) :=
    match f.frameId? with
    | some i =>
      match r.pending.take i with
      | (some g, p) => (p, if r.wait == some g then some f else r.answer)
      | (none, p) => (p, r.answer)
    | none => (r.pending, r.answer)
  let (backlog, evicted) :=
    if r.config.accepts f then
      let (out, b) := r.backlog.push f
      (b, out.isSome)
    else (r.backlog, false)
  let stats := if evicted then { stats with backlogEvictions := stats.backlogEvictions + 1 } else stats
  let subscribers := r.subscribers.map (·.offer f)
  let listeners := r.listeners.map fun l => { l with frames := l.frames ++ [f] }
  { r with stats, pending, answer, backlog, subscribers, listeners }

/-- The link after the reader read one frame; an unreadable one is dispatched undecoded and counted. -/
def receiveFrame (r : Radio) (f : Frame.RawFrame) : Radio :=
  match Response.decode r.registry f with
  | .ok resp => r.dispatch resp
  | .error e =>
    let r := { r with stats := { r.stats with decodeErrors := r.stats.decodeErrors + 1 } }
    r.dispatch (Response.undecodedOf f e)

/-- The reader's work on its bytes: noise skipped and counted, frames dispatched, faults dropped. -/
def readAll : Nat → Radio → Radio
  | 0, r => r
  | fuel + 1, r =>
    let (skipped, buf) := Frame.skipToStart r.inbound
    let r := { r with inbound := buf, stats := { r.stats with skippedBytes := r.stats.skippedBytes + skipped } }
    let step := Frame.decode Frame.maxLength buf
    match step.result with
    | .pending => r
    | .frame f =>
      let r := receiveFrame { r with inbound := step.rest } f
      readAll fuel r
    | .fault (.checksumMismatch _ _) =>
      let stats := { r.stats with checksumErrors := r.stats.checksumErrors + 1 }
      readAll fuel { r with inbound := step.rest, stats }
    | .fault _ => readAll fuel { r with inbound := step.rest }

def ingest (r : Radio) (bs : Bytes) : Radio :=
  if r.reading then
    let r := { r with inbound := r.inbound ++ bs }
    readAll (r.inbound.length + 1) r
  else r

def releaseWaiters (r : Radio) : Radio :=
  { r with pending := r.pending.clear, subscribers := r.subscribers.map Subscription.unlink,
           backlog := r.backlog.close }

/-- The link once its reader stopped: disconnected, every wait released, subscriptions ended. -/
def release (r : Radio) : Radio := { r with state := .disconnected, reading := false }.releaseWaiters

/-- The link after the other side closed the stream. -/
def endOfStream (r : Radio) : Radio := if r.reading then r.release else r

/-- What shutting the stream down reports; a stream the other side closed counts as shut down. -/
def shutdownOutcome : Except Frame.IoKind Unit → Except RadioError Unit
  | .error .notConnected => .ok ()
  | .error kind => .error (.transport kind)
  | .ok () => .ok ()

/-- Closes the link from this side; a later close finds the reader taken and returns at once. -/
def close (r : Radio) (sys : Except Frame.IoKind Unit) : Except RadioError Unit × Radio :=
  if r.shut then (.ok (), r) else (shutdownOutcome sys, { r.release with shut := true })

def countSkipped (r : Radio) (n : Nat) : Radio :=
  { r with stats := { r.stats with skippedBytes := r.stats.skippedBytes + n } }

/-- What the reader does with one read's result; `none` when the result ends the reader. -/
def afterRead (r : Radio) : Except Frame.FrameError Frame.RawFrame → Option Radio
  | .ok f => some (r.receiveFrame f)
  | .error e =>
    if e.isTimeout then some r
    else if e.isRecoverable then
      match e with
      | .checksumMismatch _ _ =>
        some { r with stats := { r.stats with checksumErrors := r.stats.checksumErrors + 1 } }
      | _ => some r
    else none

/-- The reader thread: at most `n` reads by `rd`, each counted and handled, until one ends it. -/
def readLoop : Nat → Nat → Frame.Reader → Radio → Radio × Frame.Reader
  | 0, _, rd, r => (r, rd)
  | n + 1, seen, rd, r =>
    let (x, rd) := rd.readFrame
    let r := r.countSkipped (rd.skipped - seen)
    match r.afterRead x with
    | some r => readLoop n (max seen rd.skipped) rd r
    | none => (r.release, rd)

/-- Sends a request: refused on a down link or a frame too large, written otherwise. -/
def send (r : Radio) (req : Request) : Except RadioError (Frame.RawFrame × Radio) :=
  if !r.isConnected then .error .notConnected
  else
    let f := req.toFrame
    match Frame.encode f.kind f.data with
    | .error e => .error (.frame e)
    | .ok _ => .ok (f, { r with stats := { r.stats with framesSent := r.stats.framesSent + 1 } })

def expect (r : Radio) (id : FrameId) : Except RadioError Radio :=
  if id.value = 0 then .error .noResponseFrameId
  else
    match r.pending.register r.isConnected id with
    | .error e => .error e
    | .ok (g, pending) => .ok { r with pending, wait := some g, answer := none }

/-- The link after the waiting request dropped its registration. -/
def dropWait (r : Radio) : Radio :=
  { r with pending := (r.wait.map r.pending.drop).getD r.pending, wait := none }

/-- Ends a wait with its response or failure: a timeout after `timeout`, unless the link went down. -/
def conclude (r : Radio) (timeout : Duration) : Except RadioError Response × Radio :=
  let r' := { r.dropWait with answer := none }
  match r.answer with
  | some f => (.ok f, r')
  | none => if r.isConnected then (.error (.timeout timeout), r') else (.error .notConnected, r')

/-- Adds a subscriber; one added after the link went down is never linked. The result is its number. -/
def subscribe (r : Radio) : Nat × Radio :=
  (r.subscribers.length, { r with subscribers := r.subscribers ++ [{ linked := r.isConnected }] })

/-- The link after subscriber `i` dropped its receiver; the link notices at the next frame. -/
def unsubscribe (r : Radio) (i : Nat) : Radio :=
  { r with subscribers := r.subscribers.modify i fun s => { s with listening := false } }

def received (r : Radio) (i : Nat) : List Response := ((r.subscribers[i]?).map (·.frames)).getD []

/-- Whether the link still holds the sending end of subscriber `i`'s channel. -/
def holds (r : Radio) (i : Nat) : Bool := ((r.subscribers[i]?).map (·.linked)).getD false

/-- What listener `id` got, in order; nothing once it is removed. -/
def heard (r : Radio) (id : Nat) : List Response :=
  ((r.listeners.find? (·.id == id)).map (·.frames)).getD []

def addListener (r : Radio) : Nat × Radio :=
  let listeners := r.listeners ++ [{ id := r.nextListener }]
  (r.nextListener, { r with listeners, nextListener := r.nextListener + 1 })

def removeListener (r : Radio) (id : Nat) : Bool × Radio :=
  let kept := r.listeners.filter (·.id != id)
  (kept.length != r.listeners.length, { r with listeners := kept })

def tryRecv (r : Radio) : Option Response × Radio :=
  let (f, b) := r.backlog.pop
  (f, { r with backlog := b })

def clearBacklog (r : Radio) : Nat × Radio :=
  let (n, b) := r.backlog.clear
  (n, { r with backlog := b })

def pendingRequests (r : Radio) : Nat := r.pending.size

def debugText (r : Radio) (transport : String) : String :=
  "Radio \x7b transport: " ++ Text.quoted transport ++ ", state: " ++ r.state.title ++
    ", pending: " ++ toString r.pendingRequests ++ ", backlog: " ++ r.backlog.debugText ++ " \x7d"

end Radio

end RadioLink
