import RadioLink.Link.Peer
import RadioLink.Link.Radio
/-! A radio link with a scripted peer on its other end, driven step by step. The peer answers
each request with the replies given for it; bytes it writes are read by the link at once, so
every step sees the effects of the previous ones. Waits that need the clock compare the
timeout with the delay before the peer writes: a wait shorter than or equal to the delay ends
before anything arrives. -/
namespace RadioLink

/-- A radio link and its peer. -/
structure Session where
  radio : Radio
  peerOpen : Bool := true
  watcher : Nat := 0

structure Exchange where
  seen : PeerRead
  outcome : Except RadioError Response

namespace Session

/-- A session over a freshly opened link, with one subscriber attached. -/
def start (config : RadioConfig) (registry : Registry) : Except RadioError Session := do
  let r ← Radio.open config registry
  let (w, r) := r.subscribe
  pure { radio := r, watcher := w }

def hangup (s : Session) : Session :=
  if s.peerOpen then { s with radio := s.radio.endOfStream, peerOpen := false } else s

def writeOne (s : Session) (requestId : Option UInt8) : Reply → Session
  | .hangup => s.hangup
  | r => if s.peerOpen && !s.radio.shut then { s with radio := s.radio.ingest (r.wire requestId) } else s

/-- The session after the peer wrote its replies in order; nothing after a hang-up is written. -/
def write (s : Session) (requestId : Option UInt8) (replies : List Reply) : Session :=
  replies.foldl (fun s r => s.writeOne requestId r) s

def peerWritable (s : Session) : Bool := s.peerOpen && !s.radio.shut

def idleRead (s : Session) : PeerRead :=
  if s.peerOpen && s.radio.shut then .closed else .nothing

/-- Sends a request and waits for its response, the peer answering with `replies`. -/
def sendSync (s : Session) (req : Request) (replies : List Reply) (timeout : Duration) :
    Exchange × Session :=
  match s.radio.expect req.frameId with
  | .error e => (⟨s.idleRead, .error e⟩, s)
  | .ok r =>
    match r.send req with
    | .error e => (⟨s.idleRead, .error e⟩, { s with radio := r.dropWait })
    | .ok (f, r) =>
      let s := write { s with radio := r } (some req.frameId.value) replies
      let (outcome, r) := s.radio.conclude timeout
      (⟨.frame f, outcome⟩, { s with radio := r })

def call (s : Session) (req : Request) (replies : List Reply) (timeout : Duration) :
    Exchange × Session :=
  let (id, r) := s.radio.nextFrameId
  sendSync { s with radio := r } (req.withFrameId id) replies timeout

def send (s : Session) (req : Request) : PeerRead × Except RadioError Unit × Session :=
  match s.radio.send req with
  | .error e => (s.idleRead, .error e, s)
  | .ok (f, r) => (.frame f, .ok (), { s with radio := r })

/-- Whether a wait of `timeout` (none: without end) outlasts a delay of `delay`. -/
def outlasts (timeout : Option Duration) (delay : Duration) : Bool :=
  match timeout with
  | none => true
  | some t => delay.nanos < t.nanos

def recvWhile (s : Session) : List Reply → Option Response × Session
  | [] => (none, s)
  | r :: rest =>
    let s := s.writeOne none r
    match s.radio.tryRecv with
    | (some f, radio) => (some f, write { s with radio } none rest)
    | (none, _) => recvWhile s rest

/-- Waits for the oldest response while the peer writes after `delay`; none on timeout or close. -/
def recv (s : Session) (replies : List Reply) (delay : Duration) (timeout : Option Duration) :
    Option Response × Session :=
  match s.radio.tryRecv with
  | (some f, radio) => (some f, write { s with radio } none replies)
  | (none, _) =>
    if s.radio.backlog.closed || !outlasts timeout delay then (none, write s none replies)
    else recvWhile s replies

def collectWhile (s : Session) (stop : Response → Bool) (acc : List Response) :
    List Reply → List Response × Session
  | [] => (acc, s)
  | r :: rest =>
    let s := s.writeOne none r
    let (taken, b, hit) := s.radio.backlog.collect stop
    let s := { s with radio := { s.radio with backlog := b } }
    if hit then (acc ++ taken, write s none rest) else collectWhile s stop (acc ++ taken) rest

/-- Takes responses up to the first that `stop` accepts, waiting while the peer writes `replies`. -/
def collect (s : Session) (replies : List Reply) (delay : Duration) (timeout : Option Duration)
    (stop : Response → Bool) : List Response × Session :=
  let (taken, b, hit) := s.radio.backlog.collect stop
  let s := { s with radio := { s.radio with backlog := b } }
  if hit || s.radio.backlog.closed || !outlasts timeout delay then (taken, write s none replies)
  else collectWhile s stop taken replies

def unsolicited (s : Session) (replies : List Reply) : Bool × Session :=
  if s.peerWritable then (true, write s none replies) else (false, s)

def nextFrameId (s : Session) : FrameId × Session :=
  let (i, r) := s.radio.nextFrameId
  (i, { s with radio := r })

def close (s : Session) (sys : Except Frame.IoKind Unit) : Except RadioError Unit × Session :=
  let (res, radio) := s.radio.close sys
  (res, { s with radio })

def watched (s : Session) : List Response := s.radio.received s.watcher

end Session

end RadioLink
