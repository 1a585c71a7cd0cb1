import RadioLink.Duration
import RadioLink.Request
import RadioLink.Response.Frame
import RadioLink.Cli.Exit
/-! How a radio link is set up, what can go wrong with it, and what it counts. The backlog
needs room for one response and the reader must poll at some positive interval; a filter,
when present, decides which responses the backlog keeps. -/
namespace RadioLink

/-- The settings of a radio link. -/
structure RadioConfig where
  backlogCapacity : Nat := 100
  backlogFilter : Option (Response → Bool) := none
  defaultTimeout : Duration := Duration.ofSecs 5
  readerPollInterval : Duration := Duration.ofMillis 100
  readerThreadName : String := "xbee-reader"
  deriving Inhabited

/-- A failure of the radio link. -/
inductive RadioError where
  | transport (kind : Frame.IoKind)
  | frame (e : Frame.FrameError)
  | encode (e : EncodeError)
  | noResponseFrameId
  | frameIdInUse (id : FrameId)
  | timeout (d : Duration)
  | notConnected
  | invalidConfig (reason : String)
  deriving DecidableEq, Repr, Inhabited

namespace RadioError

def message : RadioError → String
  | .transport kind => "transport error: transport I/O error: " ++ kind.describe
  | .frame e => "frame error: " ++ e.message
  | .encode e => "invalid request: " ++ e.message
  | .noResponseFrameId => "frame id 0 never gets a response; allocate one before waiting"
  | .frameIdInUse id => "frame id " ++ id.display ++ " already has a pending request"
  | .timeout d => "no response within " ++ d.display
  | .notConnected => "radio is not connected"
  | .invalidConfig r => "invalid configuration: " ++ r

def name : RadioError → String
  | .transport _ => "Transport"
  | .frame _ => "Frame" | .encode _ => "Encode" | .noResponseFrameId => "NoResponseFrameId"
  | .frameIdInUse _ => "FrameIdInUse" | .timeout _ => "Timeout"
  | .notConnected => "NotConnected" | .invalidConfig _ => "InvalidConfig"

def isTimeout : RadioError → Bool
  | .timeout _ => true
  | _ => false

end RadioError

namespace RadioConfig

def validate (c : RadioConfig) : Except RadioError Unit :=
  if c.backlogCapacity = 0 then .error (.invalidConfig "backlog capacity must be > 0")
  else if c.readerPollInterval.nanos = 0 then
    .error (.invalidConfig "reader poll interval must be > 0")
  else .ok ()

/-- Whether the backlog keeps a response. -/
def accepts (c : RadioConfig) (f : Response) : Bool :=
  match c.backlogFilter with
  | some keep => keep f
  | none => true

def debugText (c : RadioConfig) : String :=
  "RadioConfig \x7b backlog_capacity: " ++ toString c.backlogCapacity ++
    ", backlog_filter: " ++ toString c.backlogFilter.isSome ++
    ", default_timeout: " ++ c.defaultTimeout.display ++
    ", reader_poll_interval: " ++ c.readerPollInterval.display ++
    ", reader_thread_name: " ++ Text.quoted c.readerThreadName ++ " \x7d"

end RadioConfig

/-- What a link counts: frames sent and received, bad checksums, unreadable frames, noise, evictions. -/
structure LinkStats where
  framesSent : Nat := 0
  framesReceived : Nat := 0
  checksumErrors : Nat := 0
  decodeErrors : Nat := 0
  skippedBytes : Nat := 0
  backlogEvictions : Nat := 0
  deriving DecidableEq, Repr, Inhabited

def LinkStats.debugText (s : LinkStats) : String :=
  "LinkStats \x7b frames_sent: " ++ toString s.framesSent ++
    ", frames_received: " ++ toString s.framesReceived ++
    ", checksum_errors: " ++ toString s.checksumErrors ++
    ", decode_errors: " ++ toString s.decodeErrors ++
    ", skipped_bytes: " ++ toString s.skippedBytes ++
    ", backlog_evictions: " ++ toString s.backlogEvictions ++ " \x7d"

inductive LinkState where
  | disconnected | connected | closing
  deriving DecidableEq, Repr, Inhabited

def LinkState.title : LinkState → String
  | .disconnected => "Disconnected" | .connected => "Connected" | .closing => "Closing"

def LinkState.name : LinkState → String
  | .disconnected => "disconnected" | .connected => "connected" | .closing => "closing"

namespace Cli

def Failure.ofEncode (context : String) (e : EncodeError) : Failure :=
  ⟨exitUsage, context ++ ": " ++ e.message⟩

def Failure.ofRadio (context : String) : RadioError → Failure
  | .transport kind => ⟨ioStatus kind, context ++ ": " ++ kind.describe⟩
  | .frame e => Failure.ofFrame context e
  | .encode e => Failure.ofEncode context e
  | e@(.timeout _) => ⟨exitTimeout, context ++ ": " ++ e.message⟩
  | .notConnected => ⟨exitTransport, context ++ ": " ++ RadioError.notConnected.message⟩
  | e => ⟨exitUsage, context ++ ": " ++ e.message⟩

end Cli

end RadioLink
