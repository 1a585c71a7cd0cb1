import RadioLink.Cli.Process
import RadioLink.Cli.Output
import RadioLink.Cli.Value
/-! The radio tool from command line to exit status. A command line that cannot be read
prints its mistake and exits with status 2; the help and the version print and exit with 0.
Otherwise the subcommand checks its own values first, then opens the link, talks to the radio
and prints what it got; a failure prints `error: ` and its message and exits with the failure's
status. -/
namespace RadioLink
namespace Cli

open Run

def exitMisuse : Nat := 2

structure Build where
  name : String
  version : String
  target : String
  os : String
  arch : String
  gitHash : String
  radio : Bool
  serial : Bool
  async : Bool
  deriving DecidableEq, Repr, Inhabited

def Build.current : Build :=
  { name := "xbeelink", version := "0.1.0", target := "x86_64-unknown-linux-gnu", os := "linux",
    arch := "x86_64", gitHash := "unknown", radio := true, serial := true, async := false }

def Build.lines (b : Build) (extended : Bool) : List String :=
  if !extended then [b.name ++ " " ++ b.version]
  else
    ["name: " ++ b.name, "version: " ++ b.version, "target: " ++ b.target,
     "target_os: " ++ b.os, "target_arch: " ++ b.arch, "git_hash: " ++ b.gitHash,
     "features: radio=" ++ toString b.radio ++ ", serial=" ++ toString b.serial ++ ", async=" ++
       toString b.async ++ ", cli=true"]

def orFail {α : Type} : Except Failure α → Run α
  | .ok a => pure a
  | .error f => fail f

def startRadio (link : LinkOptions) : Run Unit := do
  let timeout ← orFail (parseDuration link.timeout)
  match ← attach { defaultTimeout := timeout } with
  | .error e => fail (Failure.ofRadio "radio start failed" e)
  | .ok () => pure ()

/-- Opens the link the command line names, a TCP bridge before a serial port, and starts the radio. -/
def openLink (link : LinkOptions) : Run Unit := do
  let host := (← get).host
  match link.tcp, link.port with
  | some addr, _ =>
    match host.connect addr with
    | .error e => fail ⟨exitInternal, "connect to " ++ addr ++ " failed: " ++ e.message⟩
    | .ok () => startRadio link
  | none, some port =>
    match host.openPort port with
    | .error e => fail ⟨exitTransport, "open " ++ port ++ " failed: " ++ e.message⟩
    | .ok () => startRadio link
  | none, none => fail (.usage "either --port or --tcp is required")

/-- Prints a frame with the time of printing. -/
def printFrame (format : Format) (r : Response) : Run Unit := do
  let p ← get
  say (frameLines format (toString (p.host.epoch + p.now.secs)) r)

def bytesOf (v : ValueOptions) : Run (Option Bytes) := orFail (valueBytes v.hex v.text)

/-- Asks a request and prints the response; the status follows the response. -/
def ask (format : Format) (context : String) (req : Request) (timeout : Duration) : Run Unit := do
  match ← call req timeout with
  | .error e => fail (Failure.ofRadio context e)
  | .ok resp =>
    printFrame format resp
    exit (responseExitCode resp)

def runLocal (format : Format) (link : LinkOptions) (command : AtCommand) (value : ValueOptions)
    (queued : Bool) : Run Unit := do
  let timeout ← orFail (parseDuration link.timeout)
  let req ← match ← bytesOf value with
    | some v => orFail ((AtRequest.set command v).mapError (Failure.ofEncode "invalid value"))
    | none => pure (AtRequest.query command)
  let req := if queued then { req with queued := true } else req
  openLink link
  ask format (command.mnemonic ++ " failed") (.at req) timeout

def runRemote (format : Format) (link : LinkOptions) (address : Address64) (command : AtCommand)
    (value : ValueOptions) (noApply : Bool) : Run Unit := do
  let timeout ← orFail (parseDuration link.timeout)
  let req ← match ← bytesOf value with
    | some v => orFail ((RemoteAtRequest.set address command v).mapError (Failure.ofEncode "invalid value"))
    | none => pure (RemoteAtRequest.query address command)
  let req := if noApply then { req with applyChanges := false } else req
  openLink link
  ask format (command.mnemonic ++ " on " ++ address.display ++ " failed") (.remoteAt req) timeout

def passes (types : Option (List UInt8)) (r : Response) : Bool :=
  match types with
  | none => true
  | some ts => ts.contains r.frameType

def printUntil (format : Format) (count : Option Nat) : Nat → List Response → Run Unit
  | _, [] => pure ()
  | printed, r :: rest => do
    printFrame format r
    match count with
    | some c => if printed + 1 ≥ c then exit exitSuccess else printUntil format count (printed + 1) rest
    | none => printUntil format count (printed + 1) rest

/-- Prints the radio's frames of the chosen types until enough were printed or the link closes. -/
def runListen (format : Format) (link : LinkOptions) (frameTypes : Option (List String))
    (count : Option Nat) : Run Unit := do
  let types ← match frameTypes with
    | none => pure none
    | some ts => some <$> ts.mapM fun t => orFail (parseFrameType t)
  openLink link
  let w ← subscribe
  wakeBy none
  printUntil format count 0 ((← received w).filter (passes types))
  if (← rig).radio.isConnected then hang else fail ⟨exitTransport, "link closed"⟩

def discoveryTimeout (timeout : Duration) : Run Duration := do
  match ← call (.at (AtRequest.query .nt)) timeout with
  | .error e => fail (Failure.ofRadio "NT query failed" e)
  | .ok (.localAt { response := some (.discoveryTimeout d), .. }) => pure d
  | .ok other => fail ⟨exitDataInvalid, "unexpected NT response: " ++ detail other⟩

/-- The node a response announces, if it answers the discovery with identifier `id`. -/
def answerTo (id : FrameId) : Response → Option NodeDiscovery
  | .localAt r =>
    match r.response with
    | some (.nodeDiscovery n) => if r.frameId == id then some n else none
    | _ => none
  | _ => none

/-- The end of the clock deadlines are read from: its seconds are a signed 64-bit number. -/
def clockEnd : Duration := ⟨9223372036854775808 * Duration.nanosPerSec⟩

/-- The time `wait` after `now`, if the clock reaches it. -/
def deadlineAfter (now wait : Duration) : Option Duration :=
  if now.nanos + wait.nanos < clockEnd.nanos then some ⟨now.nanos + wait.nanos⟩ else none

/-- The receive loop over responses arriving at the given times on a channel closed at `closesAt`:
the nodes, and when it returns (`none`: never). -/
def collectLoop (id : FrameId) (closesAt deadline : Option Duration) (nodes : List NodeDiscovery)
    (now : Duration) : List (Duration × Response) → Option (List NodeDiscovery × Duration)
  | [] =>
    match deadline with
    | some d =>
      if d.nanos ≤ now.nanos then some (nodes, now)
      else
        match closesAt with
        | some c => if c.nanos < d.nanos then some (nodes, ⟨max now.nanos c.nanos⟩) else some (nodes, d)
        | none => some (nodes, d)
    | none => closesAt.map fun c => (nodes, ⟨max now.nanos c.nanos⟩)
  | (t, r) :: rest =>
    let next := collectLoop id closesAt deadline (nodes ++ (answerTo id r).toList)
      ⟨max now.nanos t.nanos⟩ rest
    match deadline with
    | some d =>
      if d.nanos ≤ now.nanos then some (nodes, now)
      else if t.nanos < d.nanos then next
      else some (nodes, d)
    | none => next

/-- Returns the nodes when the receive loop returned; after one that never returns, waits forever. -/
def returnAt : Option (List NodeDiscovery × Duration) → Run (List NodeDiscovery)
  | some (nodes, t) => do
    sleepUntil t
    pure nodes
  | none => hang

/-- The nodes answering discovery `id` on subscription `w` within `wait`, taken by the receive loop. -/
def collectNodes (w : Nat) (id : FrameId) (wait : Duration) : Run (List NodeDiscovery) := do
  let start := (← get).now
  let deadline := deadlineAfter start wait
  let held ← received w
  let openAtStart := (← rig).radio.holds w
  if openAtStart && deadline.all (start.nanos < ·.nanos) then wakeBy deadline
  let woke := (← get).now
  let later := (← received w).drop held.length
  let openAfter := (← rig).radio.holds w
  let closesAt := if !openAtStart then some start else if openAfter then none else some woke
  returnAt (collectLoop id closesAt deadline [] start (held.map (start, ·) ++ later.map (woke, ·)))

/-- Lists the nodes that answer a network discovery. -/
def runDiscover (format : Format) (link : LinkOptions) (wait : Option String) : Run Unit := do
  let timeout ← orFail (parseDuration link.timeout)
  openLink link
  let wait ← match wait with
    | some w => orFail (parseDuration w)
    | none => discoveryTimeout timeout
  let w ← subscribe
  let id ← nextFrameId
  match ← send (.at { AtRequest.query .nd with frameId := id }) with
  | .error e => fail (Failure.ofRadio "ND failed" e)
  | .ok () => pure ()
  say (nodeLines format (← collectNodes w id wait))

def CommandLine.run (c : CommandLine) : Run Unit :=
  let format := c.format.getD .json
  match c.invocation with
  | .listen link types count => runListen format link types count
  | .localAt link command value queued => runLocal format link command value queued
  | .remoteAt link address command value noApply => runRemote format link address command value noApply
  | .discover link wait => runDiscover format link wait
  | .version extended => say (Build.current.lines extended)

/-- The tool run on a host with a command line, from start to exit. -/
def execute (host : Host) (words : List String) : Transcript :=
  Run.transcript host <|
    match program.parse words with
    | .ok parsed => (CommandLine.ofParsed parsed).run
    | .error (.help c false) => do say c.help; exit exitSuccess
    | .error (.help c true) => do warn c.help; exit exitMisuse
    | .error .version => do say [program.versionLine]; exit exitSuccess
    | .error (.fail d) => do warn d.lines; exit exitMisuse

end Cli
end RadioLink
