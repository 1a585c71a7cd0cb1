import RadioLink.Cli.Execute
/-! A small program that lists the nodes in range of a radio on a serial port: it reads the
radio's discovery timeout (six seconds when the answer is no timeout), sends a discovery, and
prints every node whose answer carries the discovery's frame identifier among the frames that
arrive before the timeout runs out. Failures print `Error: ` with the failure as diagnostics
show it and exit with status 1. -/
namespace RadioLink

def RadioError.debugText : RadioError → String
  | .timeout d => "Timeout(" ++ d.display ++ ")"
  | .frameIdInUse id => "FrameIdInUse(FrameId(" ++ toString id.value.toNat ++ "))"
  | .invalidConfig r => "InvalidConfig(" ++ Text.quoted r ++ ")"
  | e => e.name

namespace Demo

open Cli Run

/-- The discovery timeout used when the radio does not tell its own. -/
def fallbackWait : Duration := Duration.ofSecs 6

def failWith {α : Type} (text : String) : Run α := do
  warn ["Error: " ++ text]
  exit 1

/-- The responses in the backlog within `wait`, those already there included; ends early on close. -/
def collectBacklog (wait : Duration) : Run (List Response) := do
  let deadline : Duration := ⟨(← get).now.nanos + wait.nanos⟩
  wakeBy (some deadline)
  let r ← rig
  let (taken, backlog, _) := r.radio.backlog.collect fun _ => false
  setRig { r with radio := { r.radio with backlog } }
  if r.radio.isConnected then sleepUntil deadline
  pure taken

def nodeLine (n : NodeDiscovery) : String :=
  n.address64.display ++ " " ++ n.address16.display ++ " " ++ n.deviceType.title ++ " \"" ++
    n.identifier ++ "\""

def discoverOn (port : String) : Run Unit := do
  match (← get).host.openPort port with
  | .error e => failWith e.debugText
  | .ok () => pure ()
  match ← attach {} with
  | .error e => failWith e.debugText
  | .ok () => pure ()
  let wait ← match ← call (.at (AtRequest.query .nt)) (Duration.ofSecs 5) with
    | .error e => failWith e.debugText
    | .ok (.localAt { response := some (.discoveryTimeout d), .. }) => pure d
    | .ok _ => pure fallbackWait
  warn ["Discovering for " ++ wait.display ++ " on " ++ port]
  let id ← nextFrameId
  match ← send (.at { AtRequest.query .nd with frameId := id }) with
  | .error e => failWith e.debugText
  | .ok () => pure ()
  let found := (← collectBacklog wait).filterMap (answerTo id)
  say (found.map nodeLine)
  warn [toString found.length ++ " node(s) answered"]

/-- The program's arguments: a port and an optional line speed, read before the port opens. -/
def nodeDiscover (args : List String) : Run Unit :=
  match args with
  | [] => failWith (Text.quoted "usage: node-discover <port> [baud]")
  | port :: rest =>
    match rest.head?.map (Args.readUnsigned (Nat.pow 2 32 - 1)) with
    | some (.error e) => failWith ("ParseIntError \x7b kind: " ++ e.kindName ++ " \x7d")
    | _ => discoverOn port

end Demo
end RadioLink
