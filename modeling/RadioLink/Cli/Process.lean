import RadioLink.Cli.Rig
import RadioLink.Link.Config
/-! A run of a program on a host, step by step: what it prints on each stream, the time that
passes while it waits, and the radio link it opened. A run ends with an exit status, or is
stopped when it would wait past the host's time limit; what it printed before stays. Waiting
on the link wakes the device when the device's delay ends before the wait does. -/
namespace RadioLink
namespace Cli

inductive Ending where
  | exit (code : Nat)
  | stopped
  deriving DecidableEq, Repr, Inhabited

/-- What a run left behind: how it ended, each stream's lines, and the requests the device read. -/
structure Transcript where
  ending : Ending
  stdout : List String
  stderr : List String
  deviceSaw : List Frame.RawFrame
  deriving Repr, Inhabited

structure Process where
  host : Host
  now : Duration := ⟨0⟩
  stdout : List String := []
  stderr : List String := []
  rig : Option Rig := none

/-- A step of a run. -/
abbrev Run := ExceptT Ending (StateM Process)

namespace Run

def say (lines : List String) : Run Unit :=
  modify fun p => { p with stdout := p.stdout ++ lines }

def warn (lines : List String) : Run Unit :=
  modify fun p => { p with stderr := p.stderr ++ lines }

def exit {α : Type} (code : Nat) : Run α := throw (.exit code)

def fail {α : Type} (f : Failure) : Run α := do
  warn ["error: " ++ f.message]
  exit f.code

/-- Waits until time `t`; a run that would reach the time limit is stopped there. -/
def sleepUntil (t : Duration) : Run Unit := do
  let p ← get
  if t.nanos ≥ p.host.limit.nanos then
    set { p with now := p.host.limit }
    throw .stopped
  else if t.nanos > p.now.nanos then set { p with now := t }

/-- Waits forever: the run is stopped at the time limit. -/
def hang {α : Type} : Run α := do
  sleepUntil (← get).host.limit
  throw .stopped

def rig : Run Rig := do
  match (← get).rig with
  | some r => pure r
  | none => throw (.exit exitInternal)

def setRig (r : Rig) : Run Unit := modify fun p => { p with rig := some r }

def attach (config : RadioConfig) : Run (Except RadioError Unit) := do
  match Radio.open config Registry.standard with
  | .error e => pure (.error e)
  | .ok radio =>
    setRig { radio, device := (← get).host.device }
    pure (.ok ())

/-- Lets the device wake if its delay ends before `deadline` (none: no deadline). -/
def wakeBy (deadline : Option Duration) : Run Unit := do
  let r ← rig
  let due := match deadline with
    | some d => r.device.delay.nanos < d.nanos
    | none => true
  if !r.awake && due then
    sleepUntil ⟨max (← get).now.nanos r.device.delay.nanos⟩
    setRig (← rig).wake

def send (req : Request) : Run (Except RadioError Unit) := do
  let r ← rig
  match r.radio.send req with
  | .error e => pure (.error e)
  | .ok (f, radio) =>
    setRig ({ r with radio }.transmit f)
    pure (.ok ())

/-- Sends a request under a fresh identifier and waits up to `timeout` or until the link goes down. -/
def call (req : Request) (timeout : Duration) : Run (Except RadioError Response) := do
  let r ← rig
  let (id, radio) := r.radio.nextFrameId
  let req := req.withFrameId id
  match radio.expect id with
  | .error e =>
    setRig { r with radio }
    pure (.error e)
  | .ok radio =>
    match radio.send req with
    | .error e =>
      setRig { r with radio := radio.dropWait }
      pure (.error e)
    | .ok (f, radio) =>
      setRig ({ r with radio }.transmit f)
      let deadline : Duration := ⟨(← get).now.nanos + timeout.nanos⟩
      if (← rig).radio.answer.isNone then wakeBy (some deadline)
      let r ← rig
      if r.radio.answer.isNone && r.radio.isConnected then sleepUntil deadline
      let r ← rig
      let (outcome, radio) := r.radio.conclude timeout
      setRig { r with radio }
      pure outcome

def subscribe : Run Nat := do
  let r ← rig
  let (w, radio) := r.radio.subscribe
  setRig { r with radio }
  pure w

/-- What a subscriber received so far. -/
def received (w : Nat) : Run (List Response) := do
  pure ((← rig).radio.received w)

def nextFrameId : Run FrameId := do
  let r ← rig
  let (id, radio) := r.radio.nextFrameId
  setRig { r with radio }
  pure id

/-- Runs a program to its end. -/
def transcript (host : Host) (program : Run Unit) : Transcript :=
  let (result, p) := (program.run.run { host }).run
  { ending := match result with
      | .ok () => .exit exitSuccess
      | .error e => e,
    stdout := p.stdout, stderr := p.stderr, deviceSaw := (p.rig.map (·.saw)).getD [] }

end Run

end Cli
end RadioLink
