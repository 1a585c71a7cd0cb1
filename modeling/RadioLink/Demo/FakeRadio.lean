import RadioLink.Demo.NodeDiscover
import RadioLink.Response.Debug
import RadioLink.Text.Lossy
/-! A program that talks to a simulated radio over a socket pair. The simulated radio first
announces that the coordinator started, then answers each command: `HV` with hardware version
`0x1A46`, `NI` with `SIMULATED`, anything else with status 2 (invalid command). The program
asks `HV`, `NI` and `CH`, prints each answer, what is left in the backlog and the link's
counters, and closes the link; the simulated radio then sees the link close. -/
namespace RadioLink
namespace Demo

open Cli

def simulatorAnswer (request : Frame.RawFrame) : Bytes :=
  match request.data with
  | id :: a :: b :: _ =>
    let head := [id, a, b]
    if [a, b] == AtCommand.hv.code then head ++ [0x00, 0x1A, 0x46]
    else if [a, b] == AtCommand.ni.code then head ++ [0x00] ++ "SIMULATED".toUTF8.toList
    else head ++ [0x02]
  | data => data

def simulatorFrame (kind : UInt8) (body : Bytes) : Bytes :=
  match Frame.encode kind body with
  | .ok w => w
  | .error _ => []

def backlogLine (r : Response) : String :=
  "[client] backlog: type 0x" ++ Bytes.byteUpper r.frameType ++
    (match r.frameId? with
     | some id => " id " ++ toString id.value.toNat
     | none => "")

/-- One command asked of the simulated radio: the lines both sides print and the link after it. -/
def askSimulator (radio : Radio) (command : AtCommand) :
    Except RadioError (List String × Radio) :=
  let (id, radio) := radio.nextFrameId
  let req : Request := .at { AtRequest.query command with frameId := id }
  match radio.expect id with
  | .error e => .error e
  | .ok radio =>
    match radio.send req with
    | .error e => .error e
    | .ok (f, radio) =>
      let heard := "[radio] " ++ Text.ofUtf8Lossy ((f.data.drop 1).take 2) ++
        " (frame id " ++ toString id.value.toNat ++ ")"
      let radio := radio.ingest (simulatorFrame 0x88 (simulatorAnswer f))
      match radio.conclude (Duration.ofSecs 2) with
      | (.error e, _) => .error e
      | (.ok (.localAt r), radio) =>
        .ok ([heard, "[client] " ++ r.command.mnemonic ++ " -> " ++ r.status.title ++ " " ++
          optionDebug CommandResponse.debugText r.response], radio)
      | (.ok other, radio) => .ok ([heard, "[client] unexpected frame: type 0x" ++
          Bytes.byteUpper other.frameType], radio)

def askAll (radio : Radio) : List AtCommand → Except RadioError (List String × Radio)
  | [] => .ok ([], radio)
  | c :: cs => do
    let (lines, radio) ← askSimulator radio c
    let (more, radio) ← askAll radio cs
    pure (lines ++ more, radio)

/-- The whole run of the program. -/
def fakeRadio : Transcript :=
  let config : RadioConfig := { readerPollInterval := Duration.ofMillis 50 }
  match Radio.open config Registry.standard with
  | .error e => ⟨.exit 1, [], ["Error: " ++ e.debugText], []⟩
  | .ok radio =>
    let radio := radio.ingest (simulatorFrame 0x8A [0x06])
    match askAll radio [.hv, .ni, .ch] with
    | .error e => ⟨.exit 1, [], ["Error: " ++ e.debugText], []⟩
    | .ok (lines, radio) =>
      let (left, backlog, _) := radio.backlog.collect fun _ => false
      let radio := { radio with backlog }
      ⟨.exit 0, [], lines ++ left.map backlogLine ++
        ["[client] stats: " ++ radio.stats.debugText, "[radio] link closed: connection closed"], []⟩

end Demo
end RadioLink
