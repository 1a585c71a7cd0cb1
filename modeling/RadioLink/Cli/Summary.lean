import RadioLink.Cli.Exit
import RadioLink.Response.Json
/-! One-line summaries of responses, as the command line prints them, and the exit status a
response earns: a command that the radio refused exits with a failure, a frame that could
not be read exits as invalid data. -/
namespace RadioLink
namespace Cli

def hex (bs : Bytes) : String := Bytes.spaced bs

def frameTypeName (code : UInt8) : String := Frame.Kind.describeCode code

def frameIdText : Option FrameId → String
  | some i => i.display
  | none => "-"

/-- A command value's text: addresses as shown, identifiers quoted, raw bytes in hex, else JSON. -/
def responseText : Option CommandResponse → String
  | none => ""
  | some (.hardwareVersion v) => v.display
  | some (.networkAddress a) => a.display
  | some (.nodeIdentifier s) => Text.quoted s
  | some (.nodeDiscovery n) =>
    n.address64.display ++ " " ++ n.address16.display ++ " NI=" ++ Text.quoted n.identifier
  | some (.raw bs) => hex bs
  | some other => other.valueJson.sortKeys.render

def detail : Response → String
  | .localAt r => r.command.mnemonic ++ " " ++ r.status.title ++ " " ++ responseText r.response
  | .remoteAt r =>
    r.command.mnemonic ++ " from " ++ r.source64.display ++ " " ++ r.status.title ++ " " ++
      responseText r.response
  | .modemStatus s => s.title
  | .transmitStatus s =>
    "to " ++ s.destination16.display ++ " retries=" ++ toString s.retryCount.toNat ++
      " delivery=0x" ++ Bytes.byteUpper s.deliveryStatus ++ " discovery=0x" ++
      Bytes.byteUpper s.discoveryStatus
  | .receive p =>
    "from " ++ p.source64.display ++ " (" ++ p.source16.display ++ ") " ++
      toString p.data.length ++ " bytes: " ++ hex p.data
  | .ioSample s =>
    let digital := s.digitalPins.filterMap fun pin =>
      (s.digital pin).map fun high => "DIO" ++ toString pin ++ "=" ++ (if high then "1" else "0")
    let analog := s.analogSamples.map fun a =>
      "AD" ++ toString a.channel.toNat ++ "=" ++ toString a.value.toNat
    "from " ++ s.source64.display ++ " " ++ " ".intercalate digital ++ " " ++
      " ".intercalate analog
  | .nodeIdentification n =>
    n.remote64.display ++ " " ++ n.remote16.display ++ " NI=" ++ Text.quoted n.identifier ++
      " " ++ n.deviceType.title
  | .undecoded _ data e => e.message ++ ": " ++ hex data

/-- The exit status a response earns. -/
def responseExitCode : Response → Nat
  | .localAt r => if r.status.isOk then exitSuccess else exitFailure
  | .remoteAt r => if r.status.isOk then exitSuccess else exitFailure
  | .undecoded .. => exitDataInvalid
  | _ => exitSuccess

end Cli
end RadioLink
