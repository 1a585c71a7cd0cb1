import RadioLink.Response.Json
import RadioLink.Text.Quoted
/-! Command values as diagnostics show them: the kind of value in CamelCase with the value in
parentheses, records as their type name with fields in braces, text quoted, and byte strings
as lists of numbers. -/
namespace RadioLink

/-- A snake_case name in CamelCase. -/
def camelCase (s : String) : String :=
  String.join ((s.splitOn "_").map fun w =>
    match w.toList with
    | c :: rest => String.ofList (c.toUpper :: rest)
    | [] => "")

def numberList (ns : List Nat) : String := "[" ++ ", ".intercalate (ns.map toString) ++ "]"

def Address16.debugText (a : Address16) : String := "Address16(" ++ toString a.value.toNat ++ ")"

def Address64.debugText (a : Address64) : String := "Address64(" ++ toString a.value.toNat ++ ")"

def NodeDiscovery.debugText (n : NodeDiscovery) : String :=
  "NodeDiscovery \x7b address16: " ++ n.address16.debugText ++ ", address64: " ++
    n.address64.debugText ++ ", identifier: " ++ Text.quoted n.identifier ++ ", parent: " ++
    n.parent.debugText ++ ", device_type: " ++ n.deviceType.title ++ ", status: " ++
    toString n.status.toNat ++ ", profile_id: " ++ toString n.profileId.toNat ++
    ", manufacturer_id: " ++ toString n.manufacturerId.toNat ++ " \x7d"

namespace CommandResponse

def innerDebug : CommandResponse → String
  | .associationStatus v | .apiMode v | .channel v | .signalStrength v | .joinTime v
  | .childrenRemaining v | .scanDuration v | .pinConfiguration v => toString v.toNat
  | .encryptionEnabled b => toString b
  | .hardwareVersion v => "HardwareVersion(" ++ toString v.value.toNat ++ ")"
  | .firmwareVersion v | .panId v | .maxPayload v | .supplyVoltage v => toString v.toNat
  | .networkAddress a => a.debugText
  | .sampleRate d | .discoveryTimeout d => d.display
  | .deviceTypeId v | .serialHigh v | .serialLow v => toString v.toNat
  | .extendedPanId v | .operatingPanId v => toString v.toNat
  | .nodeIdentifier s => Text.quoted s
  | .nodeDiscovery n => n.debugText
  | .raw bs => numberList (bs.map (·.toNat))

def debugText (r : CommandResponse) : String := camelCase r.kindName ++ "(" ++ r.innerDebug ++ ")"

end CommandResponse

def optionDebug {α : Type} (f : α → String) : Option α → String
  | some a => "Some(" ++ f a ++ ")"
  | none => "None"

end RadioLink
