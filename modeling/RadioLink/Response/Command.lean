import RadioLink.Duration
import RadioLink.Hardware
import RadioLink.Status
import RadioLink.Response.Fields
/-! The values that command responses carry. A response names the setting it reports; its
payload is read by the decoder registered for the command, so one payload can mean a
channel, a hardware version, an address or a node of the network. -/
namespace RadioLink

/-- A node that answered a network discovery. -/
structure NodeDiscovery where
  address16 : Address16
  address64 : Address64
  identifier : String
  parent : Address16
  deviceType : DeviceType
  status : UInt8
  profileId : UInt16
  manufacturerId : UInt16
  deriving DecidableEq, Repr, Inhabited

/-- The value a command response reports. -/
inductive CommandResponse where
  | associationStatus (v : UInt8)
  | apiMode (v : UInt8)
  | channel (v : UInt8)
  | signalStrength (v : UInt8)
  | encryptionEnabled (on : Bool)
  | joinTime (v : UInt8)
  | childrenRemaining (v : UInt8)
  | scanDuration (v : UInt8)
  | pinConfiguration (v : UInt8)
  | hardwareVersion (v : HardwareVersion)
  | firmwareVersion (v : UInt16)
  | networkAddress (a : Address16)
  | panId (v : UInt16)
  | maxPayload (v : UInt16)
  | sampleRate (d : Duration)
  | discoveryTimeout (d : Duration)
  | supplyVoltage (v : UInt16)
  | deviceTypeId (v : UInt32)
  | serialHigh (v : UInt32)
  | serialLow (v : UInt32)
  | extendedPanId (v : UInt64)
  | operatingPanId (v : UInt64)
  | nodeIdentifier (s : String)
  | nodeDiscovery (n : NodeDiscovery)
  | raw (bs : Bytes)
  deriving DecidableEq, Repr, Inhabited

/-- The text of a node identifier: printable ASCII bytes stand for themselves, others for `?`. -/
def identifierText (raw : Bytes) : String :=
  String.ofList (raw.map fun b => if 32 ≤ b && b ≤ 126 then Char.ofNat b.toNat else '?')

namespace NodeDiscovery

/-- Reads a discovered node: both addresses, the identifier up to its NUL, then the fixed tail. -/
def read : FieldReader NodeDiscovery := do
  let address16 ← FieldReader.address16 "network address"
  let address64 ← FieldReader.address64 "extended address"
  let identifier := identifierText (← FieldReader.cString)
  let parent ← FieldReader.address16 "parent address"
  let code ← FieldReader.byte "device type"
  let deviceType ← match DeviceType.ofCode? code with
    | some t => pure t
    | none => throw (.unknownDeviceType code)
  let status ← FieldReader.byte "status"
  let profileId ← FieldReader.word "profile id"
  let manufacturerId ← FieldReader.word "manufacturer id"
  pure { address16, address64, identifier, parent, deviceType, status, profileId,
         manufacturerId }

end NodeDiscovery

namespace CommandResponse

def readIdentifier (payload : Bytes) : Except DecodeError CommandResponse :=
  .ok (.nodeIdentifier (identifierText (payload.takeWhile (· != 0))))

def readDiscovery (payload : Bytes) : Except DecodeError CommandResponse :=
  (NodeDiscovery.read.run payload).map fun r => .nodeDiscovery r.1

end CommandResponse

end RadioLink
