import RadioLink.Json
import RadioLink.Response.Frame
/-! Responses as JSON. A response is an object tagged by `frame` with its fields beside the
tag; a command value is `kind` and `value`; addresses are their display text; durations are
whole seconds and nanoseconds; byte strings are arrays of numbers. -/
namespace RadioLink

namespace Json

def bytes (bs : Bytes) : Json := .arr (bs.map fun b => .nat b.toNat)

def byte (b : UInt8) : Json := .nat b.toNat

end Json

def Duration.toJson (d : Duration) : Json :=
  .obj [("secs", .nat d.secs), ("nanos", .nat d.subsecNanos)]

def Address64.toJson (a : Address64) : Json := .str a.display

def Address16.toJson (a : Address16) : Json := .str a.display

/-- A modem status: a named event's name, else its code under `stack_error` or `other`. -/
def ModemStatus.toJson (s : ModemStatus) : Json :=
  match s, s.name? with
  | _, some n => .str n
  | .stackError c, none => .obj [("stack_error", Json.byte c)]
  | .other c, none => .obj [("other", Json.byte c)]
  | _, none => .null

def NodeDiscovery.toJson (n : NodeDiscovery) : Json :=
  .obj [("address16", n.address16.toJson), ("address64", n.address64.toJson),
    ("identifier", .str n.identifier), ("parent", n.parent.toJson),
    ("device_type", .str n.deviceType.name), ("status", Json.byte n.status),
    ("profile_id", .nat n.profileId.toNat), ("manufacturer_id", .nat n.manufacturerId.toNat)]

namespace CommandResponse

def kindName : CommandResponse → String
  | .associationStatus _ => "association_status" | .apiMode _ => "api_mode"
  | .channel _ => "channel" | .signalStrength _ => "signal_strength"
  | .encryptionEnabled _ => "encryption_enabled" | .joinTime _ => "join_time"
  | .childrenRemaining _ => "children_remaining" | .scanDuration _ => "scan_duration"
  | .pinConfiguration _ => "pin_configuration" | .hardwareVersion _ => "hardware_version"
  | .firmwareVersion _ => "firmware_version" | .networkAddress _ => "network_address"
  | .panId _ => "pan_id" | .maxPayload _ => "max_payload" | .sampleRate _ => "sample_rate"
  | .discoveryTimeout _ => "discovery_timeout" | .supplyVoltage _ => "supply_voltage"
  | .deviceTypeId _ => "device_type_id" | .serialHigh _ => "serial_high"
  | .serialLow _ => "serial_low" | .extendedPanId _ => "extended_pan_id"
  | .operatingPanId _ => "operating_pan_id" | .nodeIdentifier _ => "node_identifier"
  | .nodeDiscovery _ => "node_discovery" | .raw _ => "raw"

def valueJson : CommandResponse → Json
  | .associationStatus v | .apiMode v | .channel v | .signalStrength v | .joinTime v
  | .childrenRemaining v | .scanDuration v | .pinConfiguration v => Json.byte v
  | .encryptionEnabled b => .bool b
  | .hardwareVersion h => .nat h.value.toNat
  | .firmwareVersion v | .panId v | .maxPayload v | .supplyVoltage v => .nat v.toNat
  | .networkAddress a => a.toJson
  | .sampleRate d | .discoveryTimeout d => d.toJson
  | .deviceTypeId v | .serialHigh v | .serialLow v => .nat v.toNat
  | .extendedPanId v | .operatingPanId v => .nat v.toNat
  | .nodeIdentifier s => .str s
  | .nodeDiscovery n => n.toJson
  | .raw bs => Json.bytes bs

def toJson (r : CommandResponse) : Json := .obj [("kind", .str r.kindName), ("value", r.valueJson)]

end CommandResponse

namespace Response

def tag : Response → String
  | .localAt _ => "local_at" | .remoteAt _ => "remote_at" | .modemStatus _ => "modem_status"
  | .transmitStatus _ => "transmit_status" | .receive _ => "receive"
  | .ioSample _ => "io_sample" | .nodeIdentification _ => "node_identification"
  | .undecoded _ _ _ => "undecoded"

def fields : Response → List (String × Json)
  | .localAt r =>
    [("frame_id", Json.byte r.frameId.value), ("command", .str r.command.mnemonic),
     ("status", .str r.status.name), ("response", Json.opt CommandResponse.toJson r.response)]
  | .remoteAt r =>
    [("frame_id", Json.byte r.frameId.value), ("source64", r.source64.toJson),
     ("source16", r.source16.toJson), ("command", .str r.command.mnemonic),
     ("status", .str r.status.name), ("response", Json.opt CommandResponse.toJson r.response)]
  | .modemStatus s => [("status", s.toJson)]
  | .transmitStatus s =>
    [("frame_id", Json.byte s.frameId.value), ("destination16", s.destination16.toJson),
     ("retry_count", Json.byte s.retryCount), ("delivery_status", Json.byte s.deliveryStatus),
     ("discovery_status", Json.byte s.discoveryStatus)]
  | .receive p =>
    [("source64", p.source64.toJson), ("source16", p.source16.toJson),
     ("options", Json.byte p.options), ("data", Json.bytes p.data)]
  | .ioSample s =>
    [("source64", s.source64.toJson), ("source16", s.source16.toJson),
     ("options", Json.byte s.options), ("sample_count", Json.byte s.sampleCount),
     ("digital_mask", .nat s.digitalMask.toNat), ("analog_mask", Json.byte s.analogMask),
     ("digital_samples", Json.opt (fun v => .nat v.toNat) s.digitalSamples),
     ("analog_samples", .arr (s.analogSamples.map fun a =>
        .obj [("channel", Json.byte a.channel), ("value", .nat a.value.toNat)]))]
  | .nodeIdentification n =>
    [("source64", n.source64.toJson), ("source16", n.source16.toJson),
     ("options", Json.byte n.options), ("remote16", n.remote16.toJson),
     ("remote64", n.remote64.toJson), ("identifier", .str n.identifier),
     ("parent", n.parent.toJson), ("device_type", .str n.deviceType.name),
     ("source_event", Json.byte n.sourceEvent), ("profile_id", .nat n.profileId.toNat),
     ("manufacturer_id", .nat n.manufacturerId.toNat)]
  | .undecoded t data e =>
    [("frame_type", Json.byte t), ("data", Json.bytes data), ("error", .str e.message)]

def toJson (r : Response) : Json := .obj (("frame", .str r.tag) :: r.fields)

end Response

end RadioLink
