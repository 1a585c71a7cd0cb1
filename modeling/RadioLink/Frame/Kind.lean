import RadioLink.Bytes
/-! The frame types of the API-mode protocol. Each has a one-byte code, a direction (sent to
the radio, sent by it, or used both ways by older firmware), whether its body starts with a
frame ID, and a description. -/
namespace RadioLink
namespace Frame

inductive Direction where
  | transmit
  | receive
  | either
  deriving DecidableEq, Repr

def Direction.name : Direction → String
  | .transmit => "Transmit"
  | .receive => "Receive"
  | .either => "Unknown"

/-- A known frame type. -/
inductive Kind where
  | tx64Request | tx16Request | atCommand | atCommandQueue | transmitRequest
  | explicitAddressing | remoteAtCommand | createSourceRoute
  | rx64Indicator | rx16Indicator | rx64IoSample | rx16IoSample
  | atCommandResponse | txStatus | modemStatus | transmitStatus | receivePacket
  | explicitRxIndicator | ioSampleIndicator | sensorReadIndicator | nodeIdentification
  | remoteAtCommandResponse | extendedModemStatus | otaFirmwareUpdateStatus
  | routeRecordIndicator | manyToOneRouteRequest
  deriving DecidableEq, Repr, Inhabited

namespace Kind

def all : List Kind :=
  [.tx64Request, .tx16Request, .atCommand, .atCommandQueue, .transmitRequest,
   .explicitAddressing, .remoteAtCommand, .createSourceRoute,
   .rx64Indicator, .rx16Indicator, .rx64IoSample, .rx16IoSample,
   .atCommandResponse, .txStatus, .modemStatus, .transmitStatus, .receivePacket,
   .explicitRxIndicator, .ioSampleIndicator, .sensorReadIndicator, .nodeIdentification,
   .remoteAtCommandResponse, .extendedModemStatus, .otaFirmwareUpdateStatus,
   .routeRecordIndicator, .manyToOneRouteRequest]

def code : Kind → UInt8
  | .tx64Request => 0x00 | .tx16Request => 0x01 | .atCommand => 0x08
  | .atCommandQueue => 0x09 | .transmitRequest => 0x10 | .explicitAddressing => 0x11
  | .remoteAtCommand => 0x17 | .createSourceRoute => 0x21 | .rx64Indicator => 0x80
  | .rx16Indicator => 0x81 | .rx64IoSample => 0x82 | .rx16IoSample => 0x83
  | .atCommandResponse => 0x88 | .txStatus => 0x89 | .modemStatus => 0x8A
  | .transmitStatus => 0x8B | .receivePacket => 0x90 | .explicitRxIndicator => 0x91
  | .ioSampleIndicator => 0x92 | .sensorReadIndicator => 0x94
  | .nodeIdentification => 0x95 | .remoteAtCommandResponse => 0x97
  | .extendedModemStatus => 0x98 | .otaFirmwareUpdateStatus => 0xA0
  | .routeRecordIndicator => 0xA1 | .manyToOneRouteRequest => 0xA3

def name : Kind → String
  | .tx64Request => "Tx64Request" | .tx16Request => "Tx16Request"
  | .atCommand => "AtCommand" | .atCommandQueue => "AtCommandQueue"
  | .transmitRequest => "TransmitRequest" | .explicitAddressing => "ExplicitAddressing"
  | .remoteAtCommand => "RemoteAtCommand" | .createSourceRoute => "CreateSourceRoute"
  | .rx64Indicator => "Rx64Indicator" | .rx16Indicator => "Rx16Indicator"
  | .rx64IoSample => "Rx64IoSample" | .rx16IoSample => "Rx16IoSample"
  | .atCommandResponse => "AtCommandResponse" | .txStatus => "TxStatus"
  | .modemStatus => "ModemStatus" | .transmitStatus => "TransmitStatus"
  | .receivePacket => "ReceivePacket" | .explicitRxIndicator => "ExplicitRxIndicator"
  | .ioSampleIndicator => "IoSampleIndicator" | .sensorReadIndicator => "SensorReadIndicator"
  | .nodeIdentification => "NodeIdentification"
  | .remoteAtCommandResponse => "RemoteAtCommandResponse"
  | .extendedModemStatus => "ExtendedModemStatus"
  | .otaFirmwareUpdateStatus => "OtaFirmwareUpdateStatus"
  | .routeRecordIndicator => "RouteRecordIndicator"
  | .manyToOneRouteRequest => "ManyToOneRouteRequest"

def description : Kind → String
  | .tx64Request => "TX (transmit) request: 64-bit address"
  | .tx16Request => "TX (transmit) request: 16-bit address"
  | .atCommand => "AT command"
  | .atCommandQueue => "AT command - queue parameter value"
  | .transmitRequest => "Transmit request"
  | .explicitAddressing => "Explicit addressing command frame"
  | .remoteAtCommand => "Remote AT command request"
  | .createSourceRoute => "Create source route"
  | .rx64Indicator => "RX (receive) packet: 64-bit address"
  | .rx16Indicator => "RX (receive) packet: 16-bit address"
  | .rx64IoSample => "RX (receive) packet: 64-bit address IO"
  | .rx16IoSample => "RX (receive) packet: 16-bit address IO"
  | .atCommandResponse => "AT command response"
  | .txStatus => "TX (transmit) status"
  | .modemStatus => "Modem status"
  | .transmitStatus => "Transmit status"
  | .receivePacket => "Receive packet"
  | .explicitRxIndicator => "Explicit RX indicator"
  | .ioSampleIndicator => "IO data sample RX indicator"
  | .sensorReadIndicator => "XBee sensor read indicator"
  | .nodeIdentification => "Node identification indicator"
  | .remoteAtCommandResponse => "Remote command response"
  | .extendedModemStatus => "Extended modem status"
  | .otaFirmwareUpdateStatus => "Over-the-air firmware update status"
  | .routeRecordIndicator => "Route record indicator"
  | .manyToOneRouteRequest => "Many-to-one route request indicator"

def direction : Kind → Direction
  | .tx64Request | .tx16Request | .rx64Indicator | .rx16Indicator | .rx64IoSample
  | .rx16IoSample | .txStatus => .either
  | .atCommand | .atCommandQueue | .transmitRequest | .explicitAddressing
  | .remoteAtCommand | .createSourceRoute => .transmit
  | _ => .receive

/-- Whether the body of a frame of this type starts with a frame ID. -/
def hasFrameId : Kind → Bool
  | .tx64Request | .tx16Request | .atCommand | .atCommandQueue | .transmitRequest
  | .explicitAddressing | .remoteAtCommand | .createSourceRoute
  | .atCommandResponse | .txStatus | .transmitStatus | .remoteAtCommandResponse => true
  | _ => false

def ofCode? (c : UInt8) : Option Kind := all.find? fun k => k.code == c

def display (k : Kind) : String := k.description ++ " (0x" ++ Bytes.byteUpper k.code ++ ")"

def describeCode (c : UInt8) : String := ((ofCode? c).map description).getD "unknown"

end Kind

end Frame
end RadioLink
