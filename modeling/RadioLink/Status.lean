import RadioLink.Frame.Kind
/-! The status and type codes that responses carry: how a command went, what role a radio
plays in its network, and what the modem reports about itself. -/
namespace RadioLink

/-- How a local or remote command went. -/
inductive CommandStatus where
  | ok | error | invalidCommand | invalidParameter
  | transmissionFailure | noSecureSession | encryptionError | sentInsecurely
  deriving DecidableEq, Repr, Inhabited

namespace CommandStatus

def code : CommandStatus → UInt8
  | .ok => 0x00 | .error => 0x01 | .invalidCommand => 0x02 | .invalidParameter => 0x03
  | .transmissionFailure => 0x04 | .noSecureSession => 0x0B | .encryptionError => 0x0C
  | .sentInsecurely => 0x0D

def name : CommandStatus → String
  | .ok => "ok" | .error => "error" | .invalidCommand => "invalid_command"
  | .invalidParameter => "invalid_parameter" | .transmissionFailure => "transmission_failure"
  | .noSecureSession => "no_secure_session" | .encryptionError => "encryption_error"
  | .sentInsecurely => "sent_insecurely"

def title : CommandStatus → String
  | .ok => "Ok" | .error => "Error" | .invalidCommand => "InvalidCommand"
  | .invalidParameter => "InvalidParameter" | .transmissionFailure => "TransmissionFailure"
  | .noSecureSession => "NoSecureSession" | .encryptionError => "EncryptionError"
  | .sentInsecurely => "SentInsecurely"

def isOk (s : CommandStatus) : Bool := s == .ok

def local? : UInt8 → Option CommandStatus
  | 0x00 => some .ok
  | 0x01 => some .error
  | 0x02 => some .invalidCommand
  | 0x03 => some .invalidParameter
  | _ => none

def remote? : UInt8 → Option CommandStatus
  | 0x04 => some .transmissionFailure
  | 0x0B => some .noSecureSession
  | 0x0C => some .encryptionError
  | 0x0D => some .sentInsecurely
  | c => local? c

end CommandStatus

inductive DeviceType where
  | coordinator | router | endDevice
  deriving DecidableEq, Repr, Inhabited

namespace DeviceType

def code : DeviceType → UInt8
  | .coordinator => 0 | .router => 1 | .endDevice => 2

def name : DeviceType → String
  | .coordinator => "coordinator" | .router => "router" | .endDevice => "end_device"

def title : DeviceType → String
  | .coordinator => "Coordinator" | .router => "Router" | .endDevice => "EndDevice"

def ofCode? : UInt8 → Option DeviceType
  | 0 => some .coordinator
  | 1 => some .router
  | 2 => some .endDevice
  | _ => none

end DeviceType

/-- What a modem reports about itself; codes from `0x80` up are stack errors. -/
inductive ModemStatus where
  | hardwareReset | watchdogTimerReset | associated | disassociated | synchronizationLost
  | coordinatorRealignment | coordinatorStarted | networkSecurityKeyUpdated
  | voltageSupplyExceeded | modemConfigChanged
  | stackError (code : UInt8)
  | other (code : UInt8)
  deriving DecidableEq, Repr, Inhabited

namespace ModemStatus

def ofCode (c : UInt8) : ModemStatus :=
  match c with
  | 0x00 => .hardwareReset
  | 0x01 => .watchdogTimerReset
  | 0x02 => .associated
  | 0x03 => .disassociated
  | 0x04 => .synchronizationLost
  | 0x05 => .coordinatorRealignment
  | 0x06 => .coordinatorStarted
  | 0x07 => .networkSecurityKeyUpdated
  | 0x0D => .voltageSupplyExceeded
  | 0x11 => .modemConfigChanged
  | _ => if c ≥ 0x80 then .stackError c else .other c

def name? : ModemStatus → Option String
  | .hardwareReset => some "hardware_reset"
  | .watchdogTimerReset => some "watchdog_timer_reset"
  | .associated => some "associated"
  | .disassociated => some "disassociated"
  | .synchronizationLost => some "synchronization_lost"
  | .coordinatorRealignment => some "coordinator_realignment"
  | .coordinatorStarted => some "coordinator_started"
  | .networkSecurityKeyUpdated => some "network_security_key_updated"
  | .voltageSupplyExceeded => some "voltage_supply_exceeded"
  | .modemConfigChanged => some "modem_config_changed"
  | _ => none

def title : ModemStatus → String
  | .hardwareReset => "HardwareReset"
  | .watchdogTimerReset => "WatchdogTimerReset"
  | .associated => "Associated"
  | .disassociated => "Disassociated"
  | .synchronizationLost => "SynchronizationLost"
  | .coordinatorRealignment => "CoordinatorRealignment"
  | .coordinatorStarted => "CoordinatorStarted"
  | .networkSecurityKeyUpdated => "NetworkSecurityKeyUpdated"
  | .voltageSupplyExceeded => "VoltageSupplyExceeded"
  | .modemConfigChanged => "ModemConfigChanged"
  | .stackError c => "StackError(" ++ toString c.toNat ++ ")"
  | .other c => "Other(" ++ toString c.toNat ++ ")"

end ModemStatus

end RadioLink
