import RadioLink.AtCommand
import RadioLink.Response.Command
/-! Which decoder reads the payload of which command's response. The table is keyed by frame
type and command, so local and remote responses of one command may be read differently; a
command without an entry keeps its payload as raw bytes. -/
namespace RadioLink

/-- How a response payload is read: a fixed width reads one big-endian number off the front. -/
inductive Decoder where
  | byte (wrap : UInt8 → CommandResponse)
  | word (wrap : UInt16 → CommandResponse)
  | quad (wrap : UInt32 → CommandResponse)
  | long (wrap : UInt64 → CommandResponse)
  | custom (decode : Bytes → Except DecodeError CommandResponse)
  | raw
  deriving Inhabited

namespace Decoder

def kind : Decoder → String
  | .byte _ => "byte" | .word _ => "word" | .quad _ => "quad" | .long _ => "long"
  | .custom _ => "custom" | .raw => "raw"

def decode (d : Decoder) (payload : Bytes) : Except DecodeError CommandResponse :=
  let first {α : Type} (r : FieldReader α) : Except DecodeError α := (r.run payload).map Prod.fst
  match d with
  | .byte wrap => (first (FieldReader.byte "value")).map wrap
  | .word wrap => (first (FieldReader.word "value")).map wrap
  | .quad wrap => (first (FieldReader.quad "value")).map wrap
  | .long wrap => (first (FieldReader.long "value")).map wrap
  | .custom f => f payload
  | .raw => .ok (.raw payload)

end Decoder

structure Registration where
  kind : Frame.Kind
  command : AtCommand
  decoder : Decoder
  deriving Inhabited

/-- A decoder table. The newest entry for a key wins. -/
structure Registry where
  entries : List Registration := []
  deriving Inhabited

namespace Registry

def empty : Registry := {}

def registerFor (r : Registry) (kind : Frame.Kind) (command : AtCommand) (d : Decoder) :
    Registry :=
  ⟨⟨kind, command, d⟩ :: r.entries⟩

def register (r : Registry) (command : AtCommand) (d : Decoder) : Registry :=
  (r.registerFor .atCommandResponse command d).registerFor .remoteAtCommandResponse command d

/-- The decoder for `command` in responses of frame type `kind`: the newest entry, or raw. -/
def decoder (r : Registry) (kind : Frame.Kind) (command : AtCommand) : Decoder :=
  match r.entries.find? fun e => e.kind == kind && e.command == command with
  | some e => e.decoder
  | none => .raw

/-- The value of a response payload; an empty payload carries none. -/
def decodeCommand (r : Registry) (kind : Frame.Kind) (command : AtCommand) (payload : Bytes) :
    Except DecodeError (Option CommandResponse) :=
  if payload.isEmpty then .ok none
  else ((r.decoder kind command).decode payload).map some

def pinCommands : List AtCommand :=
  [.d0, .d1, .d2, .d3, .d4, .d5, .d6, .d7, .d8, .p0, .p1, .p2]

/-- The standard table; sample rates count milliseconds, discovery timeouts tenths of a second. -/
def standard : Registry :=
  let r := empty
    |>.register .ai (.byte .associationStatus)
    |>.register .ap (.byte .apiMode)
    |>.register .ch (.byte .channel)
    |>.register .db (.byte .signalStrength)
    |>.register .ee (.byte fun v => .encryptionEnabled (v != 0))
    |>.register .nj (.byte .joinTime)
    |>.register .nc (.byte .childrenRemaining)
    |>.register .sd (.byte .scanDuration)
  let r := pinCommands.foldl (fun r c => r.register c (.byte .pinConfiguration)) r
  r |>.register .hv (.word fun v => .hardwareVersion ⟨v⟩)
    |>.register .vr (.word .firmwareVersion)
    |>.register .my (.word fun v => .networkAddress ⟨v⟩)
    |>.register .oi (.word .panId)
    |>.register .np (.word .maxPayload)
    |>.register .ir (.word fun v => .sampleRate (Duration.ofMillis v.toNat))
    |>.register .nt (.word fun v => .discoveryTimeout (Duration.ofMillis (v.toNat * 100)))
    |>.register .supplyVoltage (.word .supplyVoltage)
    |>.register .dd (.quad .deviceTypeId)
    |>.register .sh (.quad .serialHigh)
    |>.register .sl (.quad .serialLow)
    |>.register .id (.long .extendedPanId)
    |>.register .op (.long .operatingPanId)
    |>.register .ni (.custom CommandResponse.readIdentifier)
    |>.register .nd (.custom CommandResponse.readDiscovery)

end Registry

end RadioLink
