import RadioLink.FrameId
import RadioLink.Registry
import RadioLink.Frame.Codec
/-! Responses: the frames a radio sends, read into typed values. Command responses, modem
status, transmit status, received packets, IO samples and node identifications each have
their own layout; a frame that cannot be read stays as an undecoded response that keeps its
bytes and the fault. -/
namespace RadioLink

structure LocalAtResponse where
  frameId : FrameId
  command : AtCommand
  status : CommandStatus
  response : Option CommandResponse
  deriving DecidableEq, Repr, Inhabited

structure RemoteAtResponse where
  frameId : FrameId
  source64 : Address64
  source16 : Address16
  command : AtCommand
  status : CommandStatus
  response : Option CommandResponse
  deriving DecidableEq, Repr, Inhabited

structure TransmitStatus where
  frameId : FrameId
  destination16 : Address16
  retryCount : UInt8
  deliveryStatus : UInt8
  discoveryStatus : UInt8
  deriving DecidableEq, Repr, Inhabited

structure ReceivePacket where
  source64 : Address64
  source16 : Address16
  options : UInt8
  data : Bytes
  deriving DecidableEq, Repr, Inhabited

structure AnalogSample where
  channel : UInt8
  value : UInt16
  deriving DecidableEq, Repr, Inhabited

/-- Pin readings sent by another radio. -/
structure IoSample where
  source64 : Address64
  source16 : Address16
  options : UInt8
  sampleCount : UInt8
  digitalMask : UInt16
  analogMask : UInt8
  digitalSamples : Option UInt16
  analogSamples : List AnalogSample
  deriving DecidableEq, Repr, Inhabited

structure NodeIdentification where
  source64 : Address64
  source16 : Address16
  options : UInt8
  remote16 : Address16
  remote64 : Address64
  identifier : String
  parent : Address16
  deviceType : DeviceType
  sourceEvent : UInt8
  profileId : UInt16
  manufacturerId : UInt16
  deriving DecidableEq, Repr, Inhabited

/-- A frame from the radio, read. -/
inductive Response where
  | localAt (r : LocalAtResponse)
  | remoteAt (r : RemoteAtResponse)
  | modemStatus (s : ModemStatus)
  | transmitStatus (s : TransmitStatus)
  | receive (p : ReceivePacket)
  | ioSample (s : IoSample)
  | nodeIdentification (n : NodeIdentification)
  | undecoded (frameType : UInt8) (data : Bytes) (error : DecodeError)
  deriving DecidableEq, Repr, Inhabited

namespace IoSample

def bit (n i : Nat) : Bool := (n / Nat.pow 2 i) % 2 == 1

def digital (s : IoSample) (pin : Nat) : Option Bool :=
  if pin ≥ 16 || !bit s.digitalMask.toNat pin then none
  else s.digitalSamples.map fun levels => bit levels.toNat pin

def analog (s : IoSample) (channel : Nat) : Option UInt16 :=
  (s.analogSamples.find? fun a => a.channel.toNat == channel).map AnalogSample.value

def digitalPins (s : IoSample) : List Nat := (List.range 16).filter (bit s.digitalMask.toNat)

/-- Reads an IO sample: addresses, options, masks, digital levels if any, then each analog channel. -/
def read : FieldReader IoSample := do
  let source64 ← FieldReader.address64 "source address"
  let source16 ← FieldReader.address16 "source network address"
  let options ← FieldReader.byte "receive options"
  let sampleCount ← FieldReader.byte "sample count"
  let digitalMask ← FieldReader.word "digital channel mask"
  let analogMask ← FieldReader.byte "analog channel mask"
  let digitalSamples ← if digitalMask != 0 then
      some <$> FieldReader.word "digital samples"
    else pure none
  let channels := (List.range 8).filter (bit analogMask.toNat)
  let analogSamples ← channels.mapM fun c => do
    pure (⟨c.toUInt8, ← FieldReader.word "analog sample"⟩ : AnalogSample)
  pure { source64, source16, options, sampleCount, digitalMask, analogMask, digitalSamples,
         analogSamples }

end IoSample

def TransmitStatus.read : FieldReader TransmitStatus := do
  let frameId := ⟨← FieldReader.byte "frame id"⟩
  let destination16 ← FieldReader.address16 "destination network address"
  let retryCount ← FieldReader.byte "retry count"
  let deliveryStatus ← FieldReader.byte "delivery status"
  let discoveryStatus ← FieldReader.byte "discovery status"
  pure { frameId, destination16, retryCount, deliveryStatus, discoveryStatus }

def TransmitStatus.isDelivered (s : TransmitStatus) : Bool := s.deliveryStatus == 0

/-- Reads a received packet: the data is all that follows the options. -/
def ReceivePacket.read : FieldReader ReceivePacket := do
  let source64 ← FieldReader.address64 "source address"
  let source16 ← FieldReader.address16 "source network address"
  let options ← FieldReader.byte "receive options"
  let data ← FieldReader.rest
  pure { source64, source16, options, data }

def ReceivePacket.isBroadcast (p : ReceivePacket) : Bool := p.options &&& 0x02 != 0

def NodeIdentification.read : FieldReader NodeIdentification := do
  let source64 ← FieldReader.address64 "source address"
  let source16 ← FieldReader.address16 "source network address"
  let options ← FieldReader.byte "receive options"
  let remote16 ← FieldReader.address16 "remote network address"
  let remote64 ← FieldReader.address64 "remote address"
  let identifier := identifierText (← FieldReader.cString)
  let parent ← FieldReader.address16 "parent address"
  let code ← FieldReader.byte "device type"
  let deviceType ← match DeviceType.ofCode? code with
    | some t => pure t
    | none => throw (.unknownDeviceType code)
  let sourceEvent ← FieldReader.byte "source event"
  let profileId ← FieldReader.word "profile id"
  let manufacturerId ← FieldReader.word "manufacturer id"
  pure { source64, source16, options, remote16, remote64, identifier, parent, deviceType,
         sourceEvent, profileId, manufacturerId }

def FieldReader.command : FieldReader AtCommand := do
  match ← FieldReader.take "command" 2 with
  | [a, b] =>
    match AtCommand.ofCode? a b with
    | some c => pure c
    | none => throw (.unknownCommand a b)
  | _ => throw (.truncated "command" 2 0)

/-- A status byte, read by `interpret` or refused as unknown for frame type `kind`. -/
def FieldReader.status (kind : Frame.Kind) (interpret : UInt8 → Option CommandStatus) :
    FieldReader CommandStatus := do
  let code ← FieldReader.byte "status"
  match interpret code with
  | some s => pure s
  | none => throw (.unknownStatus kind code)

/-- The value of the rest of a command response, read by the table's decoder. -/
def FieldReader.commandValue (reg : Registry) (kind : Frame.Kind) (c : AtCommand) :
    FieldReader (Option CommandResponse) := do
  let payload ← FieldReader.rest
  match reg.decodeCommand kind c payload with
  | .ok v => pure v
  | .error e => throw e

def LocalAtResponse.read (reg : Registry) : FieldReader LocalAtResponse := do
  let frameId := ⟨← FieldReader.byte "frame id"⟩
  let command ← FieldReader.command
  let status ← FieldReader.status .atCommandResponse CommandStatus.local?
  let response ← FieldReader.commandValue reg .atCommandResponse command
  pure { frameId, command, status, response }

def RemoteAtResponse.read (reg : Registry) : FieldReader RemoteAtResponse := do
  let frameId := ⟨← FieldReader.byte "frame id"⟩
  let source64 ← FieldReader.address64 "source address"
  let source16 ← FieldReader.address16 "source network address"
  let command ← FieldReader.command
  let status ← FieldReader.status .remoteAtCommandResponse CommandStatus.remote?
  let response ← FieldReader.commandValue reg .remoteAtCommandResponse command
  pure { frameId, source64, source16, command, status, response }

namespace Response

/-- The response a frame carries, read with the decoder table `reg`. -/
def decode (reg : Registry) (f : Frame.RawFrame) : Except DecodeError Response :=
  let body {α : Type} (r : FieldReader α) : Except DecodeError α := (r.run f.data).map Prod.fst
  match Frame.Kind.ofCode? f.kind with
  | none => .error (.unknownFrameType f.kind)
  | some .atCommandResponse => (body (LocalAtResponse.read reg)).map .localAt
  | some .remoteAtCommandResponse => (body (RemoteAtResponse.read reg)).map .remoteAt
  | some .modemStatus => (body (FieldReader.byte "modem status")).map (.modemStatus ∘ ModemStatus.ofCode)
  | some .transmitStatus => (body TransmitStatus.read).map .transmitStatus
  | some .receivePacket => (body ReceivePacket.read).map .receive
  | some .ioSampleIndicator => (body IoSample.read).map .ioSample
  | some .nodeIdentification => (body NodeIdentification.read).map .nodeIdentification
  | some k => .error (.noDecoder k)

def undecodedOf (f : Frame.RawFrame) (e : DecodeError) : Response := .undecoded f.kind f.data e

/-- The response a frame carries, or the frame kept undecoded. -/
def ofFrame (reg : Registry) (f : Frame.RawFrame) : Response :=
  match decode reg f with
  | .ok r => r
  | .error e => undecodedOf f e

def frameType : Response → UInt8
  | .localAt _ => Frame.Kind.atCommandResponse.code
  | .remoteAt _ => Frame.Kind.remoteAtCommandResponse.code
  | .modemStatus _ => Frame.Kind.modemStatus.code
  | .transmitStatus _ => Frame.Kind.transmitStatus.code
  | .receive _ => Frame.Kind.receivePacket.code
  | .ioSample _ => Frame.Kind.ioSampleIndicator.code
  | .nodeIdentification _ => Frame.Kind.nodeIdentification.code
  | .undecoded t _ _ => t

/-- The frame identifier a response echoes, if its kind carries one. -/
def frameId? : Response → Option FrameId
  | .localAt r => some r.frameId
  | .remoteAt r => some r.frameId
  | .transmitStatus s => some s.frameId
  | .undecoded t data _ =>
    match Frame.Kind.ofCode? t, data with
    | some k, b :: _ => if k.hasFrameId then some ⟨b⟩ else none
    | _, _ => none
  | _ => none

def isUndecoded : Response → Bool
  | .undecoded _ _ _ => true
  | _ => false

end Response

end RadioLink
