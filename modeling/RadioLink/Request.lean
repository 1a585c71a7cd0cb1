import RadioLink.Address
import RadioLink.AtCommand
import RadioLink.FrameId
import RadioLink.Frame.Codec
/-! Requests to the radio: a local command, a command for another radio, or data to
transmit. Each is laid out as the body of one frame, starting with its frame identifier.
A command value holds at most four bytes, a node identifier at most twenty printable ASCII
bytes; the length is checked first. -/
namespace RadioLink

inductive EncodeError where
  | invalidValueLength (command : AtCommand) (len max : Nat)
  | invalidIdentifier (byte : UInt8)
  deriving DecidableEq, Repr, Inhabited

namespace EncodeError

def message : EncodeError → String
  | .invalidValueLength c len max =>
    toString len ++ "-byte value is too long for " ++ c.mnemonic ++ " (max " ++ toString max ++ ")"
  | .invalidIdentifier b => "node identifier byte 0x" ++ Bytes.byteUpper b ++ " is not printable ASCII"

def name : EncodeError → String
  | .invalidValueLength .. => "InvalidValueLength"
  | .invalidIdentifier _ => "InvalidIdentifier"

end EncodeError

namespace AtCommand

/-- The longest value of a command: twenty bytes for the node identifier, four for the others. -/
def maxValueLength (c : AtCommand) : Nat := if c = .ni then 20 else 4

/-- Checks a value's length and, for the node identifier, that every byte is printable ASCII. -/
def checkValue (c : AtCommand) (value : Bytes) : Except EncodeError Unit :=
  if value.length > c.maxValueLength then .error (.invalidValueLength c value.length c.maxValueLength)
  else if c = .ni then
    match value.find? fun b => !(32 ≤ b && b ≤ 126) with
    | some b => .error (.invalidIdentifier b)
    | none => .ok ()
  else .ok ()

end AtCommand

/-- The big-endian bytes of a 32-bit value without its leading zero bytes; zero keeps one. -/
def valueOfNat32 (v : UInt32) : Bytes :=
  let bs := Bytes.ofNatBE 4 v.toNat
  bs.drop ((bs.take 3).takeWhile (· == 0)).length

/-- A command for the local radio: with no value it reads the setting, with one it sets it. -/
structure AtRequest where
  frameId : FrameId := FrameId.default
  command : AtCommand
  value : Bytes := []
  queued : Bool := false
  deriving DecidableEq, Repr, Inhabited

namespace AtRequest

def query (c : AtCommand) : AtRequest := { command := c }

def set (c : AtCommand) (value : Bytes) : Except EncodeError AtRequest := do
  c.checkValue value
  pure { command := c, value }

def setU32 (c : AtCommand) (v : UInt32) : Except EncodeError AtRequest := set c (valueOfNat32 v)

def kind (r : AtRequest) : Frame.Kind := if r.queued then .atCommandQueue else .atCommand

def body (r : AtRequest) : Bytes := r.frameId.value :: r.command.code ++ r.value

end AtRequest

/-- A command for another radio, by its two addresses; applied at once unless deferred. -/
structure RemoteAtRequest where
  frameId : FrameId := FrameId.default
  destination64 : Address64
  destination16 : Address16 := Address16.unknown
  applyChanges : Bool := true
  command : AtCommand
  value : Bytes := []
  deriving DecidableEq, Repr, Inhabited

namespace RemoteAtRequest

def query (dest : Address64) (c : AtCommand) : RemoteAtRequest :=
  { destination64 := dest, command := c }

def set (dest : Address64) (c : AtCommand) (value : Bytes) : Except EncodeError RemoteAtRequest := do
  c.checkValue value
  pure { destination64 := dest, command := c, value }

def setU32 (dest : Address64) (c : AtCommand) (v : UInt32) : Except EncodeError RemoteAtRequest :=
  set dest c (valueOfNat32 v)

def body (r : RemoteAtRequest) : Bytes :=
  r.frameId.value :: r.destination64.toBytes ++ r.destination16.toBytes ++
    [if r.applyChanges then 0x02 else 0x00] ++ r.command.code ++ r.value

end RemoteAtRequest

structure TransmitRequest where
  frameId : FrameId := FrameId.default
  destination64 : Address64
  destination16 : Address16 := Address16.unknown
  broadcastRadius : UInt8 := 0
  options : UInt8 := 0
  data : Bytes
  deriving DecidableEq, Repr, Inhabited

namespace TransmitRequest

def broadcast (data : Bytes) : TransmitRequest := { destination64 := Address64.broadcast, data }

def body (r : TransmitRequest) : Bytes :=
  r.frameId.value :: r.destination64.toBytes ++ r.destination16.toBytes ++
    [r.broadcastRadius, r.options] ++ r.data

end TransmitRequest

/-- A request of any kind. -/
inductive Request where
  | at (r : AtRequest)
  | remoteAt (r : RemoteAtRequest)
  | transmit (r : TransmitRequest)
  deriving DecidableEq, Repr, Inhabited

namespace Request

def frameId : Request → FrameId
  | .at r => r.frameId
  | .remoteAt r => r.frameId
  | .transmit r => r.frameId

def withFrameId (i : FrameId) : Request → Request
  | .at r => .at { r with frameId := i }
  | .remoteAt r => .remoteAt { r with frameId := i }
  | .transmit r => .transmit { r with frameId := i }

@[simp] theorem frameId_withFrameId (i : FrameId) (req : Request) : (req.withFrameId i).frameId = i := by
  cases req <;> rfl

def kind : Request → Frame.Kind
  | .at r => r.kind
  | .remoteAt _ => .remoteAtCommand
  | .transmit _ => .transmitRequest

def command? : Request → Option AtCommand
  | .at r => some r.command
  | .remoteAt r => some r.command
  | .transmit _ => none

def toFrame : Request → Frame.RawFrame
  | .at r => ⟨r.kind.code, r.body⟩
  | .remoteAt r => ⟨Frame.Kind.remoteAtCommand.code, r.body⟩
  | .transmit r => ⟨Frame.Kind.transmitRequest.code, r.body⟩

end Request

end RadioLink
