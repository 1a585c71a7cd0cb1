import RadioLink.Frame.Kind
import RadioLink.Text.Lossy
import RadioLink.Text.Quoted
/-! Why a frame that arrived intact could not be read as a response. The frame was already
delimited and its checksum verified, so none of these faults affects the byte stream; the
frame is then kept as an undecoded response that carries the fault. -/
namespace RadioLink

/-- A fault in reading a response body. -/
inductive DecodeError where
  | unknownFrameType (code : UInt8)
  | noDecoder (kind : Frame.Kind)
  | unknownCommand (first second : UInt8)
  | unknownStatus (kind : Frame.Kind) (code : UInt8)
  | unknownDeviceType (code : UInt8)
  | truncated (what : String) (needed available : Nat)
  | unterminatedIdentifier
  deriving DecidableEq, Repr, Inhabited

namespace DecodeError

def message : DecodeError → String
  | .unknownFrameType c => "unknown frame type 0x" ++ Bytes.byteUpper c
  | .noDecoder k => "no decoder for frame type " ++ k.display
  | .unknownCommand a b => "unknown AT command " ++ Text.quoted (Text.ofUtf8Lossy [a, b])
  | .unknownStatus k c => "unknown status 0x" ++ Bytes.byteUpper c ++ " in " ++ k.display
  | .unknownDeviceType c => "unknown device type 0x" ++ Bytes.byteUpper c
  | .truncated what n m =>
    "truncated " ++ what ++ ": need " ++ toString n ++ " bytes, have " ++ toString m
  | .unterminatedIdentifier => "node identifier is not NUL-terminated"

def name : DecodeError → String
  | .unknownFrameType _ => "UnknownFrameType"
  | .noDecoder _ => "NoDecoder"
  | .unknownCommand _ _ => "UnknownCommand"
  | .unknownStatus _ _ => "UnknownStatus"
  | .unknownDeviceType _ => "UnknownDeviceType"
  | .truncated _ _ _ => "Truncated"
  | .unterminatedIdentifier => "UnterminatedIdentifier"

end DecodeError

end RadioLink
