import RadioLink.Frame.Codec
/-! A scripted peer radio: what it writes back on the link. A reply is a frame, possibly
carrying the frame identifier of the request it answers, raw bytes written as they are, or
the peer hanging up. -/
namespace RadioLink

/-- One thing a scripted peer writes. -/
inductive Reply where
  | frame (kind : UInt8) (data : Bytes) (echoId : Bool)
  | raw (bytes : Bytes)
  | hangup
  deriving DecidableEq, Repr, Inhabited

namespace Reply

def body (data : Bytes) (echoId : Bool) (requestId : Option UInt8) : Bytes :=
  match echoId, requestId, data with
  | true, some id, [] => [id]
  | true, some id, _ :: rest => id :: rest
  | _, _, _ => data

/-- The bytes a reply puts on the link; a hang-up and a frame too large to encode put none. -/
def wire (requestId : Option UInt8) : Reply → Bytes
  | .frame kind data echoId =>
    match Frame.encode kind (body data echoId requestId) with
    | .ok w => w
    | .error _ => []
  | .raw bs => bs
  | .hangup => []

end Reply

inductive PeerRead where
  | nothing
  | frame (f : Frame.RawFrame)
  | closed
  deriving DecidableEq, Repr, Inhabited

end RadioLink
