import RadioLink.Cli.Host
import RadioLink.Link.Radio
/-! A radio link whose far end is a scripted device. Until the device wakes it reads nothing,
so requests queue up; when it wakes it writes its unsolicited frames and then reads the queued
requests in order, and from then on it reads each request as it is written. Every request it
reads gets its list of replies at once; a hang-up among them closes the link, and the device
reads nothing after it. -/
namespace RadioLink
namespace Cli

/-- A radio link and the scripted device at its far end. -/
structure Rig where
  radio : Radio
  device : Device
  awake : Bool := false
  unread : List Frame.RawFrame := []
  saw : List Frame.RawFrame := []
  gone : Bool := false

namespace Rig

/-- The rig after the device wrote `replies` for the request with identifier `requestId`. -/
def deliver (r : Rig) (requestId : Option UInt8) : List Reply → Rig
  | [] => r
  | .hangup :: _ => { r with radio := r.radio.endOfStream, gone := true }
  | x :: rest => deliver { r with radio := r.radio.ingest (x.wire requestId) } requestId rest

def serve (r : Rig) (f : Frame.RawFrame) : Rig :=
  if r.gone then r
  else
    let replies := (r.device.replies[r.saw.length]?).getD []
    { r with saw := r.saw ++ [f] }.deliver f.data.head? replies

/-- The rig after the device woke: unsolicited frames, then the queued requests. -/
def wake (r : Rig) : Rig :=
  if r.awake then r
  else
    let queued := r.unread
    queued.foldl serve ({ r with awake := true, unread := [] }.deliver none r.device.unsolicited)

/-- The rig after the link wrote a request: read at once by an awake device, queued otherwise. -/
def transmit (r : Rig) (f : Frame.RawFrame) : Rig :=
  if r.awake then r.serve f else { r with unread := r.unread ++ [f] }

end Rig

end Cli
end RadioLink
