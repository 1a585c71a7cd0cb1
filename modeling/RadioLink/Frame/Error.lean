import RadioLink.Bytes
/-! What can go wrong while frames are read or written: a corrupt or oversized frame, a stream
that ends inside a frame, or a failure of the byte stream itself. -/
namespace RadioLink
namespace Frame

/-- The kind of a failed read or write on a byte stream. -/
inductive IoKind where
  | timedOut
  | wouldBlock
  | interrupted
  | other
  | brokenPipe
  | permissionDenied
  | connectionReset
  | connectionRefused
  | notFound
  | notConnected
  deriving DecidableEq, Repr, Inhabited

namespace IoKind

def describe : IoKind → String
  | .timedOut => "timed out"
  | .wouldBlock => "operation would block"
  | .interrupted => "operation interrupted"
  | .other => "other error"
  | .brokenPipe => "broken pipe"
  | .permissionDenied => "permission denied"
  | .connectionReset => "connection reset"
  | .connectionRefused => "connection refused"
  | .notFound => "entity not found"
  | .notConnected => "not connected"

def isRetried : IoKind → Bool
  | .interrupted => true
  | _ => false

def isTimeout : IoKind → Bool
  | .timedOut | .wouldBlock => true
  | _ => false

end IoKind

/-- An error of the framing layer. -/
inductive FrameError where
  | checksumMismatch (expected actual : UInt8)
  | emptyFrame
  | tooLarge (size max : Nat)
  | truncated (offset expected : Nat)
  | truncatedEscape (offset : Nat)
  | stream (kind : IoKind)
  | closed
  deriving DecidableEq, Repr, Inhabited

namespace FrameError

def message : FrameError → String
  | .checksumMismatch e a =>
    "checksum mismatch (expected 0x" ++ Bytes.byteUpper e ++ ", got 0x" ++ Bytes.byteUpper a ++ ")"
  | .emptyFrame => "empty frame (zero length field)"
  | .tooLarge size max => s!"frame too large ({size} bytes, max {max})"
  | .truncated offset expected => s!"connection closed mid-frame (read {offset} of {expected} bytes)"
  | .truncatedEscape offset => s!"connection closed inside an escape sequence at offset {offset}"
  | .stream kind => "frame I/O error: " ++ kind.describe
  | .closed => "connection closed"

def name : FrameError → String
  | .checksumMismatch .. => "ChecksumMismatch"
  | .emptyFrame => "EmptyFrame"
  | .tooLarge .. => "FrameTooLarge"
  | .truncated .. => "Truncated"
  | .truncatedEscape .. => "TruncatedEscape"
  | .stream .. => "Io"
  | .closed => "ConnectionClosed"

/-- Errors that cost one frame and leave the stream usable. -/
def isRecoverable : FrameError → Bool
  | .checksumMismatch .. | .emptyFrame | .tooLarge .. => true
  | _ => false

def isTimeout : FrameError → Bool
  | .stream kind => kind.isTimeout
  | _ => false

end FrameError

end Frame
end RadioLink
