import RadioLink.Frame.Checksum
import RadioLink.Frame.Stuffing
import RadioLink.Frame.Error
import RadioLink.Frame.Kind
/-! Frames on the wire. A frame is the start marker `0x7E`, a two-byte big-endian length
(the type byte plus the body, sent raw), then the type byte, the body and a checksum, those
three stuffed. Reading takes one frame off the front of a buffer, skipping noise before the
marker; when the buffer holds only part of a frame it asks for more and consumes nothing
after the marker. -/
namespace RadioLink
namespace Frame

/-- The largest length field: the type byte plus at most 65534 body bytes. -/
def maxLength : Nat := 65535

/-- A frame as type byte and body. -/
structure RawFrame where
  kind : UInt8
  data : Bytes
  deriving DecidableEq, Repr, Inhabited

namespace RawFrame

/-- The value of the length field: the type byte and the body. -/
def len (f : RawFrame) : Nat := f.data.length + 1

def checksum (f : RawFrame) : UInt8 := Frame.checksum f.data - f.kind

def wireSize (f : RawFrame) : Nat :=
  3 + stuffedLength [f.kind] + stuffedLength f.data + stuffedLength [f.checksum]

/-- The wire form: the marker and the length field raw, then type, body and checksum stuffed. -/
def wire (f : RawFrame) : Bytes :=
  startMarker :: Bytes.ofNatBE 2 f.len ++ stuff [f.kind] ++ stuff f.data ++ stuff [f.checksum]

end RawFrame

/-- The wire form of a frame of type `t` with body `d`, or `tooLarge` when the length cannot fit. -/
def encode (t : UInt8) (d : Bytes) : Except FrameError Bytes :=
  let f : RawFrame := ⟨t, d⟩
  if f.len > maxLength then .error (.tooLarge f.len maxLength) else .ok f.wire

/-- The buffer from its first start marker on, and how many bytes came before it. -/
def skipToStart (buf : Bytes) : Nat × Bytes :=
  let rest := buf.dropWhile (· != startMarker)
  (buf.length - rest.length, rest)

def takeLogical : Nat → Bytes → Bytes → Option (Bytes × Bytes)
  | 0, wire, acc => some (acc.reverse, wire)
  | _ + 1, [], _ => none
  | n + 1, b :: wire, acc =>
    if b == escapeByte then
      match wire with
      | [] => none
      | c :: wire' => takeLogical n wire' (Bytes.flip c :: acc)
    else takeLogical n wire (b :: acc)

/-- What one attempt to read a frame found. -/
inductive Decoded where
  | pending
  | frame (f : RawFrame)
  | fault (e : FrameError)
  deriving DecidableEq, Repr, Inhabited

structure Step where
  result : Decoded
  rest : Bytes
  deriving DecidableEq, Repr, Inhabited

/-- One frame off a buffer that starts at a marker. A zero length consumes the header, a length
over `max` only the marker, and a checksum mismatch the whole frame. -/
def decodeAtStart (max : Nat) : Bytes → Step
  | m :: hi :: lo :: wire =>
    let length := hi.toNat * 256 + lo.toNat
    if length = 0 then ⟨.fault .emptyFrame, wire⟩
    else if length > max then ⟨.fault (.tooLarge length max), hi :: lo :: wire⟩
    else
      match takeLogical (length + 1) wire [] with
      | none => ⟨.pending, m :: hi :: lo :: wire⟩
      | some (logical, rest) =>
        let content := logical.take length
        let received := (logical.drop length).headD 0
        if verify content received then ⟨.frame ⟨content.headD 0, content.tail⟩, rest⟩
        else ⟨.fault (.checksumMismatch (Frame.checksum content) received), rest⟩
  | short => ⟨.pending, short⟩

/-- One frame off a buffer: noise before the first marker dropped, then `decodeAtStart`. -/
def decode (max : Nat) (buf : Bytes) : Step := decodeAtStart max (skipToStart buf).2

def countLogical : Bytes → Nat → Except Nat Nat
  | [], offset => .ok offset
  | b :: rest, offset =>
    if b == escapeByte then
      match rest with
      | [] => .error offset
      | _ :: rest' => countLogical rest' (offset + 1)
    else countLogical rest (offset + 1)

/-- The error for a stream that ends with `buf` unread: `closed`, `truncatedEscape` or `truncated`. -/
def eofError (buf : Bytes) : FrameError :=
  match (skipToStart buf).2 with
  | [] => .closed
  | _ :: hi :: lo :: wire =>
    let expected := hi.toNat * 256 + lo.toNat
    match countLogical wire 0 with
    | .error offset => .truncatedEscape offset
    | .ok offset => .truncated (min offset expected) expected
  | _ => .truncated 0 0

def drainAux (max : Nat) : Nat → Bytes → List Decoded → List Decoded × Bytes
  | 0, buf, acc => (acc.reverse, buf)
  | fuel + 1, buf, acc =>
    let step := decode max buf
    match step.result with
    | .pending => (acc.reverse, step.rest)
    | r => drainAux max fuel step.rest (r :: acc)

/-- Every frame and fault that can be read from `buf`, in order, and the rest. -/
def drain (max : Nat) (buf : Bytes) : List Decoded × Bytes := drainAux max (buf.length + 1) buf []

end Frame
end RadioLink
