import RadioLink.Bytes
/-! Byte stuffing. Four byte values have a meaning on the wire: the start marker `0x7E`, the
escape `0x7D`, and the flow-control bytes `0x11` and `0x13`. Inside a frame each of them is
sent as the escape followed by the byte with bit 5 flipped; every other byte is sent as is. -/
namespace RadioLink
namespace Frame

def startMarker : UInt8 := 0x7E
def escapeByte : UInt8 := 0x7D

def isSpecial (b : UInt8) : Bool := b == 0x7E || b == 0x7D || b == 0x11 || b == 0x13

def stuffByte (b : UInt8) : Bytes := if isSpecial b then [escapeByte, Bytes.flip b] else [b]

/-- The wire form of a byte string. -/
def stuff (bs : Bytes) : Bytes := bs.flatMap stuffByte

def stuffedLength (bs : Bytes) : Nat := bs.length + (bs.filter isSpecial).length

def specialPositions (bs : Bytes) : List Nat :=
  ((List.range bs.length).zip bs).filterMap fun p => if isSpecial p.2 then some p.1 else none

/-- A wire form that ended on an escape byte, after `offset` bytes were recovered. -/
structure DanglingEscape where
  offset : Nat
  deriving DecidableEq, Repr

def unstuffAux : Bytes → Bytes → Except DanglingEscape Bytes
  | [], acc => .ok acc.reverse
  | b :: rest, acc =>
    if b == escapeByte then
      match rest with
      | [] => .error ⟨acc.length⟩
      | c :: rest' => unstuffAux rest' (Bytes.flip c :: acc)
    else unstuffAux rest (b :: acc)

/-- The bytes a wire form stands for: an escape byte takes the next byte with bit 5 flipped. -/
def unstuff (wire : Bytes) : Except DanglingEscape Bytes := unstuffAux wire []

end Frame
end RadioLink
