import RadioLink.Bytes
/-! The frame checksum: one byte chosen so that the bytes it covers and the checksum add up
to `0xFF` modulo 256. -/
namespace RadioLink
namespace Frame

def byteSum (bs : Bytes) : UInt8 := bs.foldl (· + ·) 0

/-- The checksum of `bs`: `0xFF` minus their sum, modulo 256. -/
def checksum (bs : Bytes) : UInt8 := 0xFF - byteSum bs

/-- Whether `c` is a valid checksum for `bs`: the sum of both is `0xFF` modulo 256. -/
def verify (bs : Bytes) (c : UInt8) : Bool := byteSum bs + c == 0xFF

end Frame
end RadioLink
