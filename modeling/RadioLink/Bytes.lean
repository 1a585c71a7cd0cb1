/-! Byte strings and their hexadecimal spellings. Bytes are lists of `UInt8`; a
multi-byte number is written most significant byte first (big-endian). -/
namespace RadioLink

/-- A byte string. -/
abbrev Bytes := List UInt8

namespace Bytes

def digitUpper (n : Nat) : Char :=
  if n < 10 then Char.ofNat (48 + n) else Char.ofNat (55 + n)

def digitLower (n : Nat) : Char :=
  if n < 10 then Char.ofNat (48 + n) else Char.ofNat (87 + n)

/-- `n` as exactly `width` uppercase hex digits (the low `4 * width` bits). -/
def hexUpper (width n : Nat) : String :=
  String.ofList ((List.range width).reverse.map fun k => digitUpper ((n / Nat.pow 16 k) % 16))

def byteUpper (b : UInt8) : String := hexUpper 2 b.toNat

def byteLower (b : UInt8) : String :=
  String.ofList [digitLower (b.toNat / 16), digitLower (b.toNat % 16)]

def toHex (bs : Bytes) : String := String.join (bs.map byteLower)

def spaced (bs : Bytes) : String := " ".intercalate (bs.map byteUpper)

def digitValue? (c : Char) : Option Nat :=
  if '0' ≤ c ∧ c ≤ '9' then some (c.toNat - 48)
  else if 'a' ≤ c ∧ c ≤ 'f' then some (c.toNat - 87)
  else if 'A' ≤ c ∧ c ≤ 'F' then some (c.toNat - 55)
  else none

def isHexDigit (c : Char) : Bool := (digitValue? c).isSome

/-- The characters after one leading `0x` or `0X`, or all of them without such a prefix. -/
def dropHexPrefix : List Char → List Char
  | '0' :: 'x' :: rest => rest
  | '0' :: 'X' :: rest => rest
  | cs => cs

def ofHexDigitsAux : List Char → Bytes → Option Bytes
  | [], acc => some acc.reverse
  | [_], _ => none
  | a :: b :: rest, acc =>
    match digitValue? a, digitValue? b with
    | some x, some y => ofHexDigitsAux rest ((x * 16 + y).toUInt8 :: acc)
    | _, _ => none

def ofHexDigits? (cs : List Char) : Option Bytes := ofHexDigitsAux cs []

/-- The big-endian value of a byte string. -/
def toNatBE (bs : Bytes) : Nat := bs.foldl (fun acc b => acc * 256 + b.toNat) 0

/-- The low `width` bytes of `n`, most significant first. -/
def ofNatBE (width n : Nat) : Bytes :=
  (List.range width).reverse.map fun k => ((n / Nat.pow 256 k) % 256).toUInt8

/-- Bitwise exclusive or with `0x20`, the flip that byte stuffing applies. -/
@[inline] def flip (b : UInt8) : UInt8 := b ^^^ 0x20

end Bytes

end RadioLink
