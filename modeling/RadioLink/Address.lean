import RadioLink.Bytes
import RadioLink.Text.Blank
import RadioLink.Text.Quoted
/-! Radio addresses. Every radio has a fixed 64-bit extended address and, once it joined a
network, a 16-bit network address. Both are shown as uppercase hex, the extended one as two
groups of eight digits joined by a point, and both travel most significant byte first. -/
namespace RadioLink

/-- A 64-bit extended address. -/
structure Address64 where
  value : UInt64
  deriving DecidableEq, Repr, Inhabited

/-- A 16-bit network address. -/
structure Address16 where
  value : UInt16
  deriving DecidableEq, Repr, Inhabited

/-- Text that is no address of the expected width; it keeps the width and the text. -/
structure AddressError where
  bits : Nat
  text : String
  deriving DecidableEq, Repr

def AddressError.message (e : AddressError) : String :=
  "invalid " ++ toString e.bits ++ "-bit address " ++ Text.quoted e.text

namespace Address

def digitsOf (s : String) : List Char :=
  Bytes.dropHexPrefix (s.toList.filter fun c => !Text.isBlank c && c != '.' && c != ':')

/-- The value of an address text with exactly `width` hex digits. -/
def parseHex (width : Nat) (s : String) : Option Nat :=
  let ds := digitsOf s
  if ds.length = width ∧ ds.all Bytes.isHexDigit then
    some (ds.foldl (fun acc c => acc * 16 + (Bytes.digitValue? c).getD 0) 0)
  else none

end Address

namespace Address64

def coordinator : Address64 := ⟨0⟩

def broadcast : Address64 := ⟨0xFFFF⟩

def toBytes (a : Address64) : Bytes := Bytes.ofNatBE 8 a.value.toNat

def ofBytes (bs : Bytes) : Address64 := ⟨(Bytes.toNatBE bs).toUInt64⟩

def display (a : Address64) : String :=
  Bytes.hexUpper 8 (a.value.toNat / Nat.pow 2 32) ++ "." ++
    Bytes.hexUpper 8 (a.value.toNat % Nat.pow 2 32)

/-- The address a text names: sixteen hex digits, with blanks, points, colons and a `0x` allowed. -/
def parse (s : String) : Except AddressError Address64 :=
  match Address.parseHex 16 s with
  | some n => .ok ⟨n.toUInt64⟩
  | none => .error ⟨64, s⟩

end Address64

namespace Address16

def coordinator : Address16 := ⟨0⟩

def broadcast : Address16 := ⟨0xFFFF⟩

def unknown : Address16 := ⟨0xFFFE⟩

def toBytes (a : Address16) : Bytes := Bytes.ofNatBE 2 a.value.toNat

def ofBytes (bs : Bytes) : Address16 := ⟨(Bytes.toNatBE bs).toUInt16⟩

def display (a : Address16) : String := Bytes.hexUpper 4 a.value.toNat

def parse (s : String) : Except AddressError Address16 :=
  match Address.parseHex 4 s with
  | some n => .ok ⟨n.toUInt16⟩
  | none => .error ⟨16, s⟩

end Address16

end RadioLink
