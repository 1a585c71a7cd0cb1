import RadioLink.Bytes
/-! The hardware version a radio reports: the high byte names the radio series, the low byte
is the board revision. -/
namespace RadioLink

inductive RadioType where
  | series1 | series1Pro | series2 | series2Pro | series2BPro
  deriving DecidableEq, Repr, Inhabited

namespace RadioType

def name : RadioType → String
  | .series1 => "Series1" | .series1Pro => "Series1Pro" | .series2 => "Series2"
  | .series2Pro => "Series2Pro" | .series2BPro => "Series2BPro"

def description : RadioType → String
  | .series1 => "Series 1" | .series1Pro => "Series 1 Pro" | .series2 => "Series 2"
  | .series2Pro => "Series 2 Pro" | .series2BPro => "Series 2B Pro"

end RadioType

/-- A hardware version word. -/
structure HardwareVersion where
  value : UInt16
  deriving DecidableEq, Repr, Inhabited

namespace HardwareVersion

def radioType? (h : HardwareVersion) : Option RadioType :=
  match h.value.toNat / 256 with
  | 0x17 => some .series1
  | 0x18 => some .series1Pro
  | 0x19 => some .series2
  | 0x1A => some .series2Pro
  | 0x1E => some .series2BPro
  | _ => none

def revision (h : HardwareVersion) : UInt8 := (h.value.toNat % 256).toUInt8

/-- `0x` and four uppercase hex digits, then the series in parentheses when it is known. -/
def display (h : HardwareVersion) : String :=
  let word := "0x" ++ Bytes.hexUpper 4 h.value.toNat
  match h.radioType? with
  | some t => word ++ " (" ++ t.description ++ ")"
  | none => word

end HardwareVersion

end RadioLink
