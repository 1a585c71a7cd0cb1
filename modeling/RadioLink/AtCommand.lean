import RadioLink.Bytes
import RadioLink.Text.Blank
import RadioLink.Text.Quoted
/-! The catalog of AT commands: two-letter mnemonics that read or set one setting of the
radio. A command travels as the two ASCII bytes of its mnemonic; text names it case-blind,
with surrounding blanks ignored. -/
namespace RadioLink

/-- A command of the catalog. -/
inductive AtCommand where
  | ai | ao | ap | bd | ch | d0 | d1 | d2 | d3 | d4 | d5 | d6 | d7 | d8 | db | dd | ee | fr
  | hv | id | ir | is | my | nc | nd | ni | nj | no | np | nt | oi | op | p0 | p1 | p2 | p3
  | re | rp | sd | sh | sl | supplyVoltage | vr | wr
  deriving DecidableEq, Repr, Inhabited

namespace AtCommand

def all : List AtCommand :=
  [.ai, .ao, .ap, .bd, .ch, .d0, .d1, .d2, .d3, .d4, .d5, .d6, .d7, .d8, .db, .dd, .ee, .fr,
   .hv, .id, .ir, .is, .my, .nc, .nd, .ni, .nj, .no, .np, .nt, .oi, .op, .p0, .p1, .p2, .p3,
   .re, .rp, .sd, .sh, .sl, .supplyVoltage, .vr, .wr]

def mnemonic : AtCommand → String
  | .ai => "AI" | .ao => "AO" | .ap => "AP" | .bd => "BD" | .ch => "CH" | .d0 => "D0"
  | .d1 => "D1" | .d2 => "D2" | .d3 => "D3" | .d4 => "D4" | .d5 => "D5" | .d6 => "D6"
  | .d7 => "D7" | .d8 => "D8" | .db => "DB" | .dd => "DD" | .ee => "EE" | .fr => "FR"
  | .hv => "HV" | .id => "ID" | .ir => "IR" | .is => "IS" | .my => "MY" | .nc => "NC"
  | .nd => "ND" | .ni => "NI" | .nj => "NJ" | .no => "NO" | .np => "NP" | .nt => "NT"
  | .oi => "OI" | .op => "OP" | .p0 => "P0" | .p1 => "P1" | .p2 => "P2" | .p3 => "P3"
  | .re => "RE" | .rp => "RP" | .sd => "SD" | .sh => "SH" | .sl => "SL"
  | .supplyVoltage => "%V" | .vr => "VR" | .wr => "WR"

def description : AtCommand → String
  | .ai => "Association Status" | .ao => "API Options" | .ap => "API Enable"
  | .bd => "Interface Data Rate" | .ch => "Operating Channel"
  | .d0 => "AD0/DIO0 Configuration" | .d1 => "AD1/DIO1 Configuration"
  | .d2 => "AD2/DIO2 Configuration" | .d3 => "AD3/DIO3 Configuration"
  | .d4 => "DIO4 Configuration" | .d5 => "DIO5 Configuration" | .d6 => "DIO6 Configuration"
  | .d7 => "DIO7 Configuration" | .d8 => "DIO8 Configuration"
  | .db => "Received Signal Strength" | .dd => "Device Type Identifier"
  | .ee => "Encryption Enable" | .fr => "Software Reset" | .hv => "Hardware Version"
  | .id => "Extended PAN ID" | .ir => "IO Sample Rate" | .is => "Force Sample"
  | .my => "16-bit Network Address" | .nc => "Number of Remaining Children"
  | .nd => "Node Discover" | .ni => "Node Identifier" | .nj => "Node Join Time"
  | .no => "Network Discovery Options" | .np => "Maximum RF Payload Bytes"
  | .nt => "Node Discovery Timeout" | .oi => "Operating 16-bit PAN ID"
  | .op => "Operating Extended PAN ID" | .p0 => "PWM0 Configuration"
  | .p1 => "DIO11 Configuration" | .p2 => "DIO12 Configuration" | .p3 => "DIO13 Configuration"
  | .re => "Restore Defaults" | .rp => "RSSI PWM Timer" | .sd => "Scan Duration"
  | .sh => "Serial Number High" | .sl => "Serial Number Low"
  | .supplyVoltage => "Supply Voltage" | .vr => "Firmware Version" | .wr => "Write"

/-- The catalog name: the mnemonic with its second letter lowercase; `SupplyVoltage` for `%V`. -/
def name (c : AtCommand) : String :=
  match c, c.mnemonic.toList with
  | .supplyVoltage, _ => "SupplyVoltage"
  | _, [a, b] => String.ofList [a, b.toLower]
  | _, cs => String.ofList cs

def code (c : AtCommand) : Bytes := c.mnemonic.toList.map fun ch => ch.toNat.toUInt8

def ofCode? (a b : UInt8) : Option AtCommand := all.find? fun c => c.code == [a, b]

structure UnknownCommand where
  text : String
  deriving DecidableEq, Repr

def UnknownCommand.message (e : UnknownCommand) : String :=
  "unknown AT command " ++ Text.quoted e.text

/-- The command a text names: blanks ignored, letters in either case, then exactly a mnemonic. -/
def parse (s : String) : Except UnknownCommand AtCommand :=
  let key := String.ofList ((Text.trimChars s.toList).map Char.toUpper)
  match all.find? fun c => c.mnemonic == key with
  | some c => .ok c
  | none => .error ⟨s⟩

end AtCommand

end RadioLink
