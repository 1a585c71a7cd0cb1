import RadioLink.Cli.Exit
import RadioLink.Duration
import RadioLink.Text.Blank
/-! Values typed on the command line: hex byte strings, durations such as `5s` or `500ms`,
frame type codes, and the value of a command given as hex or as text. A number is ASCII
digits with an optional leading `+`, and must fit its width. -/
namespace RadioLink
namespace Cli

def digitsValue? (base : Nat) (cs : List Char) : Option Nat :=
  if cs.isEmpty then none
  else cs.foldl (fun acc c => acc.bind fun n =>
    (Bytes.digitValue? c).bind fun d => if d < base then some (n * base + d) else none) (some 0)

def unsigned? (base max : Nat) (s : String) : Option Nat :=
  let cs := match s.toList with
    | '+' :: rest => rest
    | cs => cs
  match digitsValue? base cs with
  | some n => if n ≤ max then some n else none
  | none => none

def maxU64 : Nat := Nat.pow 2 64 - 1

/-- Hex bytes: blanks ignored, one leading `0x` dropped, an odd count padded with a leading zero. -/
def parseHexValue (input : String) : Except Failure Bytes :=
  let ds := Bytes.dropHexPrefix (input.toList.filter fun c => !Text.isBlank c)
  let padded := if ds.length % 2 = 1 then '0' :: ds else ds
  match (if ds.isEmpty then none else Bytes.ofHexDigits? padded) with
  | some bs => .ok bs
  | none => .error (.usage ("invalid hex value: " ++ input))

/-- A positive duration: a whole number then `ms`, `s` or nothing (seconds), blanks around ignored. -/
def parseDuration (input : String) : Except Failure Duration :=
  let t := Text.trim input
  if t.isEmpty then .error (.usage "duration must not be empty")
  else
    let cs := t.toList
    let (number, millis) :=
      if cs.length ≥ 2 ∧ cs.drop (cs.length - 2) = ['m', 's'] then (cs.take (cs.length - 2), true)
      else if cs.getLast? = some 's' then (cs.dropLast, false)
      else (cs, false)
    match unsigned? 10 maxU64 (String.ofList number) with
    | none => .error (.usage ("invalid duration value: " ++ t))
    | some 0 => .error (.usage "duration must be greater than zero")
    | some n => .ok (if millis then Duration.ofMillis n else Duration.ofSecs n)

def dropLeading (p cs : List Char) : List Char :=
  if p.isEmpty then cs else go cs.length cs
where
  go : Nat → List Char → List Char
    | 0, cs => cs
    | fuel + 1, cs => if p.isPrefixOf cs then go fuel (cs.drop p.length) else cs

/-- A frame type code in hex, after every leading `0x` and then every leading `0X` is dropped. -/
def parseFrameType (input : String) : Except Failure UInt8 :=
  let ds := dropLeading ['0', 'X'] (dropLeading ['0', 'x'] (Text.trimChars input.toList))
  match unsigned? 16 255 (String.ofList ds) with
  | some n => .ok n.toUInt8
  | none => .error (.usage ("invalid frame type: " ++ input))

def valueBytes (hex text : Option String) : Except Failure (Option Bytes) :=
  match hex, text with
  | some h, _ => (parseHexValue h).map some
  | none, some t => .ok (some t.toUTF8.toList)
  | none, none => .ok none

end Cli
end RadioLink
