import RadioLink.Bytes
/-! Quoted text as diagnostics show it: the text between double quotes, with a backslash
before a quote or a backslash, the short escapes for NUL, tab, carriage return and line feed,
and `\u{hex}` for every character that is not printable or that extends a grapheme. Printable
characters, ASCII or not, stand as they are. -/
namespace RadioLink
namespace Text

/-- Characters shown by number: controls, format and private-use characters, most separators, marks. -/
def isHidden (c : Char) : Bool :=
  let n := c.toNat
  let within := fun (lo hi : Nat) => lo ≤ n && n ≤ hi
  n < 32 || within 0x7F 0x9F || n == 0xA0 || n == 0xAD || n == 0x1680 ||
    within 0x2000 0x200F || within 0x2028 0x202F || within 0x205F 0x2064 ||
    within 0x2066 0x206F || n == 0x3000 || n == 0xFEFF || within 0xFFF9 0xFFFB ||
    within 0x0600 0x0605 || n == 0x061C || n == 0x06DD || n == 0x070F || n == 0x180E ||
    within 0xE000 0xF8FF || within 0xFDD0 0xFDEF || n % 0x10000 ≥ 0xFFFE ||
    within 0xF0000 0x10FFFF || within 0xE0000 0xE0FFF ||
    within 0x0300 0x036F || within 0x0483 0x0489 || within 0x1AB0 0x1AFF ||
    within 0x1DC0 0x1DFF || within 0x20D0 0x20FF || within 0xFE00 0xFE0F ||
    within 0xFE20 0xFE2F

def hexDigits (n : Nat) : String :=
  if n < 16 then (Bytes.digitLower n).toString
  else hexDigits (n / 16) ++ (Bytes.digitLower (n % 16)).toString
termination_by n
decreasing_by omega

def quoteChar (c : Char) : String :=
  if c = '"' then "\\\""
  else if c = '\\' then "\\\\"
  else if c.toNat = 0 then "\\0"
  else if c = '\t' then "\\t"
  else if c = '\r' then "\\r"
  else if c = '\n' then "\\n"
  else if isHidden c then "\\u\x7b" ++ hexDigits c.toNat ++ "\x7d"
  else c.toString

/-- `s` between double quotes, escaped character by character. -/
def quoted (s : String) : String := "\"" ++ String.join (s.toList.map quoteChar) ++ "\""

end Text
end RadioLink
