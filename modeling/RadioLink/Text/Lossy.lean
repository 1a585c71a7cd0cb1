import RadioLink.Bytes
/-! Reading UTF-8 text that may be broken. Well-formed sequences become their characters;
each maximal piece of a sequence that cannot be completed becomes one replacement character
`U+FFFD`, and decoding goes on after it. -/
namespace RadioLink
namespace Text

def replacement : Char := '�'

def isTrail (b : UInt8) : Bool := 0x80 ≤ b && b ≤ 0xBF

/-- The range of the second byte after a lead byte; narrower after `E0`, `ED`, `F0` and `F4`. -/
def secondOk (lead b : UInt8) : Bool :=
  if lead = 0xE0 then 0xA0 ≤ b && b ≤ 0xBF
  else if lead = 0xED then 0x80 ≤ b && b ≤ 0x9F
  else if lead = 0xF0 then 0x90 ≤ b && b ≤ 0xBF
  else if lead = 0xF4 then 0x80 ≤ b && b ≤ 0x8F
  else isTrail b

def assemble (leadBits : Nat) (trail : List UInt8) : Char :=
  Char.ofNat (trail.foldl (fun acc b => acc * 64 + (b.toNat % 64)) leadBits)

def lossyAux : Bytes → List Char → List Char
  | [], acc => acc.reverse
  | a :: rest, acc =>
    if a < 0x80 then lossyAux rest (Char.ofNat a.toNat :: acc)
    else if 0xC2 ≤ a && a ≤ 0xDF then
      match rest with
      | b :: rest' =>
        if isTrail b then lossyAux rest' (assemble (a.toNat % 32) [b] :: acc)
        else lossyAux (b :: rest') (replacement :: acc)
      | [] => lossyAux [] (replacement :: acc)
    else if 0xE0 ≤ a && a ≤ 0xEF then
      match rest with
      | b :: c :: rest' =>
        if !secondOk a b then lossyAux (b :: c :: rest') (replacement :: acc)
        else if isTrail c then lossyAux rest' (assemble (a.toNat % 16) [b, c] :: acc)
        else lossyAux (c :: rest') (replacement :: acc)
      | [b] =>
        if secondOk a b then lossyAux [] (replacement :: acc)
        else lossyAux [b] (replacement :: acc)
      | [] => lossyAux [] (replacement :: acc)
    else if 0xF0 ≤ a && a ≤ 0xF4 then
      match rest with
      | b :: c :: d :: rest' =>
        if !secondOk a b then lossyAux (b :: c :: d :: rest') (replacement :: acc)
        else if !isTrail c then lossyAux (c :: d :: rest') (replacement :: acc)
        else if isTrail d then lossyAux rest' (assemble (a.toNat % 8) [b, c, d] :: acc)
        else lossyAux (d :: rest') (replacement :: acc)
      | [b, c] =>
        if !secondOk a b then lossyAux [b, c] (replacement :: acc)
        else if isTrail c then lossyAux [] (replacement :: acc)
        else lossyAux [c] (replacement :: acc)
      | [b] =>
        if secondOk a b then lossyAux [] (replacement :: acc)
        else lossyAux [b] (replacement :: acc)
      | [] => lossyAux [] (replacement :: acc)
    else lossyAux rest (replacement :: acc)
termination_by bs => bs.length

/-- The text of a byte string read as UTF-8, a replacement character for each broken piece. -/
def ofUtf8Lossy (bs : Bytes) : String := String.ofList (lossyAux bs [])

end Text
end RadioLink
