import RadioLink.Args.Grammar
import RadioLink.Args.Diagnostic
import RadioLink.Text.Similarity
/-! Reading the value of an argument. Integers are read digit by digit from the left after an
optional sign: the first character that is no digit, or the first digit that takes the number
out of range, decides the error. A ranged number is read as a signed 64-bit integer first and
then checked against its range. -/
namespace RadioLink
namespace Args

/-- Why a word is not an integer. -/
inductive IntError where
  | empty
  | invalidDigit
  | tooLarge
  | tooSmall
  deriving DecidableEq, Repr, Inhabited

def IntError.message : IntError → String
  | .empty => "cannot parse integer from empty string"
  | .invalidDigit => "invalid digit found in string"
  | .tooLarge => "number too large to fit in target type"
  | .tooSmall => "number too small to fit in target type"

def IntError.kindName : IntError → String
  | .empty => "Empty"
  | .invalidDigit => "InvalidDigit"
  | .tooLarge => "PosOverflow"
  | .tooSmall => "NegOverflow"

def readDigits (limit : Nat) (overflow : IntError) : List Char → Nat → Except IntError Nat
  | [], n => .ok n
  | c :: cs, n =>
    if c.isDigit then
      let m := n * 10 + (c.toNat - '0'.toNat)
      if m > limit then .error overflow else readDigits limit overflow cs m
    else .error .invalidDigit

/-- A signed integer between `-2^63` and `2^63 - 1`, with an optional sign. -/
def readInt64 (s : String) : Except IntError Int :=
  match s.toList with
  | [] => .error .empty
  | ['+'] | ['-'] => .error .invalidDigit
  | '-' :: ds => (readDigits (Nat.pow 2 63) .tooSmall ds 0).map fun n => -(n : Int)
  | '+' :: ds => (readDigits (Nat.pow 2 63 - 1) .tooLarge ds 0).map Int.ofNat
  | ds => (readDigits (Nat.pow 2 63 - 1) .tooLarge ds 0).map Int.ofNat

def readUnsigned (max : Nat) (s : String) : Except IntError Nat :=
  match s.toList with
  | [] => .error .empty
  | ['+'] | ['-'] => .error .invalidDigit
  | '+' :: ds => readDigits max .tooLarge ds 0
  | ds => readDigits max .tooLarge ds 0

def maxWord : Nat := Nat.pow 2 64 - 1

/-- Reads one value of an argument named `arg` in messages. -/
def ValueKind.read (kind : ValueKind) (arg : String) (raw : String) : Except Diagnostic Value :=
  match kind with
  | .text => .ok (.text raw)
  | .choice names =>
    if names.contains raw then .ok (.text raw)
    else .error (.badChoice raw arg names (Text.mostSimilar? raw names))
  | .ranged max =>
    match readInt64 raw with
    | .error e => .error (.invalid raw arg e.message)
    | .ok n =>
      if 0 ≤ n ∧ n ≤ (max : Int) then .ok (.number n.toNat)
      else .error (.invalid (toString n) arg (toString n ++ " is not in 0..=" ++ toString max))
  | .count =>
    match readUnsigned maxWord raw with
    | .error e => .error (.invalid raw arg e.message)
    | .ok n => .ok (.number n)
  | .command =>
    match AtCommand.parse raw with
    | .error e => .error (.invalid raw arg e.message)
    | .ok c => .ok (.command c)
  | .address =>
    match Address64.parse raw with
    | .error e => .error (.invalid raw arg e.message)
    | .ok a => .ok (.address a)

def Arg.read (a : Arg) (raw : String) : Except Diagnostic Value := a.kind.read a.spec raw

end Args
end RadioLink
