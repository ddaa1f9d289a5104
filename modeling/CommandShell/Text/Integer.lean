import CommandShell.Text.Blank
import CommandShell.Text.Digit

/-! Reading whole numbers written in decimal digits of any script. Underscores may
group digits, and a number may be no longer than a fixed count of digits. -/

namespace CommandShell.Text

inductive NumeralError where
  | malformed
  | tooLong (digits : Nat)
  deriving DecidableEq, Repr

def maxDigits : Nat := 4300

/-- Blanks that may surround a numeral. The information separators are not among
them, although they are blank elsewhere. -/
def isNumeralBlank (char : Char) : Bool :=
  isBlank char && !(0x1C ≤ char.toNat && char.toNat ≤ 0x1F)

/-- Add the digits of a numeral to the value read so far. `grouped` tells that the
character before was an underscore, which must be followed by a digit. -/
def accumulate (value : Nat) (grouped : Bool) : List Char → Option Nat
  | [] => if grouped then none else some value
  | char :: rest =>
    match decimalValue? char with
    | some digit => accumulate (10 * value + digit) false rest
    | none => if char = '_' && !grouped then accumulate value true rest else none

def readDigits : List Char → Option Nat
  | [] => none
  | char :: rest => (decimalValue? char).bind fun digit => accumulate digit false rest

def countDigits (chars : List Char) : Nat :=
  ((chars.takeWhile fun char => isDecimal char || char = '_').filter isDecimal).length

/-- Read a numeral without its sign. Length is judged before the rest of the text. -/
def readUnsigned (chars : List Char) : Except NumeralError Nat :=
  if maxDigits < countDigits chars then .error (.tooLong (countDigits chars))
  else match readDigits chars with
    | some value => .ok value
    | none => .error .malformed

/-- Read a whole number: blanks around it, at most one sign, then digits. -/
def readInteger (text : String) : Except NumeralError Int :=
  match trimBoth isNumeralBlank text.toList with
  | '-' :: digits => (readUnsigned digits).map fun value => -(value : Int)
  | '+' :: digits => (readUnsigned digits).map fun value => (value : Int)
  | digits => (readUnsigned digits).map fun value => (value : Int)

end CommandShell.Text
