import FlowPriority.Double

/-!
Reading a double from text: an optional sign, then either a decimal number with an optional
exponent or the name of a special value. Nothing may stand around it, not even blanks.
-/

namespace FlowPriority.Decimal

inductive ReadError where
  | empty
  | invalid
deriving DecidableEq

/-- A row of digits and nothing else, with an optional sign before it. -/
def readSigned? (text : List Char) : Option Int :=
  let magnitude? (digits : List Char) : Option Nat :=
    if digits.isEmpty || !digits.all Char.isDigit then none else some (Nat.ofDigitChars 10 digits 0)
  match text with
  | '-' :: digits => (magnitude? digits).map fun value => -(value : Int)
  | '+' :: digits => (magnitude? digits).map fun value => (value : Int)
  | digits => (magnitude? digits).map fun value => (value : Int)

/-- What may follow the digits of a number: nothing, or `e` and a power of ten. -/
def readPower? : List Char → Option Int
  | [] => some 0
  | mark :: power => if mark = 'e' ∨ mark = 'E' then readSigned? power else none

/--
The double nearest to `coefficient * 10 ^ exponent`. Far beyond either end of the doubles the
answer is known without computing the power.
-/
def nearestDouble (coefficient : Nat) (exponent : Int) : Float :=
  let magnitude := (Nat.toDigits 10 coefficient).length + exponent
  if coefficient = 0 then 0.0
  else if 310 < magnitude then Double.infinity
  else if magnitude < -330 then 0.0
  else Float.ofScientific coefficient (exponent < 0) exponent.natAbs

def readNumber? (text : List Char) : Option Float :=
  let whole := text.takeWhile Char.isDigit
  let rest := text.dropWhile Char.isDigit
  let (fraction, tail) :=
    match rest with
    | '.' :: digits => (digits.takeWhile Char.isDigit, digits.dropWhile Char.isDigit)
    | _ => ([], rest)
  if whole.isEmpty && fraction.isEmpty then none
  else (readPower? tail).map fun power =>
    nearestDouble (Nat.ofDigitChars 10 (whole ++ fraction) 0) (power - fraction.length)

def readSpecial? (text : List Char) : Option Float :=
  let name := String.ofList (text.map Char.toLower)
  if name = "inf" ∨ name = "infinity" then some Double.infinity
  else if name = "nan" then some Double.notANumber
  else none

def readMagnitude? (text : List Char) : Option Float :=
  (readNumber? text).or (readSpecial? text)

def read (text : List Char) : Except ReadError Float :=
  let magnitude (rest : List Char) : Except ReadError Float :=
    match readMagnitude? rest with
    | some double => .ok double
    | none => .error .invalid
  match text with
  | [] => .error .empty
  | '-' :: rest => (magnitude rest).map Float.neg
  | '+' :: rest => magnitude rest
  | rest => magnitude rest

end FlowPriority.Decimal
