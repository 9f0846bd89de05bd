import FlowPriority.Decimal.Shortest

/-!
Written doubles: the shortest digits that read back, laid out positionally or in scientific form.
-/

namespace FlowPriority.Decimal

structure Style where
  /-- The powers of ten of a leading digit that are written positionally. -/
  positional : Int → Bool
  /-- Whether a whole number in positional form keeps a fraction of one zero. -/
  keepsFraction : Bool

namespace Style

def plain : Style := ⟨fun _ => true, false⟩

def scientific : Style := ⟨fun _ => false, false⟩

/-- Positional from a ten-thousandth up to ten quadrillion, and always marked as no integer. -/
def marked : Style := ⟨fun power => -4 ≤ power ∧ power < 16, true⟩

def zeros (count : Nat) : List Char := List.replicate count '0'

/-- Digits with the point after the first `whole` of them. -/
def positionalText (style : Style) (digits : List Char) (whole : Int) : List Char :=
  if whole ≤ 0 then ['0', '.'] ++ zeros (-whole).toNat ++ digits
  else if whole < digits.length then
    digits.take whole.toNat ++ ['.'] ++ digits.drop whole.toNat
  else
    digits ++ zeros (whole - digits.length).toNat ++ (if style.keepsFraction then ['.', '0'] else [])

def scientificText (digits : List Char) (power : Int) : List Char :=
  digits.take 1 ++ (if digits.length ≤ 1 then [] else '.' :: digits.drop 1) ++
    ['e'] ++ (toString power).toList

def layOut (style : Style) (decimal : Decimal) : List Char :=
  let digits := Nat.toDigits 10 decimal.coefficient
  let power := decimal.exponent + digits.length - 1
  if style.positional power then style.positionalText digits (power + 1)
  else scientificText digits power

def signText : Float.Model.UnpackedFloat.Sign → List Char
  | .positive => []
  | .negative => ['-']

def text (style : Style) (double : Float) : List Char :=
  match double.toModel.unpack with
  | .notANumber => ['N', 'a', 'N']
  | .infinity sign => signText sign ++ ['i', 'n', 'f']
  | .zero sign => signText sign ++ style.layOut ⟨0, 0⟩
  | .finite sign mantissa exponent _ => signText sign ++ style.layOut (shortest mantissa exponent)

def write (style : Style) (double : Float) : String := String.ofList (style.text double)

end Style

end FlowPriority.Decimal
