import Solvela.Foundations.Doubles
import Solvela.Http
import Solvela.Integers

/-
  Decimal numbers in texts, and the floats they are read as.

  A text is read as a sign, digits with at most one point
  among them, and an exponent of ten.  The float is the one
  that is nearest to what the text says.

  Key definitions include:
    * `Decimal`, `Decimal.value`, `Decimal.nearest`
    * `decimalFromStr`
    * `f64FromStr`
-/

------------------------------------------------------------
-- Decimals
------------------------------------------------------------

namespace Solvela

/- A number in decimal notation. -/
structure Decimal where
  negative : Bool
  digits : Nat
  exponent : Int
  deriving DecidableEq

namespace Decimal

/- The number that is written. -/
def value
    (d : Decimal) : ℚ :=
  (if d.negative then -1 else 1) * (d.digits * 10 ^ d.exponent)

/- The float that is nearest to it. -/
def nearest
    (d : Decimal) : Float.Model :=
  if d.negative then
    -Float.Model.ofScientific d.digits d.exponent
  else
    Float.Model.ofScientific d.digits d.exponent

end Decimal

end Solvela

------------------------------------------------------------
-- Reading
------------------------------------------------------------

namespace Solvela

/- The digits that a text begins with, and what follows. -/
def splitDigits : List Char → List Nat × List Char
| [] => ([], [])
| c :: text =>
    match digitValue c with
    | none => ([], c :: text)
    | some digit =>
        (digit :: (splitDigits text).1, (splitDigits text).2)

/- The number that some digits spell. -/
def numberOf
    (digits : List Nat) : Nat :=
  digits.foldl (fun total digit => total * 10 + digit) 0

/- A text of one digit or more. -/
def parseWhole
    (text : List Char) : Option Nat :=
  match splitDigits text with
  | ([], _) => none
  | (digits, []) => some (numberOf digits)
  | _ => none

/- The exponent that a text ends with, if any. -/
def parseExponent : List Char → Option Int
| [] => some 0
| c :: text =>
    if c = 'e' ∨ c = 'E' then
      match text with
      | '-' :: text => (parseWhole text).map (fun n => -(n : Int))
      | '+' :: text => (parseWhole text).map Int.ofNat
      | text => (parseWhole text).map Int.ofNat
    else
      none

/- Digits on either side of the point will do. -/
def parseNumber
    (negative : Bool)
    (text : List Char) : Option Decimal :=
  let whole := splitDigits text
  let fraction :=
    match whole.2 with
    | '.' :: text => splitDigits text
    | text => ([], text)
  if whole.1 ++ fraction.1 = [] then
    none
  else
    (parseExponent fraction.2).map (fun exponent =>
      { negative := negative
        digits := numberOf (whole.1 ++ fraction.1)
        exponent := exponent - fraction.1.length })

/- What follows the sign, if any, and whether it is minus. -/
def splitSign : List Char → Bool × List Char
| '-' :: text => (true, text)
| '+' :: text => (false, text)
| text => (false, text)

/- A text read as a decimal, with an optional sign. -/
def decimalFromStr
    (text : String) : Option Decimal :=
  parseNumber (splitSign text.toList).1 (splitSign text.toList).2

/- Read a float, as `f64::from_str` does. -/
def f64FromStr
    (text : String) : Except String Float.Model :=
  if text = "" then
    .error "cannot parse float from empty string"
  else
    match decimalFromStr text with
    | some d => .ok d.nearest
    | none =>
        let sign :=
          if (splitSign text.toList).1 then
            Float.Model.UnpackedFloat.Sign.negative
          else
            Float.Model.UnpackedFloat.Sign.positive
        let rest :=
          lowercase (String.ofList (splitSign text.toList).2)
        if rest = "inf" ∨ rest = "infinity" then
          .ok (Float.Model.pack (.infinity sign))
        else if rest = "nan" then
          .ok (Float.Model.pack .notANumber)
        else
          .error "invalid float literal"

example :
    decimalFromStr "-12.50e-3" = some ⟨true, 1250, -5⟩ := by
  decide

/- A text with a decimal value is read as the nearest float. -/
theorem f64FromStr_of_decimal
    {text : String}
    {d : Decimal}
    (hText : decimalFromStr text = some d) :
    f64FromStr text = .ok d.nearest := by
  have hNonempty : text ≠ "" := by
    rintro rfl
    cases hText
  unfold f64FromStr
  rw [if_neg hNonempty, hText]

end Solvela
