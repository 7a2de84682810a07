import OutletWiring.Text.Basic

/-! How numbers are written: whole ones, and those with a fraction or an exponent. -/

namespace OutletWiring.Text

def isDigits (text : Text) : Bool :=
  !text.isEmpty && text.all Char.isDigit

/-- The whole number that digits, maybe after a plus sign, stand for. -/
def wholeNumber? (text : Text) : Option Nat :=
  let digits := (afterPrefix? "+" text).getD text
  if isDigits digits then
    some (digits.foldl (fun value digit => 10 * value + (digit.toNat - '0'.toNat)) 0)
  else none

def withoutSign : Text → Text
  | '+' :: rest => rest
  | '-' :: rest => rest
  | text => text

/-- What may follow the digits of a number: nothing, or a mark and a whole exponent. -/
def isExponent : Text → Bool
  | [] => true
  | mark :: exponent => (mark == 'e' || mark == 'E') && isDigits (withoutSign exponent)

/-- Digits before the point or after it, or the name of a number that is not finite. -/
def isNumber (text : Text) : Bool :=
  let body := withoutSign text
  let whole := body.takeWhile Char.isDigit
  match body.drop whole.length with
  | '.' :: rest =>
    let fraction := rest.takeWhile Char.isDigit
    !(whole ++ fraction).isEmpty && isExponent (rest.drop fraction.length)
  | rest =>
    (!whole.isEmpty && isExponent rest) ||
      ([("inf" : Text), "infinity", "nan"].contains (body.map Char.toLower))

end OutletWiring.Text
