import WeatherRadar.Number.Reading
/-!
# Hexadecimal digits

Digits and their values, and bytes as two digits each, the high one first.
-/

namespace WeatherRadar

def hexValue? (c : Char) : Option Nat :=
  if isDecimalDigit c then some (decimalDigitValue c)
  else if 'a' ≤ c && c ≤ 'f' then some (c.toNat - 'a'.toNat + 10)
  else if 'A' ≤ c && c ≤ 'F' then some (c.toNat - 'A'.toNat + 10)
  else none

/-- The digit of a value, with letters from the one for ten on. -/
def hexDigit (ten : Char) (n : Nat) : Char :=
  if n < 10 then Char.ofNat ('0'.toNat + n) else Char.ofNat (ten.toNat + (n - 10))

def hexByte (ten : Char) (b : UInt8) : List Char :=
  [hexDigit ten (b.toNat / 16), hexDigit ten (b.toNat % 16)]

def hexText (bytes : List UInt8) : String :=
  bytes.foldl (fun out b => (hexByte 'a' b).foldl String.push out) ""

/-- The bytes of digits after those found, the last one of which comes first.  An odd digit at the
end is left out, and other characters count as zeros. -/
def hexBytesFrom (found : List UInt8) : List Char → List UInt8
  | high :: low :: rest =>
    let digit (c : Char) : Nat := (hexValue? c).getD 0
    hexBytesFrom (UInt8.ofNat (digit high * 16 + digit low) :: found) rest
  | _ => found.reverse

def hexBytes (text : String) : List UInt8 := hexBytesFrom [] text.toList

end WeatherRadar
