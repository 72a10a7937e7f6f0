/-
Module: TilerMapping.Numeral
Purpose: Numbers as text, written in decimal and hexadecimal and read as 32-bit words.
Main exports: Numeral.decimal, Numeral.hexadecimal, Numeral.ReadFault, Numeral.readDigits,
  Numeral.read
-/

namespace TilerMapping

namespace Numeral

/-- Decimal digits without a sign. -/
def decimal (n : Nat) : String := String.ofList (Nat.toDigits 10 n)

/-- Lower-case hexadecimal digits after `0x`. -/
def hexadecimal (n : Nat) : String := "0x" ++ String.ofList (Nat.toDigits 16 n)

/-- Decimal digits after a minus sign where the number is negative. -/
def signedDecimal (n : Int) : String :=
  if n < 0 then "-" ++ decimal n.natAbs else decimal n.natAbs

/-- Why a text is not the numeral of a 32-bit word. -/
inductive ReadFault where
  | empty
  | invalidDigit
  | positiveOverflow
deriving Repr, DecidableEq

/-- The value of an ASCII digit or letter, below the radix. -/
def digit? (radix : Nat) (c : Char) : Option Nat :=
  let value :=
    if '0' ≤ c ∧ c ≤ '9' then some (c.toNat - '0'.toNat)
    else if 'a' ≤ c ∧ c ≤ 'z' then some (c.toNat - 'a'.toNat + 10)
    else if 'A' ≤ c ∧ c ≤ 'Z' then some (c.toNat - 'A'.toNat + 10)
    else none
  value.filter (· < radix)

/-- Read digits from the left onto the value read so far.  At each character a foreign digit
is found before the word overflows. -/
def readDigits (radix : Nat) (value : Nat) : List Char → Except ReadFault UInt32
  | [] => .ok value.toUInt32
  | c :: rest =>
    match digit? radix c with
    | none => .error .invalidDigit
    | some d =>
      let next := value * radix + d
      if next < UInt32.size then readDigits radix next rest else .error .positiveOverflow

/-- Read an unsigned numeral: a plus sign may lead, and a sign alone is no digit. -/
def readUnsigned (radix : Nat) : List Char → Except ReadFault UInt32
  | [] => .error .empty
  | ['+'] => .error .invalidDigit
  | '+' :: digits => readDigits radix 0 digits
  | digits => readDigits radix 0 digits

/-- Read a 32-bit word: hexadecimal after `0x`, else decimal. -/
def read : List Char → Except ReadFault UInt32
  | '0' :: 'x' :: digits => readUnsigned 16 digits
  | digits => readUnsigned 10 digits

end Numeral

end TilerMapping
