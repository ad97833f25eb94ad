/-!
# Numerals

Reading integers from text and writing them in hexadecimal.  A numeral is an optional sign and at least
one digit, and its value has to fit the word it is read for.
-/

namespace RegisterMap
namespace Numeral

/-- The value of a digit in a base of at most sixteen.  Letters of either case are digits from ten on. -/
def digit? (base : Nat) (c : Char) : Option Nat :=
  let value :=
    if '0' ≤ c ∧ c ≤ '9' then c.toNat - 48
    else if 'a' ≤ c ∧ c ≤ 'f' then c.toNat - 87
    else if 'A' ≤ c ∧ c ≤ 'F' then c.toNat - 55
    else base
  if value < base then some value else none

/-- The number that a list of digits stands for, most significant digit first. -/
def ofDigits (base : Nat) (digits : List Nat) : Nat :=
  digits.foldl (fun value digit => value * base + digit) 0

/-- A number without a sign: one digit or more. -/
def natural? (base : Nat) (cs : List Char) : Option Nat :=
  if cs.isEmpty then none else (cs.mapM (digit? base)).map (ofDigits base)

/-- A number with an optional sign. -/
def integer? (base : Nat) : List Char → Option Int
  | '-' :: cs => (natural? base cs).map fun (n : Nat) => -(n : Int)
  | '+' :: cs => (natural? base cs).map Int.ofNat
  | cs => (natural? base cs).map Int.ofNat

/-- The number of values of a word of that many bits: two to the power of it. -/
def wordSize (bits : Nat) : Nat :=
  Nat.pow 2 bits

/-- The value is one of a signed word of that many bits. -/
def fitsSigned (bits : Nat) (value : Int) : Bool :=
  decide (-(wordSize (bits - 1) : Int) ≤ value) && decide (value < (wordSize (bits - 1) : Int))

/-- The value is one of an unsigned word of that many bits. -/
def fitsUnsigned (bits : Nat) (value : Nat) : Bool :=
  decide (value < wordSize bits)

/-- A number for a signed word: `+` or `-` may come first. -/
def signed? (base bits : Nat) (cs : List Char) : Option Int :=
  (integer? base cs).filter (fitsSigned bits)

/-- A number for an unsigned word: `+` may come first. -/
def unsigned? (base bits : Nat) (cs : List Char) : Option Nat :=
  let digits := match cs with
    | '+' :: rest => rest
    | _ => cs
  (natural? base digits).filter (fitsUnsigned bits)

/-- The digits of a number in lower-case hexadecimal. -/
def hexDigits (n : Nat) : List Char :=
  Nat.toDigits 16 n

/-- A number in hexadecimal, with the mark `0x` before it. -/
def hex (n : Nat) : String :=
  "0x" ++ String.ofList (hexDigits n)

/-- A number in hexadecimal with at least eight digits, zeros filling the front. -/
def hexPadded (n : Nat) : String :=
  let digits := hexDigits n
  "0x" ++ String.ofList (List.replicate (8 - digits.length) '0' ++ digits)

/-- The unsigned word of that many bits with the same bits as the value: two's complement. -/
def twosComplement (bits : Nat) (value : Int) : Nat :=
  (value % (wordSize bits : Int)).toNat

end Numeral
end RegisterMap
