import FieldKernel.Text.Blank

/-!
# Written numbers

A whole number is written as decimal digits of any script, with a sign in front or without one,
single underscores between digits, and blanks at both ends. The same digits, underscores and blanks
are allowed in a number with a fraction or an exponent.
-/

namespace FieldKernel.Text

/-- The digits zero of all scripts; the other nine digits follow each of them. -/
def zeroCodes : List Nat :=
  [0x30, 0x660, 0x6F0, 0x7C0, 0x966, 0x9E6, 0xA66, 0xAE6, 0xB66, 0xBE6, 0xC66, 0xCE6, 0xD66,
   0xDE6, 0xE50, 0xED0, 0xF20, 0x1040, 0x1090, 0x17E0, 0x1810, 0x1946, 0x19D0, 0x1A80, 0x1A90,
   0x1B50, 0x1BB0, 0x1C40, 0x1C50, 0xA620, 0xA8D0, 0xA900, 0xA9D0, 0xA9F0, 0xAA50, 0xABF0,
   0xFF10, 0x104A0, 0x10D30, 0x11066, 0x110F0, 0x11136, 0x111D0, 0x112F0, 0x11450, 0x114D0,
   0x11650, 0x116C0, 0x11730, 0x118E0, 0x11950, 0x11C50, 0x11D50, 0x11DA0, 0x16A60, 0x16AC0,
   0x16B50, 0x1D7CE, 0x1D7D8, 0x1D7E2, 0x1D7EC, 0x1D7F6, 0x1E140, 0x1E2F0, 0x1E950, 0x1FBF0]

/-- The value of a decimal digit. -/
def digitValue? (character : Char) : Option Nat :=
  (zeroCodes.find? fun first => first ≤ character.toNat && character.toNat < first + 10).map
    (character.toNat - ·)

/-- The digits that characters begin with, single underscores between them left out, and what
follows. An underscore that does not stand between two digits is refused. -/
def leadingDigits? : List Char → Option (List Nat × List Char)
  | [] => some ([], [])
  | character :: rest =>
    match digitValue? character, rest with
    | none, rest => if character = '_' then none else some ([], character :: rest)
    | some value, '_' :: next :: rest =>
      if (digitValue? next).isSome then (leadingDigits? (next :: rest)).map (Prod.map (value :: ·) id)
      else none
    | some value, rest => (leadingDigits? rest).map (Prod.map (value :: ·) id)

/-- The number with the given decimal digits. -/
def numberOf (digits : List Nat) : Nat :=
  digits.foldl (fun number digit => 10 * number + digit) 0

/-- The most digits that a whole number is read from and written with. -/
def digitLimit : Nat :=
  4300

/-- Whether a whole number has more digits than the host writes. -/
def isTooLong (value : Int) : Bool :=
  -- A number has at most one decimal digit for each of its binary ones.
  digitLimit < value.natAbs.log2 + 1 && Nat.pow 10 digitLimit ≤ value.natAbs

/-- Why a text is not read as a whole number. -/
inductive IntegerFault where
  | malformed
  /-- There are too many digits, whatever follows them. -/
  | long (digits : Nat)
  deriving DecidableEq, Repr

/-- Reads a whole number from its sign on; only blanks may follow it. -/
def signedInteger (negative : Bool) (characters : List Char) : Except IntegerFault Int :=
  match leadingDigits? characters with
  | none => .error .malformed
  | some (digits, rest) =>
    if digits.isEmpty then .error .malformed
    else if digitLimit < digits.length then .error (.long digits.length)
    else if rest.all isNumeralBlank then
      .ok (if negative then -(numberOf digits : Int) else numberOf digits)
    else .error .malformed

/-- Reads a whole number. -/
def integer (text : String) : Except IntegerFault Int :=
  match text.toList.dropWhile isNumeralBlank with
  | '-' :: rest => signedInteger true rest
  | '+' :: rest => signedInteger false rest
  | rest => signedInteger false rest

/-- Characters of a written number with the digits of all scripts in their ASCII form and without
the underscores; an underscore that does not stand between two digits is refused. -/
def plainNumeral? : List Char → Option (List Char)
  | [] => some []
  | '_' :: _ => none
  | character :: rest =>
    match digitValue? character, rest with
    | none, rest => (plainNumeral? rest).map (character :: ·)
    | some value, '_' :: next :: rest =>
      if (digitValue? next).isSome then
        (plainNumeral? (next :: rest)).map (Nat.digitChar value :: ·)
      else none
    | some value, rest => (plainNumeral? rest).map (Nat.digitChar value :: ·)

end FieldKernel.Text
