/-!
# Blank characters

The characters that are trimmed from both ends of a setting: those of bidirectional class B, S or
WS, and the space separators. A written number is trimmed of them too, except for the four
separators of information among the control characters.
-/

namespace FieldKernel.Text

/-- The code points of all blank characters. -/
def blankCodes : List Nat :=
  [0x9, 0xA, 0xB, 0xC, 0xD, 0x1C, 0x1D, 0x1E, 0x1F, 0x20, 0x85, 0xA0, 0x1680, 0x2000, 0x2001,
   0x2002, 0x2003, 0x2004, 0x2005, 0x2006, 0x2007, 0x2008, 0x2009, 0x200A, 0x2028, 0x2029,
   0x202F, 0x205F, 0x3000]

def isBlank (character : Char) : Bool :=
  blankCodes.contains character.toNat

/-- Every character of the narrower class of ASCII blanks is blank. -/
theorem isBlank_of_isWhitespace {character : Char} (blank : character.isWhitespace) :
    isBlank character := by
  simp only [Char.isWhitespace, Bool.or_eq_true, decide_eq_true_eq] at blank
  rcases blank with ((rfl | rfl) | rfl) | rfl <;> decide

/-- Whether a character may stand around a written number: of the ASCII characters only the blank
and those that advance the line or the page. -/
def isNumeralBlank (character : Char) : Bool :=
  if character.toNat < 128 then
    character.toNat = 0x20 || (0x9 ≤ character.toNat && character.toNat ≤ 0xD)
  else isBlank character

/-- Characters without those of a class at their ends. -/
def trimBy (blank : Char → Bool) (characters : List Char) : List Char :=
  ((characters.dropWhile blank).reverse.dropWhile blank).reverse

/-- A text without the blanks at its ends. -/
def trim (text : String) : String :=
  String.ofList (trimBy isBlank text.toList)

end FieldKernel.Text
