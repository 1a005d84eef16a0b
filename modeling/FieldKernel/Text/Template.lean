import FieldKernel.Text.Quoted

/-!
# Templates

A template is a text with directives, each of which stands for the one argument of the template: a
percent sign, perhaps flags, a width and a precision, and a letter that says in which form the
argument is shown. The argument here is never a number and never a row, so the letters that want
those are refused, and a second directive finds no argument left. A doubled percent sign stands for
itself.
-/

namespace FieldKernel.Text.Template

/-- Why a template cannot be filled in. -/
inductive Fault where
  /-- A directive asks for a member of the argument. -/
  | member (key : String)
  | incompleteKey
  | incomplete
  | widthTooBig
  | precisionTooBig
  | unsupported (letter : Char) (index : Nat)
  /-- A width or a precision that is to be taken from the arguments. -/
  | measure
  | noArgument
  | realNumber (letter : Char)
  | wholeNumber (letter : Char)
  | character
  | floatingPoint
  /-- A width for which there is no room. -/
  | noRoom
  /-- A number with too many digits to be written in what is shown. -/
  | unwritten
  deriving DecidableEq, Repr

/-- The letter in a complaint about it, if it can be shown. -/
def shownLetter (letter : Char) : String :=
  if 31 ≤ letter.toNat ∧ letter.toNat ≤ 126 then String.singleton letter else "?"

namespace Fault

/-- The wording of a fault, given the class of the argument. -/
def message (className : String) : Fault → String
  | member key => quoted key
  | incompleteKey => "incomplete format key"
  | incomplete => "incomplete format"
  | widthTooBig => "width too big"
  | precisionTooBig => "precision too big"
  | unsupported letter index =>
    "unsupported format character '" ++ shownLetter letter ++ "' (0x" ++
      String.ofList (Nat.toDigits 16 letter.toNat) ++ ") at index " ++ toString index
  | measure => "* wants int"
  | noArgument => "not enough arguments for format string"
  | realNumber letter =>
    "%" ++ String.singleton letter ++ " format: a real number is required, not " ++ className
  | wholeNumber letter =>
    "%" ++ String.singleton letter ++ " format: an integer is required, not " ++ className
  | character => "%c requires int or char"
  | floatingPoint => "must be real number, not " ++ className
  | noRoom => ""
  | unwritten => ""

/-- Whether it is the template itself that is wrong, and not what it wants of the argument. -/
def isMalformed : Fault → Bool
  | incompleteKey | incomplete | widthTooBig | precisionTooBig | unsupported _ _ => true
  | _ => false

end Fault

/-- The forms of the argument. -/
structure Argument where
  plain : Except Fault String
  listing : Except Fault String

/-- How a directive lays out what it shows. -/
structure Slot where
  leftAligned : Bool
  width : Nat
  precision? : Option Nat

namespace Slot

/-- A text cut to the precision and padded to the width. -/
def lay (slot : Slot) (text : String) : List Char :=
  let characters :=
    match slot.precision? with
    | none => text.toList
    | some precision => text.toList.take precision
  let padding := List.replicate (slot.width - characters.length) ' '
  if slot.leftAligned then characters ++ padding else padding ++ characters

end Slot

/-- A text in which all characters but the ASCII ones are escaped. -/
def escaped (text : String) : String :=
  let escape (character : Char) : List Char :=
    if character.toNat < 0x80 then [character]
    else if character.toNat < 0x100 then '\\' :: 'x' :: hexDigits 2 character.toNat
    else if character.toNat < 0x10000 then '\\' :: 'u' :: hexDigits 4 character.toNat
    else '\\' :: 'U' :: hexDigits 8 character.toNat
  String.ofList (text.toList.flatMap escape)

def greatestWidth : Nat := Nat.pow 2 63 - 1

/-- The greatest width that there is room for. -/
def greatestLaidWidth : Nat := Nat.pow 2 24

def greatestPrecision : Nat := Nat.pow 2 31 - 1

/-- A part of a template that was read, with what is left of the template. -/
abbrev Part (α : Type) := α × List Char

/-- The key behind an opening parenthesis, up to the parenthesis that closes it. -/
def key : Nat → List Char → Except Fault String
  | _, [] => .error .incompleteKey
  | depth, ')' :: rest =>
    match depth with
    | 0 => .ok ""
    | outer + 1 => (String.singleton ')' ++ ·) <$> key outer rest
  | depth, '(' :: rest => (String.singleton '(' ++ ·) <$> key (depth + 1) rest
  | depth, character :: rest => (String.singleton character ++ ·) <$> key depth rest

/-- A row of digits, which may be empty, as a number. -/
def number (rest : List Char) (greatest : Nat) (tooBig : Fault) : Except Fault (Part Nat) :=
  let digits := rest.takeWhile Char.isDigit
  let value := digits.foldl (fun value digit => 10 * value + (digit.toNat - '0'.toNat)) 0
  if greatest < value then .error tooBig else .ok (value, rest.dropWhile Char.isDigit)

/-- A width or a precision; one that is to come from the arguments is refused. -/
def measure (used : Bool) (rest : List Char) (greatest : Nat) (tooBig : Fault) :
    Except Fault (Part Nat) :=
  match rest with
  | '*' :: _ => .error (if used then .noArgument else .measure)
  | rest => number rest greatest tooBig

/-- The flags, the width and the precision of a directive. -/
def slot (used : Bool) (rest : List Char) : Except Fault (Part Slot) := do
  let isFlag (character : Char) : Bool := "-+ #0".toList.contains character
  let leftAligned := (rest.takeWhile isFlag).contains '-'
  let (width, rest) ← measure used (rest.dropWhile isFlag) greatestWidth .widthTooBig
  match rest with
  | '.' :: rest =>
    let (precision, rest) ← measure used rest greatestPrecision .precisionTooBig
    return (⟨leftAligned, width, some precision⟩, rest)
  | rest => return (⟨leftAligned, width, none⟩, rest)

/-- The letter of a directive, before which one size is passed over. -/
def letter (rest : List Char) : Except Fault (Part Char) :=
  let rest :=
    match rest with
    | 'h' :: rest | 'l' :: rest | 'L' :: rest => rest
    | rest => rest
  match rest with
  | [] => .error .incomplete
  | letter :: rest => .ok (letter, rest)

/-- What a letter shows of the argument. -/
def shown (argument : Argument) (letter : Char) (index : Nat) : Except Fault String :=
  if letter = 's' then argument.plain
  else if letter = 'r' then argument.listing
  else if letter = 'a' then escaped <$> argument.listing
  else if "diu".toList.contains letter then .error (.realNumber letter)
  else if "oxX".toList.contains letter then .error (.wholeNumber letter)
  else if letter = 'c' then .error .character
  else if "eEfFgG".toList.contains letter then .error .floatingPoint
  else .error (.unsupported letter index)

/-- What a directive shows, which is given from behind its percent sign. -/
def directive (argument : Argument) (length : Nat) (used : Bool) (rest : List Char) :
    Except Fault (Part (List Char)) := do
  match rest with
  | '(' :: rest => throw (.member (← key 0 rest))
  | rest =>
    let (slot, rest) ← slot used rest
    let (letter, rest) ← letter rest
    if used then
      throw .noArgument
    let text ← shown argument letter (length - rest.length - 1)
    if greatestLaidWidth < slot.width then
      throw .noRoom
    return (slot.lay text, rest)

/-- The rest of a template filled in; each directive takes at least one character of it. -/
def fillFrom (argument : Argument) (length : Nat) :
    Nat → Bool → List Char → Except Fault (List Char)
  | 0, _, _ => .ok []
  | _, _, [] => .ok []
  | fuel + 1, used, '%' :: '%' :: rest => ('%' :: ·) <$> fillFrom argument length fuel used rest
  | fuel + 1, used, '%' :: rest => do
    let (shown, rest) ← directive argument length used rest
    return shown ++ (← fillFrom argument length fuel true rest)
  | fuel + 1, used, character :: rest =>
    (character :: ·) <$> fillFrom argument length fuel used rest

def fill (template : String) (argument : Argument) : Except Fault String :=
  let characters := template.toList
  String.ofList <$> fillFrom argument characters.length characters.length false characters

end FieldKernel.Text.Template
