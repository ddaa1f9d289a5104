import CommandShell.Text.Quoted

/-! Messages with gaps for arguments. A gap starts with a percent sign, may say how the
argument is laid out, and ends with a letter that tells how it is shown. Two percent
signs stand for one. All arguments are texts, so the letters for numbers refuse them. -/

namespace CommandShell.Log

inductive TemplateError where
  | tooFewArguments
  | tooManyArguments
  | incompleteGap
  | unknownGap (char : Char) (position : Nat)
  | namedGap
  /-- The layout of a gap asks for a number. -/
  | numberForLayout
  | widthTooBig
  | limitTooBig
  /-- A gap for one character gets a longer or an empty text. -/
  | oneCharacter
  /-- A gap for a decimal number gets a text. -/
  | decimalNumber (letter : Char)
  /-- A gap for a number to another base gets a text. -/
  | wholeNumber (letter : Char)
  /-- A gap for a number with a fraction gets a text. -/
  | realNumber
  | outOfMemory
  deriving DecidableEq, Repr

namespace TemplateError

/-- How an explanation shows a character. Outside ASCII it shows only the code. -/
def displayed (char : Char) : Char := if 31 ≤ char.toNat && char.toNat < 127 then char else '?'

def message : TemplateError → String
  | tooFewArguments => "not enough arguments for format string"
  | tooManyArguments => "not all arguments converted during string formatting"
  | incompleteGap => "incomplete format"
  | unknownGap char position =>
    "unsupported format character '" ++ String.singleton (displayed char) ++ "' (0x" ++
      String.ofList (Nat.toDigits 16 char.toNat) ++ ") at index " ++ toString position
  | namedGap => "format requires a mapping"
  | numberForLayout => "* wants int"
  | widthTooBig => "width too big"
  | limitTooBig => "precision too big"
  | oneCharacter => "%c requires int or char"
  | decimalNumber letter =>
    "%" ++ String.singleton letter ++ " format: a real number is required, not str"
  | wholeNumber letter =>
    "%" ++ String.singleton letter ++ " format: an integer is required, not str"
  | realNumber => "must be real number, not str"
  | outOfMemory => ""

end TemplateError

inductive Conversion where
  | plain
  | quoted
  | quotedAscii
  | character
  | decimal (letter : Char)
  | wholeNumber (letter : Char)
  | realNumber
  deriving DecidableEq, Repr

namespace Conversion

def ofChar? (char : Char) : Option Conversion :=
  match char with
  | 's' => some plain
  | 'r' => some quoted
  | 'a' => some quotedAscii
  | 'c' => some character
  | 'd' | 'i' | 'u' => some (decimal char)
  | 'o' | 'x' | 'X' => some (wholeNumber char)
  | 'e' | 'E' | 'f' | 'F' | 'g' | 'G' => some realNumber
  | _ => none

end Conversion

/-- The layout of a shown argument. Flags for numbers are read, but change no text. -/
structure Layout where
  leftAligned : Bool := false
  width : Nat := 0
  /-- The most characters to show. A text for one character is not cut. -/
  limit : Option Nat := none
  deriving DecidableEq, Repr

namespace Layout

def maxWidth : Nat := 1 <<< 63 - 1
def maxLimit : Nat := 1 <<< 31 - 1

def maxRoom : Nat := 1 <<< 26

def cut (layout : Layout) (shown : List Char) : List Char :=
  match layout.limit with
  | none => shown
  | some limit => shown.take limit

def pad (layout : Layout) (shown : List Char) : Except TemplateError (List Char) :=
  let spaces := List.replicate (layout.width - shown.length) ' '
  if maxRoom < layout.width then .error .outOfMemory
  else if layout.leftAligned then .ok (shown ++ spaces)
  else .ok (spaces ++ shown)

def apply (layout : Layout) (conversion : Conversion) (argument : String) :
    Except TemplateError (List Char) :=
  match conversion with
  | .plain => layout.pad (layout.cut argument.toList)
  | .quoted => layout.pad (layout.cut (Text.quoted argument).toList)
  | .quotedAscii => layout.pad (layout.cut (Text.quotedAscii argument).toList)
  | .character => if argument.length = 1 then layout.pad argument.toList else .error .oneCharacter
  | .decimal letter => .error (.decimalNumber letter)
  | .wholeNumber letter => .error (.wholeNumber letter)
  | .realNumber => .error .realNumber

end Layout

inductive Piece where
  | char (value : Char)
  | gap (layout : Layout) (conversion : Conversion)
  /-- A gap with this fault, which shows when the gap gets its argument. -/
  | faultyGap (error : TemplateError)
  /-- A gap that cannot be read. -/
  | broken (error : TemplateError)
  deriving DecidableEq, Repr

/-- Where in a message a reader is: outside of gaps, or behind a part of one. -/
inductive TemplateStage where
  | outside
  | percent
  | flags (layout : Layout)
  | width (layout : Layout)
  | point (layout : Layout)
  | limit (layout : Layout) (most : Nat)
  /-- Behind a size mark, which has no meaning. -/
  | sizeMark (layout : Layout)
  deriving DecidableEq, Repr

namespace TemplateStage

inductive Step where
  | next (stage : TemplateStage)
  | complete (piece : Piece)
  deriving DecidableEq, Repr

def digit? (char : Char) : Option Nat :=
  if char.isDigit then some (char.toNat - '0'.toNat) else none

def stepLetter (layout : Layout) (position : Nat) (char : Char) : Step :=
  match Conversion.ofChar? char with
  | some conversion => .complete (.gap layout conversion)
  | none => .complete (.faultyGap (.unknownGap char position))

def stepSizeMark (layout : Layout) (position : Nat) (char : Char) : Step :=
  if char = 'h' || char = 'l' || char = 'L' then .next (.sizeMark layout)
  else stepLetter layout position char

def stepLimit (layout : Layout) (limit position : Nat) (char : Char) : Step :=
  match digit? char with
  | some digit =>
    let limit := 10 * limit + digit
    if Layout.maxLimit < limit then .complete (.broken .limitTooBig)
    else .next (.limit layout limit)
  | none => stepSizeMark { layout with limit := some limit } position char

def stepWidth (layout : Layout) (position : Nat) (char : Char) : Step :=
  match digit? char with
  | some digit =>
    let width := 10 * layout.width + digit
    if Layout.maxWidth < width then .complete (.broken .widthTooBig)
    else .next (.width { layout with width })
  | none => if char = '.' then .next (.point layout) else stepSizeMark layout position char

def stepFlags (layout : Layout) (position : Nat) (char : Char) : Step :=
  if char = '-' then .next (.flags { layout with leftAligned := true })
  else if char = '+' || char = ' ' || char = '#' || char = '0' then .next (.flags layout)
  else if char = '*' then .complete (.faultyGap .numberForLayout)
  else stepWidth layout position char

def step (position : Nat) (char : Char) : TemplateStage → Step
  | outside => if char = '%' then .next percent else .complete (.char char)
  | percent =>
    if char = '%' then .complete (.char '%')
    else if char = '(' then .complete (.broken .namedGap)
    else stepFlags {} position char
  | flags layout => stepFlags layout position char
  | width layout => stepWidth layout position char
  | point layout =>
    if char = '*' then .complete (.faultyGap .numberForLayout)
    else stepLimit layout 0 position char
  | limit layout most => stepLimit layout most position char
  | sizeMark layout => stepLetter layout position char

def readFrom (stage : TemplateStage) (position : Nat) : List Char → List Piece
  | [] => if stage = outside then [] else [.broken .incompleteGap]
  | char :: rest =>
    match stage.step position char with
    | .next stage => readFrom stage (position + 1) rest
    | .complete piece => piece :: readFrom outside (position + 1) rest

end TemplateStage

namespace Piece

def ofText (message : String) : List Piece := TemplateStage.outside.readFrom 0 message.toList

/-- Put arguments into the gaps, in order. The first piece that fails decides. -/
def fill : List Piece → List String → Except TemplateError (List Char)
  | [], [] => .ok []
  | [], _ :: _ => .error .tooManyArguments
  | char value :: rest, arguments => (fill rest arguments).map (value :: ·)
  | broken error :: _, _ => .error error
  | gap _ _ :: _, [] | faultyGap _ :: _, [] => .error .tooFewArguments
  | faultyGap error :: _, _ :: _ => .error error
  | gap layout conversion :: rest, argument :: arguments => do
    let shown ← layout.apply conversion argument
    let later ← fill rest arguments
    return shown ++ later

end Piece

/-- Fill the gaps of a message. Without arguments a message is taken as it stands. -/
def fill (message : String) (arguments : List String) : Except TemplateError String :=
  if arguments.isEmpty then .ok message
  else (Piece.fill (Piece.ofText message) arguments).map String.ofList

end CommandShell.Log
