import CommandShell.Text.Printable

/-! The quoted display of texts, used wherever a message has to show a value
exactly. Unprintable characters appear as escapes, so a displayed text is one
printable line. -/

namespace CommandShell.Text

def hexDigits : (width : Nat) → Nat → List Char
  | 0, _ => []
  | width + 1, code => hexDigits width (code / 16) ++ [Nat.digitChar (code % 16)]

/-- An escape by number takes the shortest of the three widths that can hold it. -/
def numericEscape (code : Nat) : List Char :=
  if code < 0x100 then '\\' :: 'x' :: hexDigits 2 code
  else if code < 0x10000 then '\\' :: 'u' :: hexDigits 4 code
  else '\\' :: 'U' :: hexDigits 8 code

/-- The display of one character between the given quotes. `shows` tells which
characters stand for themselves. -/
def displayChar (shows : Char → Bool) (quote char : Char) : List Char :=
  if char = quote || char = '\\' then ['\\', char]
  else if char = '\t' then ['\\', 't']
  else if char = '\n' then ['\\', 'n']
  else if char = '\r' then ['\\', 'r']
  else if shows char then [char]
  else numericEscape char.toNat

/-- Single quotes surround a text, unless it holds one and no double quote. -/
def displayQuote (chars : List Char) : Char :=
  if chars.contains '\'' && !chars.contains '"' then '"' else '\''

/-- The quoted display of a text, in which only some characters stand for themselves. -/
def quotedShowing (shows : Char → Bool) (text : String) : String :=
  let chars := text.toList
  let quote := displayQuote chars
  String.ofList (quote :: chars.flatMap (displayChar shows quote) ++ [quote])

def quoted (text : String) : String := quotedShowing isPrintable text

def isPlain (char : Char) : Bool := isPrintable char && char.toNat < 128

def quotedAscii (text : String) : String := quotedShowing isPlain text

def quotedList (texts : List String) : String :=
  "[" ++ ", ".intercalate (texts.map quoted) ++ "]"

end CommandShell.Text
