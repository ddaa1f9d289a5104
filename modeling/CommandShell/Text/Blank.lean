/-! Blank characters and the removal of blanks around a text. The class is the
Unicode one for white space, together with the four information separators. -/

namespace CommandShell.Text

/-- White space of any script, with the separators U+001C to U+001F and the next
line character. A superset of the six ASCII blanks. -/
def isBlank (char : Char) : Bool :=
  let code := char.toNat
  (9 ≤ code && code ≤ 13) || (0x1C ≤ code && code ≤ 0x20) || code == 0x85 || code == 0xA0 ||
    code == 0x1680 || (0x2000 ≤ code && code ≤ 0x200A) || code == 0x2028 || code == 0x2029 ||
    code == 0x202F || code == 0x205F || code == 0x3000

def trimBoth (drop : Char → Bool) (chars : List Char) : List Char :=
  ((chars.dropWhile drop).reverse.dropWhile drop).reverse

/-- The text without the blanks at its ends. Blanks between other characters stay. -/
def strip (text : String) : String :=
  String.ofList (trimBoth isBlank text.toList)

end CommandShell.Text
