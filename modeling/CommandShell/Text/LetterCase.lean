/-! Letter case for comparison with words spelled in ASCII. Besides the ASCII
letters, only a few characters have a single ASCII letter as their other case. -/

namespace CommandShell.Text

/-- The capital of a letter where that is one ASCII letter. The dotless i and the
long s are the two letters outside ASCII that have such a capital. -/
def capital (char : Char) : Char :=
  if char = 'ı' then 'I' else if char = 'ſ' then 'S' else char.toUpper

/-- The small letter where that is one ASCII letter. Outside ASCII only the kelvin
sign has one. -/
def small (char : Char) : Char :=
  if char.toNat = 0x212A then 'k' else char.toLower

def capitals (text : String) : String := String.ofList (text.toList.map capital)

def smalls (text : String) : String := String.ofList (text.toList.map small)

end CommandShell.Text
