import CommandShell.ShellError

/-! Splitting a line into words. A line is first read, character by character, into
symbols: characters that belong to words, and gaps between words. Runs of characters
are the words. What happens when a line ends inside a quote is a matter of policy. -/

namespace CommandShell

/-- What to do with a line that ends inside a quote or after an escape. -/
inductive QuoteMode where
  | permissive
  | strict
  deriving DecidableEq, Repr

inductive QuoteContext where
  | plain
  | escaped
  | single
  | double
  | escapedInDouble
  deriving DecidableEq, Repr

inductive QuoteMark where
  | single
  | double
  | backslash
  deriving DecidableEq, Repr

namespace QuoteMark

def char : QuoteMark → Char
  | single => '\''
  | double => '"'
  | backslash => '\\'

def text (mark : QuoteMark) : String := String.singleton mark.char

/-- The mark to report when several are open at once: quotes come before escapes,
for an escape inside a quote leaves the quote open too. -/
def ofOpen (inSingle inDouble escaping : Bool) : Option QuoteMark :=
  if inSingle then some single
  else if inDouble then some double
  else if escaping then some backslash
  else none

end QuoteMark

namespace QuoteContext

def inSingle (context : QuoteContext) : Bool := context = single

def inDouble (context : QuoteContext) : Bool := context = double || context = escapedInDouble

def escaping (context : QuoteContext) : Bool := context = escaped || context = escapedInDouble

def openMark (context : QuoteContext) : Option QuoteMark :=
  QuoteMark.ofOpen context.inSingle context.inDouble context.escaping

end QuoteContext

namespace Words

inductive Symbol where
  | char (char : Char)
  | gap
  deriving DecidableEq, Repr

/-- Only the space and the tab separate words; a line feed belongs to a word. -/
def isSeparator (char : Char) : Bool := char = ' ' || char = '\t'

/-- The characters that a backslash escapes inside double quotes. Before any other
one it stays in the word. -/
def escapesInDouble (char : Char) : Bool :=
  char = '$' || char = '\x60' || char = '"' || char = '\\' || char = '\n'

/-- Read one character: the symbols it completes, and the context that follows. -/
def step : QuoteContext → Char → List Symbol × QuoteContext
  | .escaped, char => ([.char char], .plain)
  | .escapedInDouble, char =>
    (if escapesInDouble char then [.char char] else [.char '\\', .char char], .double)
  | .single, char => if char = '\'' then ([], .plain) else ([.char char], .single)
  | .double, char =>
    if char = '"' then ([], .plain)
    else if char = '\\' then ([], .escapedInDouble)
    else ([.char char], .double)
  | .plain, char =>
    if char = '\\' then ([], .escaped)
    else if char = '\'' then ([], .single)
    else if char = '"' then ([], .double)
    else if isSeparator char then ([.gap], .plain)
    else ([.char char], .plain)

/-- Read characters in order, from a given context to the context at the end. -/
def scan : QuoteContext → List Char → List Symbol × QuoteContext
  | context, [] => ([], context)
  | context, char :: rest =>
    let (symbols, next) := step context char
    let (later, last) := scan next rest
    (symbols ++ later, last)

/-- Symbols supplied at the end of a line. A backslash that escapes nothing inside
double quotes stays in the word, as it does before an ordinary character. -/
def closing : QuoteContext → List Symbol
  | .escapedInDouble => [.char '\\']
  | _ => []

/-- Put a run in front of the words after it, unless it is empty. -/
def prepend (run : List Char) (words : List (List Char)) : List (List Char) :=
  if run.isEmpty then words else run :: words

/-- The run of characters at the start, and the words after it. -/
def runs : List Symbol → List Char × List (List Char)
  | [] => ([], [])
  | .char char :: rest => let (run, words) := runs rest; (char :: run, words)
  | .gap :: rest => let (run, words) := runs rest; ([], prepend run words)

def group (symbols : List Symbol) : List (List Char) :=
  let (run, words) := runs symbols
  prepend run words

/-- The words of a line. Strict quoting refuses a line that leaves a mark open;
permissive quoting takes what was read. -/
def split (mode : QuoteMode) (line : List Char) : Except QuoteMark (List (List Char)) :=
  let (symbols, last) := scan .plain line
  match mode, last.openMark with
  | .strict, some mark => .error mark
  | _, _ => .ok (group (symbols ++ closing last))

def openMark (line : List Char) : Option QuoteMark := (scan .plain line).2.openMark

end Words

def tokenize (line : String) (mode : QuoteMode) : Except ShellError (List String) :=
  match Words.split mode line.toList with
  | .ok words => .ok (words.map String.ofList)
  | .error mark => .error (.unterminatedQuote mark.text)

end CommandShell
