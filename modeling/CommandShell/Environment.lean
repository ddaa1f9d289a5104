/-! The variables that a process hands to the programs it starts. Every name has at
most one value. -/

namespace CommandShell

abbrev Environment := List (String × String)

namespace Environment

def get? (environment : Environment) (name : String) : Option String := environment.lookup name

def getD (environment : Environment) (name : String) : String :=
  (environment.get? name).getD ""

def nonEmpty? (environment : Environment) (name : String) : Option String :=
  (environment.get? name).filter (· ≠ "")

def erase (environment : Environment) (name : String) : Environment :=
  environment.filter (·.1 ≠ name)

def set (environment : Environment) (name value : String) : Environment :=
  environment.erase name ++ [(name, value)]

end Environment

end CommandShell
