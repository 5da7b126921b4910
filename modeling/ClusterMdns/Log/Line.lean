/-!
Lines of the log: how much a line matters, which part of the program it comes from, what it says and
the particulars that follow.
-/

namespace ClusterMdns.Log

/-- How much a line matters. -/
inductive Level where
  | error
  | warn
  | info
  | debug
  | trace
deriving DecidableEq, Repr, Inhabited

namespace Level

/-- The position of a level; what matters most comes first. -/
def rank : Level → Nat
  | error => 1
  | warn => 2
  | info => 3
  | debug => 4
  | trace => 5

def name : Level → String
  | error => "ERROR"
  | warn => "WARN"
  | info => "INFO"
  | debug => "DEBUG"
  | trace => "TRACE"

end Level

/-- A line of the log. -/
structure Line where
  level : Level
  target : String
  message : String
  particulars : List (String × String)
deriving DecidableEq, Repr, Inhabited

namespace Line

/-- A particular as it is written. -/
def particularText (particular : String × String) : String := particular.1 ++ "=" ++ particular.2

/-- The names of the particulars of a line; what it says is one of them. -/
def names (line : Line) : List String := "message" :: line.particulars.map (·.1)

/-- What a line says, with its particulars. -/
def text (line : Line) : String :=
  String.intercalate " " (line.message :: line.particulars.map particularText)

end Line

end ClusterMdns.Log
