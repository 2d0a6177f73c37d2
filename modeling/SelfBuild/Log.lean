/-!
# Log lines

What the library records of its own work, beside the results.
-/

namespace SelfBuild

namespace Log

/-- How serious a line is. -/
inductive Level where
  | info
  | warning
  | error
deriving DecidableEq, Repr

def Level.name : Level -> String
  | .info => "INFO"
  | .warning => "WARNING"
  | .error => "ERROR"

structure Line where
  level : Level
  message : String
deriving DecidableEq, Repr

def Line.text (line : Line) : String :=
  line.level.name ++ " " ++ line.message

end Log

end SelfBuild
