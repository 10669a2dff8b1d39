import BgpTestbed.Text.Lines

/-!
# Reports to the user

The first line of a report says how severe it is and what it is about; the
details follow, indented by two spaces.
-/

namespace BgpTestbed

inductive Severity where
  | error
  | warning
  | info
  deriving DecidableEq, Repr

def Severity.label : Severity → String
  | .error => "error:"
  | .warning => "warning:"
  | .info => "info:"

/-- The escape sequence that switches to the colour of a severity. -/
def Severity.colour : Severity → String
  | .error => "\x1b[31m"
  | .warning => "\x1b[33m"
  | .info => "\x1b[34m"

structure Report where
  severity : Severity
  title : String
  details : String
  deriving DecidableEq, Repr

namespace Report

def bold (text : String) : String :=
  "\x1b[1m" ++ text ++ "\x1b[0m"

def heading (report : Report) (coloured : Bool) : String :=
  if coloured then
    report.severity.colour ++ bold report.severity.label ++ " " ++
      bold report.title
  else report.severity.label ++ " " ++ report.title

def lines (report : Report) (coloured : Bool) : List String :=
  report.heading coloured ::
    (Text.lines report.details).map fun line => "  " ++ line

def text (report : Report) (coloured : Bool) : String :=
  Text.ofLines (report.lines coloured)

end Report

end BgpTestbed
