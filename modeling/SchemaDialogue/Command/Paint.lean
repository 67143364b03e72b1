/-!
# Paint

What a command writes can be painted for a terminal. It is plain unless painting is asked for, since
it goes to files and to other programs as often as to a terminal.
-/

namespace SchemaDialogue

/-- A way to paint a text. -/
inductive Paint where
  | green
  | red
  | strongRed
deriving DecidableEq

namespace Paint

/-- What tells a terminal to go on in this paint. -/
def start : Paint → String
  | green => "\x1b[32m"
  | red => "\x1b[31m"
  | strongRed => "\x1b[1;31m"

/-- What tells a terminal to go on without paint. -/
def stop : String := "\x1b[0m"

/-- A text in this paint. Where the text itself stops a painting, this paint takes over again. -/
def apply (paint : Paint) (text : String) : String :=
  paint.start ++ text.replace stop (stop ++ paint.start) ++ stop

/-- A text, painted if painting is asked for. -/
def applyIf (asked : Bool) (paint : Paint) (text : String) : String :=
  if asked then paint.apply text else text

/-- The name of the variable that asks for painting. -/
def variableName : String := "CLICOLOR_FORCE"

/-- Does the setting ask for painting? -/
def isAsked (setting : Option String) : Bool :=
  match setting with
  | none => false
  | some text => text ≠ "0"

end Paint

end SchemaDialogue
