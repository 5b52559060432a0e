import BlockFs.Event

namespace BlockFs.Tool

inductive Style where
  | heading
  | alarm
  | caution
  | notice
  | detail
  | faint
deriving DecidableEq, Repr

namespace Style

def codes : Style → String
  | .heading => "1;32"
  | .alarm => "1;31"
  | .caution => "1;33"
  | .notice => "32"
  | .detail => "34"
  | .faint => "2"

def ofLevel : Level → Style
  | .error => .alarm
  | .warn => .caution
  | .info => .notice
  | .debug => .detail
  | .trace => .faint

/-- The text between the sequences that begin and end a style; the text alone without colours. -/
def paint (style : Style) (colored : Bool) (text : String) : String :=
  if colored then "\x1b[" ++ style.codes ++ "m" ++ text ++ "\x1b[0m" else text

end Style

/-- Whether to use colours: the environment can force them or forbid them, else a terminal gets them
unless they are switched off. -/
def wantsColors (force forbid enable : Option String) (terminal : Bool) : Bool :=
  if force.any (· ≠ "0") then true
  else if forbid.isSome then false
  else enable.all (· ≠ "0") && terminal

end BlockFs.Tool
