-- SUMMARY: Bold, underlined and coloured text for terminals.

/-!
# Styles

A style stands between the sequence that starts it and the one that ends it. Styles nest.
-/

namespace AgentGovernance.View

/-- A terminal sequence with the given number. -/
def escape (code : Nat) : String := "\x1b[" ++ toString code ++ "m"

/-- A text between two sequences. -/
def styled (start stop : Nat) (s : String) : String := escape start ++ s ++ escape stop

def bold (s : String) : String := styled 1 0 s

def underline (s : String) : String := styled 4 0 s

def red (s : String) : String := styled 31 39 s

def green (s : String) : String := styled 32 39 s

def yellow (s : String) : String := styled 33 39 s

/-- The heading of a section. -/
def heading (title : String) : String := underline (bold title)

/-- A heading with an empty line below it. -/
def headed (title : String) : String := heading title ++ "\n\n"

/-- A list of words, or a dash if there are none. -/
def listOrDash (items : List String) : String :=
  if items.isEmpty then "-" else ", ".intercalate items

/-- A labelled line. -/
def row (label value : String) : String := s!"  {label}: {value}\n"

end AgentGovernance.View
