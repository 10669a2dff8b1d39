/-!
# Sections of a daemon configuration

A separator line ends every section that has any text; a section without
text leaves no trace.
-/

namespace BgpTestbed.Daemon

def separator : String := "!\n"

/-- Sections in order, each a list of complete blocks of lines. -/
structure Sections where
  blocks : List (List String)
  deriving DecidableEq, Repr

def sectionText (blocks : List String) : String :=
  let text := String.join blocks
  if text.isEmpty then "" else text ++ separator

namespace Sections

def empty : Sections where
  blocks := []

def add (sections : Sections) (blocks : List String) : Sections where
  blocks := sections.blocks ++ [blocks]

def text (sections : Sections) : String :=
  String.join (sections.blocks.map sectionText)

end Sections

end BgpTestbed.Daemon
