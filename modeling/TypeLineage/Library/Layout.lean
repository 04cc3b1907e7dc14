import TypeLineage.Source.StatementReader

/-! # Declarations by lines

    The library is written in lines.  A line that begins with a blank is a
    member of the interface or namespace in the line before it; any other line
    is a declaration of its own. -/

namespace TypeLineage.Library

open Source

/-- The line opens an interface or a namespace. -/
def opensMembers (line : String) : Bool :=
  line.startsWith "interface " || line.startsWith "declare namespace "

/-- The text of declarations, given whether one is open. -/
def textOf (isOpen : Bool) : List String → String
  | [] => if isOpen then "\x7d\n" else ""
  | line :: rest =>
    if line.startsWith " " then line ++ ";\n" ++ textOf isOpen rest
    else
      let opens := opensMembers line
      (if isOpen then "\x7d\n" else "") ++ line ++ (if opens then " \x7b\n" else ";\n")
        ++ textOf opens rest

/-- The declarations of lines. -/
def declarations (lines : List String) : List Statement :=
  (readSource true false (textOf false lines).toList).1

end TypeLineage.Library
