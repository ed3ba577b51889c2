import NotebookSlice.Facts.Statement
import NotebookSlice.Facts.Usage
import NotebookSlice.Magic
import NotebookSlice.Syntax.Lexer

/-!
# Analysis of Python cells

A cell is parsed as Python after its interactive lines have been turned into comments. Each node at
the top of the syntax tree but comments is a statement, and its usage gives the facts about it. A
statement that ends at the very start of a line occupies only the lines before that line. The parser
is a parameter: nothing in the analysis depends on how the tree is found.
-/

namespace NotebookSlice

open Syntax

namespace Syntax.Placed

/-- The last line that a statement occupies. -/
def lastLine (placed : Placed) : Nat :=
  if placed.stop.column == 0 && placed.stop.row > placed.start.row then placed.stop.row - 1
  else placed.stop.row

/-- The facts about a statement with a number. -/
def facts (placed : Placed) (index : Nat) : Statement :=
  let usage := placed.node.usage .statement
  { index
    startLine := placed.start.row
    endLine := placed.lastLine
    defs := NameSet.ofList usage.defs
    uses := NameSet.ofList usage.uses }

end Syntax.Placed

namespace Syntax

/-- A way to find the nodes at the top of the syntax tree of a text, or the place where the text is
no program. -/
abbrev Parser := String → Except Text.Position (List Placed)

/-- The parser of the grammar. -/
def parse : Parser := fun text => (derive text).map (Placed.ofTrees table)

end Syntax

namespace Facts

/-- The facts about the nodes at the top of a syntax tree. -/
def ofPlaced (placed : List Placed) : Facts where
  statements :=
    ((placed.filter fun placed => placed.node.isNamed && placed.node.kind != .comment).zipIdx).map
    fun (placed, index) => placed.facts index

/-- The facts about a text that has no interactive lines. -/
def ofText (parse : Parser) (text : String) : Except AnalysisError Facts :=
  match parse text with
  | .ok placed => .ok (ofPlaced placed)
  | .error place => .error (.syntaxError (place.row + 1))

end Facts

namespace Analyzer

/-- The analyzer of Python cells that uses a parser; interactive lines become comments unless it is
told otherwise. -/
def ofParser (parse : Parser) (interactive : Bool := true) : Analyzer where
  name := "python"
  analyze text := Facts.ofText parse (if interactive then Magic.commentOut text else text)

/-- The analyzer of Python cells. -/
def python (interactive : Bool := true) : Analyzer := ofParser Syntax.parse interactive

end Analyzer

end NotebookSlice
