import NotebookSlice.Facts.NameSet

/-!
# Facts about the statements of a cell

The facts about a cell are, for each of its top-level statements, the lines it occupies and the
names it defines and uses. From these follow the edges within the cell: each use depends on the
nearest earlier statement that defines the name.
-/

namespace NotebookSlice

/-- The facts about one top-level statement; lines are counted from zero. -/
structure Statement where
  /-- The number of the statement in its cell, as the analyzer gives it. -/
  index : Nat
  startLine : Nat
  /-- The last line, which belongs to the statement. -/
  endLine : Nat
  defs : NameSet
  uses : NameSet
deriving DecidableEq, Inhabited

/-- The facts about one cell. -/
structure Facts where
  statements : List Statement := []
deriving DecidableEq, Inhabited

/-- A dependency between statements of one cell: the statement `target` uses a name that the
statement `source` defines. -/
structure Edge where
  source : Nat
  target : Nat
  name : String
deriving DecidableEq, Repr, Inhabited

namespace Edge

/-- The order of edges: by source, then by target, then by name. -/
def before (first second : Edge) : Bool :=
  first.source < second.source ||
    (first.source == second.source && (first.target < second.target ||
      (first.target == second.target && first.name ≤ second.name)))

end Edge

namespace Facts

/-- Whether there is no statement. -/
def isEmpty (facts : Facts) : Bool := facts.statements.isEmpty

/-- All names that some statement defines. -/
def definedNames (facts : Facts) : NameSet :=
  facts.statements.foldr (fun statement names => statement.defs.union names) ∅

/-- The last of some statements that defines a name, with its position among them. -/
def lastDefinition (name : String) (earlier : List Statement) : Option Nat :=
  (earlier.zipIdx.reverse.find? fun (statement, _) => statement.defs.contains name).map (·.2)

/-- The edges that end at a position. -/
def edgesInto (facts : Facts) (target : Nat) (statement : Statement) : List Edge :=
  statement.uses.toList.filterMap fun name =>
    (lastDefinition name (facts.statements.take target)).map fun source => ⟨source, target, name⟩

/-- The dependencies between the statements, in the order of edges. -/
def edges (facts : Facts) : List Edge :=
  (facts.statements.zipIdx.flatMap fun (statement, target) =>
    facts.edgesInto target statement).mergeSort Edge.before

end Facts

/-- Why a text could not be analyzed. -/
inductive AnalysisError where
  /-- The text is no program; lines are counted from one. -/
  | syntaxError (line : Nat)
  /-- Nothing is known about the text. -/
  | unknownText
deriving DecidableEq, Repr, Inhabited

namespace AnalysisError

/-- The wording of an error. -/
def message : AnalysisError → String
  | .syntaxError line => "Syntax error near line " ++ toString line
  | .unknownText => "Nothing is known about the text"

end AnalysisError

/-- A way to find the facts about the text of a cell. -/
structure Analyzer where
  name : String
  analyze : String → Except AnalysisError Facts

end NotebookSlice
