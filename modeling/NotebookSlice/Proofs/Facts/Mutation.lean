import NotebookSlice.Proofs.Facts.Scope
import NotebookSlice.Proofs.Slice.Lines

/-!
# Changes in place

A statement that changes a container in place defines its name anew, so that later uses depend on
the change. The definition from before must not be lost by that: the statement also uses the name,
and a slice that keeps the statement keeps the definition that was nearest to it.

The same holds of augmented assignments, which bind plain names as well: their left side is read
before it is assigned to. They may stand anywhere in the statement, as in the body of a loop. So all
that a statement defines is also used by it, apart from what it binds anew: by an assignment, a
loop, an import, a definition or a walrus, also by a walrus within a left side.
-/

namespace NotebookSlice

open Syntax

namespace Syntax

variable {name : String} {role : Role} {node : Node}

/-! ### Left sides of augmented assignments -/

/-- Nodes of the kind, taken as targets, are assigned to part by part. -/
def Kind.isPattern : Kind → Bool
  | .identifier | .asPatternTarget | .attribute | .subscript => false
  | _ => true

/-- The left side of an augmented assignment: a name, a member or an element, or a pattern of these,
in which there may be comments. -/
inductive LeftSide : Node → Prop
  | name {node : Node} (kind : node.kind = .identifier) : LeftSide node
  | container {node : Node} (kind : node.kind = .attribute ∨ node.kind = .subscript) : LeftSide node
  | pattern {node : Node} (kind : node.kind = .parameterPattern ∨ node.kind = .other)
      (parts : ∀ part ∈ node.namedChildren, LeftSide part) : LeftSide node
  | extra {node : Node} (kind : node.kind = .comment ∨ node.kind = .continuation)
      (leaf : node.namedChildren = []) : LeftSide node

/-- What is bound by an assignment to a pattern is bound by the assignment to a part of it. -/
theorem Binds.exists_part (binds : Binds name .target node) (pattern : node.kind.isPattern = true) :
    ∃ part ∈ node.namedChildren, Binds name .target part := by
  rcases binds with isTrue | ⟨isPart, within⟩
  · cases isTrue with
    | target kind | renamed kind => simp [kind, Kind.isPattern] at pattern
  · cases isPart with
    | memberObject kind | elementPart kind => simp [kind, Kind.isPattern] at pattern
    | targetPart _ _ _ member => exact ⟨_, member, within⟩

/-- A name that is bound by an assignment to a left side is read when the left side is evaluated,
or a walrus binds it then. -/
theorem LeftSide.reads_or_binds (leftSide : LeftSide node) (binds : Binds name .target node) :
    Reads name (.expression []) node ∨ Binds name (.expression []) node := by
  induction leftSide with
  | name kind =>
      left
      rcases binds with isTrue | ⟨isPart, _⟩
      · cases isTrue with
        | target _ text => exact .here (.name kind text List.not_mem_nil)
        | renamed other => simp [kind] at other
      · cases isPart <;> simp_all
  | container kind =>
      right
      rcases binds with isTrue | ⟨isPart, within⟩
      · cases isTrue <;> simp_all
      · cases isPart with
        | memberObject kind found => exact .part (.object kind found) within
        | elementPart kind member => exact .part (.operand (by rw [kind]; rfl) member) within
        | targetPart => simp_all
  | @pattern node kind parts ih =>
      have isPattern : node.kind.isPattern = true := by
        rcases kind with kind | kind <;> rw [kind] <;> rfl
      have isOperation : node.kind.isOperation = true := by
        rcases kind with kind | kind <;> rw [kind] <;> rfl
      obtain ⟨part, member, within⟩ := binds.exists_part isPattern
      have isPart : Part (.expression []) node (.expression []) part := .operand isOperation member
      exact (ih part member within).imp (.part isPart) (.part isPart)
  | @extra node kind leaf =>
      have isPattern : node.kind.isPattern = true := by
        rcases kind with kind | kind <;> rw [kind] <;> rfl
      obtain ⟨part, member, _⟩ := binds.exists_part isPattern
      simp [leaf] at member

/-! ### Updates -/

/-- The node is an augmented assignment that defines the name through its left side, other than by a
walrus in it. -/
inductive UpdatesHere (name : String) : Role → Node → Prop
  | intro {node left : Node} (member : left ∈ node.namedChildren) (field : left.field = some .left)
      (leftSide : LeftSide left) (defines : Binds name .target left ∨ Mutates name .target left)
      (noWalrus : ¬Binds name (.expression []) left) : UpdatesHere name .augmentedAssignment node

/-- The name is defined through the left side of an augmented assignment. -/
def Updates (name : String) : Role → Node → Prop := Within (UpdatesHere name)

theorem Updates.defines (updates : Updates name role node) :
    Binds name role node ∨ Mutates name role node := by
  induction updates with
  | here isTrue =>
      rcases isTrue with ⟨member, field, _, defines, _⟩
      exact defines.imp (.part (.updateTarget member field)) (.part (.updateTarget member field))
  | part isPart _ ih => exact ih.imp (.part isPart) (.part isPart)

/-- What is defined through the left side of an augmented assignment is read. -/
theorem Updates.reads (updates : Updates name role node) : Reads name role node := by
  induction updates with
  | here isTrue =>
      rcases isTrue with ⟨member, field, leftSide, binds | mutates, noWalrus⟩
      · exact .part (.updateValue member) ((leftSide.reads_or_binds binds).resolve_right noWalrus)
      · exact .part (.updateTarget member field) mutates.reads
  | part isPart _ ih => exact .part isPart ih

/-- The name is bound as a plain name otherwise than through the left side of an augmented
assignment: it is a target of an assignment, a loop, a `with` item or an exception handler, the name
of an import or a definition, or the target of a walrus. -/
inductive BindsAnew (name : String) : Role → Node → Prop
  | here {role : Role} {node : Node} (isTrue : BindsHere name role node) : BindsAnew name role node
  | part {role partRole : Role} {node part : Node} (isPart : Part role node partRole part)
      (noUpdate : role = .augmentedAssignment → partRole = .target → ¬LeftSide part)
      (anew : BindsAnew name partRole part) : BindsAnew name role node

theorem BindsAnew.binds (anew : BindsAnew name role node) : Binds name role node := by
  induction anew with
  | here isTrue => exact .here isTrue
  | part isPart _ _ ih => exact .part isPart ih

/-- There are no augmented assignments in what is evaluated. -/
theorem Binds.anew (binds : Binds name role node) (evaluated : role.isEvaluated = true) :
    BindsAnew name role node := by
  induction binds with
  | here isTrue => exact .here isTrue
  | part isPart _ ih =>
      refine .part isPart ?_ (ih (isPart.isEvaluated evaluated))
      rintro rfl
      simp [Role.isEvaluated] at evaluated

theorem Binds.anew_or_updates (binds : Binds name role node) :
    BindsAnew name role node ∨ Updates name role node := by
  induction binds with
  | here isTrue => exact Or.inl (.here isTrue)
  | @part role partRole node part isPart within ih =>
      by_cases isUpdate : role = .augmentedAssignment ∧ partRole = .target ∧ LeftSide part
      · obtain ⟨rfl, rfl, leftSide⟩ := isUpdate
        cases isPart with
        | updateTarget member field =>
            by_cases walrus : Binds name (.expression []) part
            · exact Or.inl
                (.part (.updateValue member) (fun _ other => nomatch other) (walrus.anew rfl))
            · exact Or.inr (.here (.intro member field leftSide (Or.inl within) walrus))
      · have noUpdate : role = .augmentedAssignment → partRole = .target → ¬LeftSide part :=
          fun isAugmented isTarget leftSide => isUpdate ⟨isAugmented, isTarget, leftSide⟩
        exact ih.imp (.part isPart noUpdate) (.part isPart)

/-- What a node defines, it binds anew, updates or changes in place. -/
theorem mem_defs_usage_iff_anew (node : Node) (role : Role) :
    name ∈ (node.usage role).defs ↔
      BindsAnew name role node ∨ Updates name role node ∨ Mutates name role node := by
  rw [mem_defs_usage_iff]
  constructor
  · rintro (binds | mutates)
    · exact binds.anew_or_updates.imp_right Or.inl
    · exact Or.inr (Or.inr mutates)
  · rintro (anew | updates | mutates)
    · exact Or.inl anew.binds
    · exact updates.defines
    · exact Or.inr mutates

end Syntax

/-! ### Kept changes -/

/-- The statements among the nodes at the top of a syntax tree. -/
def Syntax.statementsOf (placed : List Placed) : List Placed :=
  placed.filter fun placed => placed.node.isNamed && placed.node.kind != .comment

theorem Facts.getElem?_ofPlaced (placed : List Placed) (index : Nat) :
    (ofPlaced placed).statements[index]? =
      (statementsOf placed)[index]?.map fun statement => statement.facts index := by
  simp [ofPlaced, statementsOf, List.getElem?_zipIdx, Function.comp_def]

namespace Log

variable {parse : Parser} {interactive : Bool} {log : Log} {occurrence : Occurrence} {node : Node}
  {name : String}

/-- The occurrence is the statement that is a node at the top of the tree of the executed text. -/
def IsNode (log : Log) (parse : Parser) (interactive : Bool) (occurrence : Occurrence)
    (node : Node) : Prop :=
  ∃ record ∈ log.entries, record.event = occurrence.event ∧
    ∃ placed,
      parse (if interactive then Magic.commentOut record.text else record.text) = .ok placed ∧
      (statementsOf placed)[occurrence.index]?.map Placed.node = some node

theorem Consistent.uses_of_isNode (consistent : log.Consistent)
    (isAnalyzer : log.analyzer = Analyzer.ofParser parse interactive)
    (isNode : log.IsNode parse interactive occurrence node)
    (isUsed : name ∈ (node.usage .statement).uses) :
    log.Uses occurrence name := by
  rcases isNode with ⟨record, member, sameEvent, placed, parsed, atIndex⟩
  rcases Option.map_eq_some_iff.mp atIndex with ⟨statement, found, rfl⟩
  have known : log.facts? occurrence.event = some (.ofPlaced placed) := by
    rw [← sameEvent, consistent.facts?_eq_some member, isAnalyzer]
    simp [Analyzer.ofParser, Facts.ofText, parsed, Except.toOption]
  refine ⟨statement.facts occurrence.index, ?_, NameSet.mem_ofList.mpr isUsed⟩
  rw [statement?, known, Option.bind_some, Facts.getElem?_ofPlaced, found]
  rfl

end Log

/-- Changes in place never cut a name off from its definition. What a statement defines is what it
binds anew as a plain name, what it updates by an augmented assignment and what it changes in place;
all but the first is also used. So in a slice of a log of Python cells, with each statement that
updates a name or changes it in place, at any depth, the nearest definition of the name is kept if
there is one. -/
theorem mutations_keep_definitions :
    (∀ (node : Node) (name : String),
      (name ∈ (node.usage .statement).defs ↔ BindsAnew name .statement node ∨
        Updates name .statement node ∨ Mutates name .statement node) ∧
      (name ∈ (node.usage .statement).defs → ¬BindsAnew name .statement node →
        name ∈ (node.usage .statement).uses)) ∧
    (∀ (node : Node) (name : String), Updates name .statement node →
      name ∈ (node.usage .statement).defs ∧ name ∈ (node.usage .statement).uses) ∧
    ∀ (parse : Parser) (interactive : Bool) (operations : List Operation) (target : EventId),
      let log := (Log.empty (Analyzer.ofParser parse interactive)).run operations
      ∀ occurrence ∈ (log.slice target).occurrences,
        ∀ node, log.IsNode parse interactive occurrence node →
          ∀ name, Mutates name .statement node ∨ Updates name .statement node →
            ∀ earlier, log.Eligible target earlier → log.Defines earlier name →
              log.time earlier < log.time occurrence →
                ∃ source ∈ (log.slice target).occurrences,
                  log.NearestDefinition target name occurrence source := by
  refine ⟨?_, ?_, ?_⟩
  · intro node name
    refine ⟨mem_defs_usage_iff_anew node .statement, fun isDefined notAnew => ?_⟩
    have changes := ((mem_defs_usage_iff_anew node .statement).mp isDefined).resolve_left notAnew
    exact (mem_uses_usage_iff node .statement).mpr (changes.elim Updates.reads Mutates.reads)
  · intro node name updates
    exact ⟨(mem_defs_usage_iff node .statement).mpr updates.defines,
      (mem_uses_usage_iff node .statement).mpr updates.reads⟩
  · intro parse interactive operations target log occurrence kept node isNode name changes earlier
      eligible defines before
    have consistent : log.Consistent := Log.consistent_run_empty _ operations
    have isAnalyzer : log.analyzer = Analyzer.ofParser parse interactive := Log.analyzer_run _ _
    have numbered : log.Numbered :=
      consistent.numbered (by rw [isAnalyzer]; exact Analyzer.numbers_ofParser parse interactive)
    have reads : Reads name .statement node := changes.elim Mutates.reads Updates.reads
    have uses : log.Uses occurrence name :=
      consistent.uses_of_isNode isAnalyzer isNode ((mem_uses_usage_iff node .statement).mpr reads)
    obtain ⟨source, nearest⟩ := Log.exists_nearestDefinition consistent eligible defines before
    have closed := (consistent.sliceable_of_mem numbered kept).closed
    exact ⟨source, closed.source_mem occurrence kept name uses source nearest, nearest⟩

namespace Sample

/-- The statement `x = y = 5`. -/
def chaining : Node :=
  .mk .expressionStatement none ""
    [.mk .assignment none ""
      [.mk .identifier (some .left) "x" [], .mk .sign none "=" [],
       .mk .assignment (some .right) ""
        [.mk .identifier (some .left) "y" [], .mk .sign none "=" [],
         .mk .other (some .right) "5" []]]]

/-- The target `x[i].z`. -/
def member : Node :=
  .mk .attribute none ""
    [.mk .subscript (some .object) ""
      [.mk .identifier (some .value) "x" [], .mk .sign none "[" [], .mk .identifier none "i" [],
       .mk .sign none "]" []],
     .mk .sign none "." [], .mk .identifier none "z" []]

/-- The left side `y, x[i].z`. -/
def leftSide : Node :=
  .mk .other (some .left) "" [.mk .identifier none "y" [], .mk .sign none "," [], member]

/-- The right side `x`. -/
def rightSide : Node := .mk .identifier (some .right) "x" []

/-- The assignment `y, x[i].z += x`. -/
def update : Node := .mk .augmentedAssignment none "" [leftSide, .mk .sign none "+=" [], rightSide]

/-- The assignment as a statement. -/
def updating : Node := .mk .expressionStatement none "" [update]

/-- The statement as a block. -/
def block : Node := .mk .block (some .body) "" [updating]

/-- The statement `for i in xs:` with the block. -/
def looping : Node :=
  .mk .forStatement none ""
    [.mk .sign none "for" [], .mk .identifier (some .left) "i" [], .mk .sign none "in" [],
     .mk .identifier (some .right) "xs" [], .mk .sign none ":" [], block]

theorem leftSide_leftSide : LeftSide leftSide := by
  have parts : leftSide.namedChildren = [.mk .identifier none "y" [], member] := rfl
  refine .pattern (Or.inr rfl) ?_
  simp only [parts, List.forall_mem_cons, List.not_mem_nil, false_imp_iff, implies_true, and_true]
  exact ⟨.name rfl, .container (Or.inl rfl)⟩

theorem updates_looping : Updates "y" .statement looping := by
  have isBlock : block ∈ looping.namedChildren :=
    List.mem_cons_of_mem _ (List.mem_cons_of_mem _ List.mem_cons_self)
  have isLeft : leftSide ∈ update.namedChildren := List.mem_cons_self
  have defines : "y" ∈ (leftSide.usage .target).defs := by decide +kernel
  have noWalrus : "y" ∉ (leftSide.usage (.expression [])).bound := by decide +kernel
  rw [mem_defs_usage_iff] at defines
  rw [mem_bound_usage_iff] at noWalrus
  refine .part (.loopPart rfl isBlock nofun) (.part (.inBlock rfl List.mem_cons_self) ?_)
  refine .part (.update rfl List.mem_cons_self rfl) (.here ?_)
  exact .intro isLeft rfl leftSide_leftSide defines noWalrus

theorem unbound_looping : ¬Binds "x" .statement looping := by
  rw [← mem_bound_usage_iff]
  decide +kernel

theorem mutates_looping : Mutates "x" .statement looping :=
  ((mem_defs_usage_iff looping .statement).mp (by decide +kernel)).resolve_left unbound_looping

/-- The syntax trees of three cells, the second of which changes what the first defines. -/
def changedTrees : List (String × List Placed) :=
  [("x = y = 5", [⟨chaining, ⟨0, 0, 0⟩, ⟨9, 0, 9⟩⟩]),
   ("for i in xs:\n    y, x[i].z += x", [⟨looping, ⟨0, 0, 0⟩, ⟨31, 1, 18⟩⟩]),
   ("print(y)", [printing "y"])]

/-- A parser that knows the three cells. -/
def changedParse : Parser := fun text =>
  match changedTrees.lookup text with
  | some placed => .ok placed
  | none => .error {}

/-- The three cells, executed in order. -/
def changed : List Operation :=
  [.append ⟨⟨"a"⟩, ⟨"e1"⟩, "x = y = 5", some 1, false⟩,
   .append ⟨⟨"b"⟩, ⟨"e2"⟩, "for i in xs:\n    y, x[i].z += x", some 2, false⟩,
   .append ⟨⟨"c"⟩, ⟨"e3"⟩, "print(y)", some 3, false⟩]

/-- The log of the session with the changes. -/
def changedLog : Log := (Log.empty (Analyzer.ofParser changedParse true)).run changed

theorem consistent_changedLog : changedLog.Consistent := Log.consistent_run_empty _ _

theorem entries_changedLog : changedLog.entries = Journal.run changed := Log.entries_run_empty _ _

theorem facts?_changedLog (event : EventId) :
    changedLog.facts? event = ((Journal.run changed).find? (·.event == event)).map fun record =>
      ((Analyzer.ofParser changedParse true).analyze record.text).toOption.getD {} := by
  rw [consistent_changedLog.facts?_eq, entries_changedLog, changedLog, Log.analyzer_run]
  rfl

theorem kept_changedLog : ⟨⟨"e2"⟩, 0⟩ ∈ (changedLog.slice ⟨"e3"⟩).occurrences := by
  rw [changedLog, Log.slice_run_empty_eq (Journal.run changed) (by decide +kernel)
    (Timeline.ofHistory?_eq_of_pairwise rfl (by decide +kernel))]
  simp only [Slice.occurrences, Timeline.groups, Timeline.numbersAt_eq_insertionSort]
  decide +kernel

theorem isNode_changedLog : changedLog.IsNode changedParse true ⟨⟨"e2"⟩, 0⟩ looping := by
  refine ⟨⟨⟨"b"⟩, ⟨"e2"⟩, "for i in xs:\n    y, x[i].z += x", some 2, false⟩, ?_, rfl,
    [⟨looping, ⟨0, 0, 0⟩, ⟨31, 1, 18⟩⟩], ?_, rfl⟩
  · rw [entries_changedLog]
    decide +kernel
  · rfl

theorem earlier_changedLog :
    changedLog.Eligible ⟨"e3"⟩ ⟨⟨"e1"⟩, 0⟩ ∧
      (changedLog.Defines ⟨⟨"e1"⟩, 0⟩ "x" ∧ changedLog.Defines ⟨⟨"e1"⟩, 0⟩ "y") ∧
      changedLog.time ⟨⟨"e1"⟩, 0⟩ < changedLog.time ⟨⟨"e2"⟩, 0⟩ := by
  simp only [Log.Eligible, Log.Defines, Log.statement?, Log.time, Log.key, Log.positionOf,
    entries_changedLog, facts?_changedLog]
  decide +kernel

end Sample

theorem mutations_keep_definitions_sample :
    "x" ∈ (Sample.looping.usage .statement).defs ∧ ¬BindsAnew "x" .statement Sample.looping ∧
      "x" ∈ (Sample.looping.usage .statement).uses ∧
      Updates "y" .statement Sample.looping ∧ "y" ∈ (Sample.looping.usage .statement).uses ∧
      ⟨⟨"e2"⟩, 0⟩ ∈ (Sample.changedLog.slice ⟨"e3"⟩).occurrences ∧
      Sample.changedLog.IsNode Sample.changedParse true ⟨⟨"e2"⟩, 0⟩ Sample.looping ∧
      Mutates "x" .statement Sample.looping ∧
      (Sample.changedLog.Eligible ⟨"e3"⟩ ⟨⟨"e1"⟩, 0⟩ ∧
        (Sample.changedLog.Defines ⟨⟨"e1"⟩, 0⟩ "x" ∧ Sample.changedLog.Defines ⟨⟨"e1"⟩, 0⟩ "y") ∧
        Sample.changedLog.time ⟨⟨"e1"⟩, 0⟩ < Sample.changedLog.time ⟨⟨"e2"⟩, 0⟩) ∧
      (∃ source ∈ (Sample.changedLog.slice ⟨"e3"⟩).occurrences,
        Sample.changedLog.NearestDefinition ⟨"e3"⟩ "x" ⟨⟨"e2"⟩, 0⟩ source) ∧
      ∃ source ∈ (Sample.changedLog.slice ⟨"e3"⟩).occurrences,
        Sample.changedLog.NearestDefinition ⟨"e3"⟩ "y" ⟨⟨"e2"⟩, 0⟩ source := by
  have isDefined : "x" ∈ (Sample.looping.usage .statement).defs := by decide +kernel
  have notAnew : ¬BindsAnew "x" .statement Sample.looping :=
    fun anew => Sample.unbound_looping anew.binds
  obtain ⟨ofStatements, ofUpdates, ofSlices⟩ := mutations_keep_definitions
  obtain ⟨eligible, ⟨definesX, definesY⟩, before⟩ := Sample.earlier_changedLog
  have ofSlice := ofSlices Sample.changedParse true Sample.changed ⟨"e3"⟩ ⟨⟨"e2"⟩, 0⟩
    Sample.kept_changedLog Sample.looping Sample.isNode_changedLog
  refine ⟨isDefined, notAnew, (ofStatements _ _).2 isDefined notAnew, Sample.updates_looping,
    (ofUpdates _ _ Sample.updates_looping).2, Sample.kept_changedLog, Sample.isNode_changedLog,
    Sample.mutates_looping, Sample.earlier_changedLog, ?_, ?_⟩
  · exact ofSlice "x" (Or.inl Sample.mutates_looping) _ eligible definesX before
  · exact ofSlice "y" (Or.inr Sample.updates_looping) _ eligible definesY before

end NotebookSlice
