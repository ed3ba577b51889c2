import Mathlib.Data.List.Basic
import NotebookSlice.Program
import NotebookSlice.Proofs.Slice.Shape

/-!
# Reading a program back

A program shows a slice group by group, each below a marker line. `Template.recover?` reads it back:
it takes the preamble away, splits the rest into lines and cuts these at the lines that equal the
marker. This recovers the lines of every group, provided that the marker and the kept lines are
single lines and that no kept line equals the marker. Nothing is asked of the preamble, which may
look like markers itself, and groups without lines and blank lines come back as well.

Two things are done in turn when a program is written: the groups become lines, and the lines become
text. The proof undoes them one by one.
-/

namespace NotebookSlice

/-! ### Lines of a text -/

namespace Text

/-- The lines of a text in which every line, the last one included, ends with a line feed. -/
def finishedRows (text : List Char) : List (List Char) := (rows text).dropLast

theorem rows_flatMap {lines : List (List Char)} (unbroken : ∀ line ∈ lines, '\n' ∉ line) :
    rows (lines.flatMap (· ++ ['\n'])) = lines ++ [[]] := by
  induction lines with
  | nil => rfl
  | cons line lines ih =>
      rw [List.forall_mem_cons] at unbroken
      have first : rows (line ++ '\n' :: lines.flatMap (· ++ ['\n'])) =
          line :: rows (lines.flatMap (· ++ ['\n'])) :=
        List.splitOn_append_cons_self_of_not_mem unbroken.1 _
      rw [List.flatMap_cons, List.append_assoc, List.singleton_append, first, ih unbroken.2,
        List.cons_append]

theorem finishedRows_flatMap {lines : List (List Char)} (unbroken : ∀ line ∈ lines, '\n' ∉ line) :
    finishedRows (lines.flatMap (· ++ ['\n'])) = lines := by
  rw [finishedRows, rows_flatMap unbroken, List.dropLast_concat]

theorem mem_of_mem_dropReturn {line : List Char} {char : Char} (member : char ∈ dropReturn line) :
    char ∈ line := by
  rw [dropReturn] at member
  split at member
  · exact (List.dropLast_sublist line).subset member
  · exact member

theorem newline_not_mem_linesFrom {line text : List Char} (unbroken : '\n' ∉ line) :
    ∀ other ∈ linesFrom line text, '\n' ∉ other := by
  induction text generalizing line with
  | nil =>
      intro other member
      rw [linesFrom] at member
      split at member
      · simp at member
      · rw [List.mem_singleton] at member
        simpa [member] using unbroken
  | cons char rest ih =>
      intro other member
      rw [linesFrom] at member
      split at member
      · rcases List.mem_cons.mp member with rfl | later
        · exact fun inside => unbroken (List.mem_reverse.mp (mem_of_mem_dropReturn inside))
        · exact ih List.not_mem_nil other later
      · next other_char =>
        apply ih _ other member
        simpa [eq_comm] using And.intro other_char unbroken

theorem newline_not_mem_lines {text line : String} (member : line ∈ lines text) :
    '\n' ∉ line.toList := by
  rcases List.mem_map.mp member with ⟨chars, charsMem, rfl⟩
  rw [String.toList_ofList]
  exact newline_not_mem_linesFrom List.not_mem_nil chars charsMem

end Text

/-! ### Lines of a slice -/

theorem map_fst_filter_zipIdx_sublist {α : Type} (items : List α) (test : α × Nat → Bool) :
    ((items.zipIdx.filter test).map (·.1)).Sublist items := by
  have chosen : ((items.zipIdx.filter test).map (·.1)).Sublist (items.zipIdx.map (·.1)) :=
    List.filter_sublist.map _
  rwa [List.zipIdx_map_fst] at chosen

theorem Candidate.linesOf_sublist (candidate : Candidate) (numbers : List Nat) :
    (candidate.linesOf numbers).Sublist candidate.record.lines :=
  map_fst_filter_zipIdx_sublist _ _

/-- A group of a timeline keeps lines of one of its executions. -/
theorem Timeline.exists_mem_lines {timeline : Timeline} {group : Group}
    (member : group ∈ timeline.groups) {line : String} (lineMem : line ∈ group.lines) :
    ∃ record : Record, line ∈ record.lines := by
  rcases eq_whole_or_eq_keep member with rfl | ⟨candidate, rank, _, rfl⟩
  · exact ⟨timeline.target.record, lineMem⟩
  · exact ⟨candidate.record, (candidate.linesOf_sublist _).subset lineMem⟩

theorem Log.newline_not_mem_slice (log : Log) (event : EventId) {group : Group}
    (member : group ∈ (log.slice event).groups) {line : String} (lineMem : line ∈ group.lines) :
    '\n' ∉ line.toList := by
  rw [Log.slice] at member
  cases found : log.timeline? event with
  | none => simp [found] at member
  | some timeline =>
      rw [found] at member
      rcases Timeline.exists_mem_lines member lineMem with ⟨record, ofRecord⟩
      exact Text.newline_not_mem_lines ofRecord

namespace Template

variable {template : Template} {slice : Slice}

/-- The lines of the groups that a program shows, if it starts with the preamble. -/
def recover? (template : Template) (program : String) : Option (List (List String)) :=
  (program.toList.dropPrefix? template.preamble.toList).map fun body =>
    (((Text.finishedRows body).map String.ofList).splitOn template.marker).tail

/-- The kept lines can be told from each other and from the marker: each is a single line, and none
equals the marker. -/
structure Separates (template : Template) (slice : Slice) : Prop where
  unbroken : ∀ group ∈ slice.groups, ∀ line ∈ group.lines, '\n' ∉ line.toList
  unmarked : ∀ group ∈ slice.groups, ∀ line ∈ group.lines, line ≠ template.marker

/-- Cutting at the markers undoes the layout of groups, whatever unmarked lines come first. -/
theorem splitOn_groupLines {groups : List Group} {first : List String}
    (firstUnmarked : template.marker ∉ first)
    (unmarked : ∀ group ∈ groups, template.marker ∉ group.lines) :
    (first ++ groups.flatMap template.groupLines).splitOn template.marker =
      first :: groups.map (·.lines) := by
  induction groups generalizing first with
  | nil => simpa using List.splitOn_eq_singleton firstUnmarked
  | cons group groups ih =>
      rw [List.forall_mem_cons] at unmarked
      rw [List.flatMap_cons, groupLines, List.cons_append,
        List.splitOn_append_cons_self_of_not_mem firstUnmarked, ih unmarked.1 unmarked.2,
        List.map_cons]

theorem toList_render (nonempty : slice.groups ≠ []) :
    (template.render slice).toList = template.preamble.toList ++
      ((slice.groups.flatMap template.groupLines).map String.toList).flatMap (· ++ ['\n']) := by
  have isNonempty : slice.isEmpty = false := by simpa [Slice.isEmpty] using nonempty
  rw [render, isNonempty]
  simp [String.toList_join, List.flatMap_map]

theorem newline_not_mem_groupLines (oneLine : '\n' ∉ template.marker.toList)
    (separates : template.Separates slice) :
    ∀ line ∈ slice.groups.flatMap template.groupLines, '\n' ∉ line.toList := by
  intro line member
  rcases List.mem_flatMap.mp member with ⟨group, groupMem, lineMem⟩
  rcases List.mem_cons.mp lineMem with rfl | kept
  · exact oneLine
  · exact separates.unbroken group groupMem line kept

theorem recover?_render (oneLine : '\n' ∉ template.marker.toList) (nonempty : slice.groups ≠ [])
    (separates : template.Separates slice) :
    template.recover? (template.render slice) = some (slice.groups.map (·.lines)) := by
  have preambleFirst : (template.render slice).toList.dropPrefix? template.preamble.toList =
      some (((slice.groups.flatMap template.groupLines).map String.toList).flatMap (· ++ ['\n'])) :=
    List.dropPrefix?_eq_some_iff.mpr ⟨_, toList_render nonempty, beq_self_eq_true _⟩
  have linesBack : (Text.finishedRows
      (((slice.groups.flatMap template.groupLines).map String.toList).flatMap (· ++ ['\n']))).map
        String.ofList = slice.groups.flatMap template.groupLines := by
    rw [Text.finishedRows_flatMap, List.map_map]
    · simp [Function.comp_def]
    · exact List.forall_mem_map.mpr (newline_not_mem_groupLines oneLine separates)
  have groupsBack : (slice.groups.flatMap template.groupLines).splitOn template.marker =
      [] :: slice.groups.map (·.lines) :=
    splitOn_groupLines List.not_mem_nil
      fun group groupMem inside => separates.unmarked group groupMem _ inside rfl
  rw [recover?, preambleFirst, Option.map_some, linesBack, groupsBack, List.tail_cons]

theorem render_eq_empty_iff : template.render slice = "" ↔ slice.groups = [] := by
  constructor
  · intro isEmpty
    by_contra nonempty
    have noChars : (template.render slice).toList = _ := toList_render nonempty
    rcases List.exists_cons_of_ne_nil nonempty with ⟨group, groups, split⟩
    rw [isEmpty, split] at noChars
    simp [groupLines] at noChars
  · intro noGroups
    rw [render, if_pos (by simp [Slice.isEmpty, noGroups])]

/-- A program determines the lines of the groups that it shows. -/
theorem lines_eq_of_render_eq {other : Slice} (oneLine : '\n' ∉ template.marker.toList)
    (separates : template.Separates slice) (otherSeparates : template.Separates other)
    (same : template.render slice = template.render other) :
    slice.groups.map (·.lines) = other.groups.map (·.lines) := by
  by_cases isEmpty : slice.groups = []
  · rw [render_eq_empty_iff.mpr isEmpty, eq_comm, render_eq_empty_iff] at same
    rw [isEmpty, same]
  · have otherNonempty : other.groups ≠ [] := by
      intro otherEmpty
      rw [render_eq_empty_iff.mpr otherEmpty, render_eq_empty_iff] at same
      exact isEmpty same
    apply Option.some.inj
    rw [← recover?_render oneLine isEmpty separates,
      ← recover?_render oneLine otherNonempty otherSeparates,
      same]

/-- Rendering can be undone. A program gives back the lines of all groups of the slice that it
shows, in order, if the marker is a single line and the kept lines can be told apart; then slices
with the same program have the same lines. A program is empty exactly if there are no groups, under
every template. Lines of computed slices are single lines. -/
theorem render_recoverable (template : Template) :
    ('\n' ∉ template.marker.toList →
      (∀ slice : Slice, slice.groups ≠ [] → template.Separates slice →
        template.recover? (template.render slice) = some (slice.groups.map (·.lines))) ∧
      ∀ first second : Slice, template.Separates first → template.Separates second →
        template.render first = template.render second →
          first.groups.map (·.lines) = second.groups.map (·.lines)) ∧
      (∀ slice : Slice, template.render slice = "" ↔ slice.groups = []) ∧
      ∀ (log : Log) (event : EventId), ∀ group ∈ (log.slice event).groups, ∀ line ∈ group.lines,
        '\n' ∉ line.toList := by
  refine ⟨?_, fun _ => render_eq_empty_iff, ?_⟩
  · intro oneLine
    constructor
    · intro slice nonempty separates
      exact recover?_render oneLine nonempty separates
    · intro first second separates otherSeparates same
      exact lines_eq_of_render_eq oneLine separates otherSeparates same
  · intro log event group member line lineMem
    exact log.newline_not_mem_slice event member lineMem

end Template

namespace Sample

/-- A template whose preamble looks like the start of a program. -/
def template : Template := { marker := "#", preamble := "#\nx = 1\n#" }

/-- A slice with groups without lines at both ends, blank lines, and a line that starts like a
marker. -/
def blankSlice : Slice where
  target := some ⟨"e4"⟩
  groups :=
    [⟨⟨"a"⟩, ⟨"e1"⟩, some 1, [], []⟩,
     ⟨⟨"b"⟩, ⟨"e2"⟩, none, [0, 1], ["", "# x", ""]⟩,
     ⟨⟨"c"⟩, ⟨"e3"⟩, some 2, [0], [" #\r"]⟩,
     ⟨⟨"d"⟩, ⟨"e4"⟩, some 3, [], []⟩]

theorem separates_blankSlice : template.Separates blankSlice where
  unbroken := by decide +kernel
  unmarked := by decide +kernel

end Sample

namespace Template

theorem render_recoverable_sample :
    '\n' ∉ Sample.template.marker.toList ∧ Sample.template.Separates Sample.blankSlice ∧
      Sample.template.render Sample.blankSlice = "#\nx = 1\n##\n#\n\n# x\n\n#\n #\r\n#\n" ∧
      Sample.template.recover? "#\nx = 1\n##\n#\n\n# x\n\n#\n #\r\n#\n" =
        some [[], ["", "# x", ""], [" #\r"], []] := by
  have program : Sample.template.render Sample.blankSlice =
      "#\nx = 1\n##\n#\n\n# x\n\n#\n #\r\n#\n" := by
    decide +kernel
  refine ⟨by decide +kernel, Sample.separates_blankSlice, program, ?_⟩
  rw [← program]
  exact ((render_recoverable Sample.template).1 (by decide +kernel)).1 Sample.blankSlice (by decide)
    Sample.separates_blankSlice

end Template

end NotebookSlice
