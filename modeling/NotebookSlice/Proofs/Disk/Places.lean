import Mathlib.Data.List.Induction
import NotebookSlice.Disk

/-!
# Places on a disk

Making directories and writing files only adds to a disk: what exists keeps existing, and every path
that could be walked still leads to the same place. So what was written is found again, not only
under the path that was used for writing but under each path that leads to the same place.

A place is canonical if the path of its names leads to it. Whatever can be walked to from a
canonical place is canonical again, which makes the absolute path of a place a name for it.
-/

namespace NotebookSlice

/-! ### Parts of paths -/

namespace Path

/-- The text can stand between slashes as the name of a file or a directory. -/
structure IsName (text : String) : Prop where
  nonempty : text ≠ ""
  notHere : text ≠ "."
  notAbove : text ≠ ".."
  noSlash : '/' ∉ text.toList

theorem not_mem_of_mem_splitOn {separator : Char} {chars chunk : List Char}
    (member : chunk ∈ chars.splitOn separator) : separator ∉ chunk := by
  induction chars generalizing chunk with
  | nil => simp_all
  | cons char chars ih =>
      rw [List.splitOn_cons_eq_if_modifyHead] at member
      split at member
      · rcases List.mem_cons.mp member with rfl | later
        · simp
        · exact ih later
      · next different =>
        cases split : chars.splitOn separator with
        | nil => simp [split] at member
        | cons first others =>
            simp only [split, List.modifyHead_cons, List.mem_cons] at member
            rcases member with rfl | later
            · have unbroken : separator ∉ first := ih (by simp [split])
              simpa [unbroken] using fun same => different (by simp [same])
            · exact ih (by simp [split, later])

theorem noSlash_of_mem_parts {path part : String} (member : part ∈ parts path) :
    '/' ∉ part.toList := by
  rcases List.mem_map.mp member with ⟨chunk, chunkMem, rfl⟩
  simpa using not_mem_of_mem_splitOn chunkMem

theorem parts_append_slash (first second : String) :
    parts (first ++ "/" ++ second) = parts first ++ parts second := by
  have split : (first ++ "/" ++ second).toList = first.toList ++ '/' :: second.toList := by
    simp
  rw [parts, split, List.splitOn_append_cons_self, List.map_append]
  rfl

theorem parts_eq_singleton {text : String} (noSlash : '/' ∉ text.toList) : parts text = [text] := by
  simp [parts, List.splitOn_eq_singleton noSlash]

theorem parts_empty : parts "" = [""] := parts_eq_singleton (by simp)

theorem parts_slash_append (path : String) : parts ("/" ++ path) = "" :: parts path := by
  have split := parts_append_slash "" path
  rwa [parts_empty, String.empty_append] at split

theorem parts_intercalate {names : List String} (nonempty : names ≠ [])
    (noSlash : ∀ name ∈ names, '/' ∉ name.toList) : parts ("/".intercalate names) = names := by
  have chunks : ∀ chunk ∈ names.map String.toList, '/' ∉ chunk := by
    simpa using noSlash
  have split := List.splitOn_intercalate '/' chunks (by simpa using nonempty)
  rw [parts, String.toList_intercalate]
  simp [split, Function.comp_def]

theorem isAbsolute_append {first : String} (nonempty : first ≠ "") (second : String) :
    isAbsolute (first ++ second) = isAbsolute first := by
  rw [Bool.eq_iff_iff, isAbsolute, isAbsolute, String.startsWith_string_iff,
    String.startsWith_string_iff, String.toList_append]
  cases chars : first.toList with
  | nil => simp_all
  | cons char rest => simp

theorem IsName.relative {name : String} (isName : IsName name) : isAbsolute name = false := by
  rw [isAbsolute, ← Bool.not_eq_true, String.startsWith_string_iff]
  intro isPrefix
  exact isName.noSlash (isPrefix.subset (by simp))

/-- A directory that ends with a slash has another path without it. -/
theorem exists_eq_append_slash {directory : String} (ends : directory.endsWith "/" = true) :
    ∃ path, directory = path ++ "/" := by
  rw [String.endsWith_eq_endsWith_toSlice, String.Slice.endsWith_string_iff] at ends
  rcases ends with ⟨chars, split⟩
  refine ⟨String.ofList chars, ?_⟩
  apply String.toList_inj.mp
  simpa using split.symm

end Path

namespace Disk

open NotebookSlice.Path (IsName)

variable {disk earlier later : Disk} {place : List String}

/-! ### What is added to a disk -/

theorem isDirectory_nil (disk : Disk) : disk.isDirectory [] = true := rfl

theorem lookup_filter_ne {nodes : List (List String × Inode)} {other : List String}
    (different : other ≠ place) :
    (nodes.filter fun (node, _) => node != place).lookup other = nodes.lookup other := by
  induction nodes with
  | nil => rfl
  | cons node nodes ih =>
      rcases node with ⟨name, inode⟩
      by_cases same : name = place
      · have skipped : (other == name) = false := by simpa [same] using different
        rw [List.filter_cons_of_neg (by simp [same]), List.lookup_cons, skipped]
        exact ih
      · rw [List.filter_cons_of_pos (by simpa using same), List.lookup_cons, List.lookup_cons, ih]

theorem node?_put (disk : Disk) {place : List String} (nonroot : place ≠ []) (inode : Inode)
    (other : List String) :
    (disk.put place inode).node? other =
      if other = place then some inode else disk.node? other := by
  by_cases same : other = place
  · simp [node?, put, same, nonroot]
  · have skipped : (other == place) = false := by simpa using same
    simp [node?, put, same, List.lookup_cons, skipped, lookup_filter_ne same]

/-- The later disk has what the earlier one has; files may hold something else. -/
structure Extends (earlier later : Disk) : Prop where
  here : later.here = earlier.here
  node : ∀ place, (earlier.node? place).isSome → (later.node? place).isSome
  directory : ∀ place, earlier.isDirectory place = true → later.isDirectory place = true

namespace Extends

theorem refl (disk : Disk) : disk.Extends disk := ⟨rfl, fun _ => id, fun _ => id⟩

theorem trans {middle : Disk} (first : earlier.Extends middle) (second : middle.Extends later) :
    earlier.Extends later :=
  ⟨second.here.trans first.here, fun place known => second.node place (first.node place known),
    fun place known => second.directory place (first.directory place known)⟩

/-- Putting something at a place keeps a directory there. -/
theorem put {inode : Inode} (keeps : disk.isDirectory place = true → inode = .directory)
    (nonroot : place ≠ []) :
    disk.Extends (disk.put place inode) := by
  refine ⟨rfl, ?_, ?_⟩
  · intro other known
    rw [node?_put disk nonroot]
    split
    · rfl
    · exact known
  · intro other known
    by_cases same : other = place
    · subst other
      simp [isDirectory, node?_put disk nonroot, keeps known]
    · rw [isDirectory] at known ⊢
      simpa [node?_put disk nonroot, same] using known

theorem makeDirectory? {path : String} (made : earlier.makeDirectory? path = some later) :
    earlier.Extends later := by
  rw [Disk.makeDirectory?] at made
  split at made
  · next place _ =>
    split at made
    · cases made
      exact refl _
    · simp at made
    · next vacant =>
      split at made
      · cases made
        apply put
        · simp
        · rintro rfl
          simp [node?] at vacant
      · simp at made
  · simp at made

theorem makeEach? {path : String} {parts : List String}
    (made : earlier.makeEach? path parts = some later) :
    earlier.Extends later := by
  induction parts generalizing earlier path with
  | nil =>
      cases made
      exact refl _
  | cons part parts ih =>
      rw [Disk.makeEach?] at made
      split at made
      · exact ih made
      · rcases Option.bind_eq_some_iff.mp made with ⟨middle, first, others⟩
        exact (makeDirectory? first).trans (ih others)

theorem makeDirectories? {path : String} (made : earlier.makeDirectories? path = some later) :
    earlier.Extends later := makeEach? made

end Extends

/-! ### Walks -/

theorem walk_append (disk : Disk) (place first second : List String) :
    disk.walk place (first ++ second) = (disk.walk place first).bind (disk.walk · second) := by
  induction first generalizing place with
  | nil => rfl
  | cons part first ih =>
      simp only [List.cons_append, walk]
      repeat' split
      all_goals first | rfl | exact ih _

theorem Extends.walk (grows : earlier.Extends later) {parts target : List String}
    (leads : earlier.walk place parts = some target) : later.walk place parts = some target := by
  induction parts generalizing place with
  | nil => exact leads
  | cons part parts ih =>
      simp only [Disk.walk] at leads ⊢
      cases isDirectory : earlier.isDirectory place with
      | false => simp [isDirectory] at leads
      | true =>
          simp only [isDirectory, grows.directory place isDirectory, Bool.not_true,
            Bool.false_eq_true, if_false] at leads ⊢
          repeat' split at leads
          all_goals simp_all

/-- A walk over an empty part goes nowhere, but it needs a directory. -/
theorem walk_empty_cons (disk : Disk) (place : List String) {part : String} (parts : List String) :
    disk.walk place ("" :: part :: parts) = disk.walk place (part :: parts) := by
  simp only [walk]
  cases disk.isDirectory place <;> simp

/-- The names of the place can stand in a path, and all places above it are directories. -/
structure Canonical (disk : Disk) (place : List String) : Prop where
  names : ∀ name ∈ place, IsName name
  above : ∀ outer, outer <+: place → outer ≠ place → disk.isDirectory outer = true

namespace Canonical

theorem of_prefix (canonical : disk.Canonical place) {outer : List String}
    (isPrefix : outer <+: place) :
    disk.Canonical outer := by
  refine ⟨fun name member => canonical.names name (isPrefix.subset member), ?_⟩
  intro further furtherPrefix different
  apply canonical.above further (furtherPrefix.trans isPrefix)
  rintro rfl
  exact different (furtherPrefix.eq_of_length_le isPrefix.length_le)

theorem concat (canonical : disk.Canonical place) (isDirectory : disk.isDirectory place = true)
    {name : String} (isName : IsName name) : disk.Canonical (place ++ [name]) := by
  refine ⟨?_, ?_⟩
  · simpa [or_imp, forall_and, isName] using canonical.names
  · intro outer isPrefix different
    rcases List.prefix_concat_iff.mp isPrefix with same | isPrefix
    · exact absurd same different
    · by_cases same : outer = place
      · rwa [same]
      · exact canonical.above outer isPrefix same

/-- A walk from a canonical place over parts without slashes ends at one. -/
theorem walk {parts target : List String} (canonical : disk.Canonical place)
    (noSlash : ∀ part ∈ parts, '/' ∉ part.toList) (leads : disk.walk place parts = some target) :
    disk.Canonical target := by
  induction parts generalizing place with
  | nil =>
      cases leads
      exact canonical
  | cons part parts ih =>
      have others : ∀ other ∈ parts, '/' ∉ other.toList :=
        fun other member => noSlash other (by simp [member])
      simp only [Disk.walk] at leads
      split at leads
      · simp at leads
      · next isDirectory =>
        split at leads
        · exact ih canonical others leads
        · next isPart =>
          split at leads
          · exact ih (canonical.of_prefix (List.dropLast_prefix place)) others leads
          · next isBelow =>
            refine ih (canonical.concat (by simpa using isDirectory) ?_) others leads
            refine ⟨?_, ?_, ?_, noSlash part (by simp)⟩
            all_goals
              rintro rfl
              simp at isPart isBelow

theorem mono (canonical : earlier.Canonical place) (grows : earlier.Extends later) :
    later.Canonical place :=
  ⟨canonical.names, fun outer isPrefix different =>
    grows.directory outer (canonical.above outer isPrefix different)⟩

/-- The names of a canonical place lead to it. -/
theorem walk_self (canonical : disk.Canonical place) : disk.walk [] place = some place := by
  induction place using List.reverseRecOn with
  | nil => rfl
  | append_singleton place name ih =>
      have isDirectory : disk.isDirectory place = true :=
        canonical.above place (List.prefix_append _ _) (by simp)
      have isName := canonical.names name (by simp)
      rw [walk_append, ih (canonical.of_prefix (List.prefix_append _ _)),
        Option.bind_some, Disk.walk]
      simp [isDirectory, isName.nonempty, isName.notHere, isName.notAbove, Disk.walk]

end Canonical

/-! ### Where paths lead -/

/-- Where the walk over a path ends; the empty path stays where it starts. -/
def reach (disk : Disk) (path : String) : Option (List String) :=
  disk.walk (disk.start path) (Path.parts path)

theorem place?_eq_reach (disk : Disk) {path : String} (nonempty : path ≠ "") :
    disk.place? path = disk.reach path := by
  simp [place?, reach, nonempty]

theorem Extends.reach {path : String} {target : List String} (grows : earlier.Extends later)
    (leads : earlier.reach path = some target) : later.reach path = some target := by
  have start : later.start path = earlier.start path := by simp [Disk.start, grows.here]
  rw [Disk.reach, start]
  exact grows.walk leads

/-- A relative path is walked from where the directory leads; slashes and the empty directory make
no difference. -/
theorem reach_join (disk : Disk) (directory : String) {path : String}
    (relative : Path.isAbsolute path = false) :
    disk.reach (Path.join directory path) =
      (disk.reach directory).bind (disk.walk · (Path.parts path)) := by
  have skip (place : List String) :
      (disk.walk place [""]).bind (disk.walk · (Path.parts path)) =
        disk.walk place (Path.parts path) := by
    rw [← walk_append]
    cases parts : Path.parts path with
    | nil => simp [Path.parts] at parts
    | cons part rest => exact walk_empty_cons disk place rest
  rw [Path.join, relative]
  by_cases empty : directory = ""
  · have joined : ("".isEmpty || "".endsWith "/") = true := rfl
    have nowhere : Path.isAbsolute "" = false := by decide +kernel
    rw [empty, if_neg (by simp), if_pos joined, String.empty_append, reach, reach,
      Path.parts_empty, start, start, relative, nowhere]
    exact (skip disk.here).symm
  · by_cases slash : directory.endsWith "/" = true
    · rcases Path.exists_eq_append_slash slash with ⟨above, rfl⟩
      have nothing : Path.parts (above ++ "/") = Path.parts above ++ [""] := by
        have split := Path.parts_append_slash above ""
        rwa [String.append_empty, Path.parts_empty] at split
      simp only [slash, Bool.or_true, Bool.false_eq_true, if_false, if_true]
      rw [reach, reach, nothing, Path.parts_append_slash, start, start,
        Path.isAbsolute_append empty, walk_append, walk_append, Option.bind_assoc]
      simp only [skip]
    · simp only [slash, empty, String.isEmpty_iff, Bool.or_false, Bool.false_eq_true, if_false]
      rw [reach, reach, Path.parts_append_slash, start, start, String.append_assoc,
        Path.isAbsolute_append empty, walk_append]

namespace Canonical

/-- The absolute path of a canonical place leads to it. -/
theorem reach_pathOf (canonical : disk.Canonical place) :
    disk.reach (pathOf place) = some place := by
  have absolute : Path.isAbsolute (pathOf place) = true := by
    simp [Path.isAbsolute, pathOf, String.startsWith_string_iff]
  rw [reach, start, absolute, pathOf, Path.parts_slash_append, if_pos rfl]
  cases place with
  | nil =>
      have nothing : "/".intercalate [] = "" := rfl
      simp [nothing, Path.parts_empty, Disk.walk, isDirectory_nil]
  | cons name names =>
      rw [Path.parts_intercalate (by simp) fun other member =>
        (canonical.names other member).noSlash, walk_empty_cons, canonical.walk_self]

/-- From the current directory, a path leads to where it leads by itself. -/
theorem reach_join_here (canonical : disk.Canonical disk.here) (path : String) :
    disk.reach (Path.join (pathOf disk.here) path) = disk.reach path := by
  cases absolute : Path.isAbsolute path with
  | true => simp [Path.join, absolute]
  | false =>
      rw [reach_join disk _ absolute, canonical.reach_pathOf, Option.bind_some, reach,
        start, absolute]
      rfl

/-- Where a path leads is canonical if the current directory is. -/
theorem of_reach {path : String} {target : List String} (canonical : disk.Canonical disk.here)
    (leads : disk.reach path = some target) : disk.Canonical target := by
  refine Canonical.walk ?_ (fun part member => Path.noSlash_of_mem_parts member) leads
  rw [start]
  split
  · exact canonical.of_prefix (by simp)
  · exact canonical

end Canonical

/-! ### What was written -/

/-- A file that was written is found with its contents, and nothing else is lost. -/
theorem of_write? {path : String} {contents : ByteArray}
    (written : earlier.write? path contents = some later) :
    earlier.Extends later ∧
      ∃ place, later.place? path = some place ∧ later.node? place = some (.file contents) := by
  rw [write?] at written
  split at written
  · next place leads =>
    split at written
    · simp at written
    · next vacant =>
      cases written
      simp only [Bool.or_eq_true, not_or, Bool.not_eq_true] at vacant
      have nonroot : place ≠ [] := by
        rintro rfl
        simp [isDirectory_nil] at vacant
      have grows : earlier.Extends (earlier.put place (.file contents)) :=
        Extends.put (by simp [vacant.1]) nonroot
      have nonempty : path ≠ "" := by
        rintro rfl
        simp [place?] at leads
      rw [place?_eq_reach _ nonempty] at leads ⊢
      exact ⟨grows, place, grows.reach leads, by simp [node?_put earlier nonroot]⟩
  · simp at written

theorem fromUTF8?_toUTF8 (text : String) : String.fromUTF8? text.toUTF8 = some text := by
  simp [String.fromUTF8?]
  exact ⟨text.isValidUTF8, rfl⟩

/-- A text that was written is read under every path that leads to the same place. -/
theorem read?_of_write? {path other text : String}
    (written : earlier.write? path text.toUTF8 = some later)
    (same : later.place? other = later.place? path) :
    (later.find? other).isSome = true ∧ later.read? other = some text := by
  rcases of_write? written with ⟨_, place, leads, stands⟩
  have found : later.find? other = some (place, .file text.toUTF8) := by
    simp [find?, same, leads, stands]
  refine ⟨by simp [found], ?_⟩
  rw [read?, found]
  exact fromUTF8?_toUTF8 text

end Disk

end NotebookSlice
