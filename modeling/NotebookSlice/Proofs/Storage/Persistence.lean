import NotebookSlice.Command.Machine
import NotebookSlice.Proofs.Codec.Decoding
import NotebookSlice.Proofs.Disk.Places
import NotebookSlice.Proofs.Transcript.Replay

/-!
# Saved settings

Settings that were saved are the settings that are read next, if files return what was written to
them.

The commands name the root of a session by a path, which each of them resolves anew. Saving settings
makes the root if it does not exist, so the command after it may resolve the path where the first
one could not, and look for the settings under another path. Both paths lead to the same place on
the disk, so a marker that was chosen when the settings were written is in force when a program is
gathered.
-/

namespace NotebookSlice

open Json

/-! ### Actions that may fail, step by step -/

section Runs

variable {σ ε α β : Type} {state after : σ}

theorem run_lift_bind (action : StateM σ α) (next : α → ExceptT ε (StateM σ) β) (state : σ) :
    ((liftM action : ExceptT ε (StateM σ) α) >>= next).run.run state =
      (next (action.run state).1).run.run (action.run state).2 := rfl

theorem run_bind_of_ok {action : ExceptT ε (StateM σ) α} {value : α}
    (done : action.run.run state = (.ok value, after)) (next : α → ExceptT ε (StateM σ) β) :
    (action >>= next).run.run state = (next value).run.run after := by
  simp only [ExceptT.run_bind, StateT.run_bind]
  rw [done]
  rfl

theorem run_pure (value : α) (state : σ) :
    (pure value : ExceptT ε (StateM σ) α).run.run state = (.ok value, state) := rfl

theorem exists_of_run_bind_eq_ok {action : ExceptT ε (StateM σ) α}
    {next : α → ExceptT ε (StateM σ) β} {result : β}
    (done : (action >>= next).run.run state = (.ok result, after)) :
    ∃ value between, action.run.run state = (.ok value, between) ∧
      (next value).run.run between = (.ok result, after) := by
  simp only [ExceptT.run_bind, StateT.run_bind] at done
  rcases ran : action.run.run state with ⟨_ | value, between⟩
  · rw [ran] at done
    cases done
  · rw [ran] at done
    exact ⟨value, between, rfl, done⟩

end Runs

namespace Settings

/-! ### Settings as text -/

theorem decode_document (settings : Settings) (place : Place) :
    decode place settings.encode.document = .ok settings := by
  rcases settings with ⟨enabled, marker⟩
  cases marker <;>
    rw [decode, encode, Fields.read_document _ _ _ (by simp [Fields.all, fields])] <;>
    rfl

theorem fits_encode (settings : Settings) : settings.encode.Fits := by
  rcases settings with ⟨enabled, marker⟩
  cases marker <;> simp [encode, Value.Fits]

theorem decode_pretty_encode (settings : Settings) :
    Json.decode decode settings.encode.pretty = .ok settings := by
  rw [Json.decode_pretty decode settings.fits_encode, decode_document]

/-! ### Settings in files -/

variable {σ : Type} {files : Files (StateM σ)} {root : Root} {settings : Settings}
  {before after : σ}

theorem exists_write_of_save (saved : (settings.save files root).run.run before = (.ok (), after)) :
    ∃ between, (files.makeDirectories root.directory).run before = (true, between) ∧
      (files.write root.settingsPath settings.encode.pretty).run between = (true, after) := by
  rw [save, run_lift_bind] at saved
  rcases made : (files.makeDirectories root.directory).run before with ⟨_ | _, between⟩
  · simp only [made, Bool.false_eq_true, if_false] at saved
    cases saved
  · simp only [made, if_true, run_lift_bind] at saved
    rcases wrote : (files.write root.settingsPath settings.encode.pretty).run between with
      ⟨_ | _, later⟩
    · simp only [wrote, Bool.false_eq_true, if_false] at saved
      cases saved
    · simp only [wrote, if_true, run_pure] at saved
      cases saved
      exact ⟨between, rfl, wrote⟩

theorem readFrom_of_read? {path : String}
    (found : (files.read? path).run before = (some settings.encode.pretty, after)) :
    (readFrom files path).run.run before = (.ok settings, after) := by
  simp only [readFrom, run_lift_bind, found, decode_pretty_encode, run_pure]

theorem load_of_read? (exist : (files.doesExist root.settingsPath).run before = (true, before))
    (found : (files.read? root.settingsPath).run before = (some settings.encode.pretty, after)) :
    (load files root).run.run before = (.ok settings, after) := by
  simp only [load, run_lift_bind, exist, if_true, readFrom_of_read? found]

end Settings

/-- The file system returns what was written last: the file exists, with that text in it. -/
structure Files.Remembers {σ : Type} (files : Files (StateM σ)) : Prop where
  doesExist : ∀ {path text : String} {before after : σ},
    (files.write path text).run before = (true, after) →
      (files.doesExist path).run after = (true, after)
  read? : ∀ {path text : String} {before after : σ},
    (files.write path text).run before = (true, after) →
      (files.read? path).run after = (some text, after)

/-! ### The root of a session on a disk -/

namespace Disk

variable {earlier later : Disk} {path : String}

/-- The root that a path names. -/
def root (disk : Disk) (path : String) : Root :=
  if Path.isHere path then ⟨pathOf disk.here⟩
  else ⟨(disk.resolve? path).getD (Path.join (pathOf disk.here) path)⟩

theorem exists_place_of_resolve? {disk : Disk} {resolved : String}
    (found : disk.resolve? path = some resolved) :
    path ≠ "" ∧ ∃ place, disk.reach path = some place ∧ (disk.node? place).isSome ∧
      resolved = pathOf place := by
  have nonempty : path ≠ "" := by
    rintro rfl
    simp [resolve?, find?, place?] at found
  simp only [resolve?, find?, place?_eq_reach disk nonempty, Option.map_eq_some_iff,
    Option.bind_eq_some_iff] at found
  rcases found with ⟨_, ⟨place, leads, _, stands, rfl⟩, rfl⟩
  exact ⟨nonempty, place, leads, by simp [stands], rfl⟩

theorem Extends.resolve? {resolved : String} (grows : earlier.Extends later)
    (found : earlier.resolve? path = some resolved) : later.resolve? path = some resolved := by
  rcases exists_place_of_resolve? found with ⟨nonempty, place, leads, stands, rfl⟩
  rcases Option.isSome_iff_exists.mp (grows.node place stands) with ⟨inode, stands⟩
  simp [Disk.resolve?, find?, place?_eq_reach later nonempty, grows.reach leads, stands]

/-- The root that a path names later is at the same place, even if it is made only then. -/
theorem Extends.reach_root (grows : earlier.Extends later)
    (canonical : earlier.Canonical earlier.here) (path : String) :
    later.reach (later.root path).path = later.reach (earlier.root path).path := by
  cases isHere : Path.isHere path with
  | true => simp [root, isHere, grows.here]
  | false =>
      simp only [root, isHere, Bool.false_eq_true, if_false]
      cases found : earlier.resolve? path with
      | some resolved => simp [grows.resolve? found]
      | none =>
          cases foundLater : later.resolve? path with
          | none => simp [grows.here]
          | some resolved =>
              rcases exists_place_of_resolve? foundLater with ⟨_, place, leads, _, rfl⟩
              have canonicalHere : later.Canonical later.here := by
                rw [grows.here]
                exact canonical.mono grows
              simp only [Option.getD_some, Option.getD_none]
              rw [(canonicalHere.of_reach leads).reach_pathOf, ← grows.here,
                canonicalHere.reach_join_here, leads]

theorem place?_settingsPath (disk : Disk) (root : Root) :
    disk.place? root.settingsPath =
      ((disk.reach root.path).bind (disk.walk · [".gather"])).bind
        (disk.walk · ["settings.json"]) := by
  have directory : Path.IsName ".gather" := by constructor <;> decide
  have file : Path.IsName "settings.json" := by constructor <;> decide
  have nonempty : root.settingsPath ≠ "" := by
    intro empty
    have ends : root.settingsPath.toList = [] := by simp [empty]
    rw [Root.settingsPath, Path.join, file.relative] at ends
    revert ends
    split <;> simp
    split <;> simp
  rw [place?_eq_reach disk nonempty, Root.settingsPath, reach_join disk _ file.relative,
    Root.directory, reach_join disk _ directory.relative, Path.parts_eq_singleton directory.noSlash,
    Path.parts_eq_singleton file.noSlash]

theorem eq_some_of_keep {disk after : Disk} {changed : Option Disk}
    (kept : disk.keep changed = (true, after)) :
    changed = some after := by
  cases changed <;> simp_all [keep]

theorem remembers_files : Disk.files.Remembers where
  doesExist wrote := Prod.ext (read?_of_write? (eq_some_of_keep wrote) rfl).1 rfl
  read? wrote := Prod.ext (read?_of_write? (eq_some_of_keep wrote) rfl).2 rfl

end Disk

/-! ### Commands on a machine -/

namespace Command

section Marked

variable {m : Type → Type} [Monad m]

/-- Shows the program that a target depends on according to a log, or writes it to a file. -/
def present (host : Host m) (target : Target) (output : Option String) (log : Log)
    (template : Template) :
    ExceptT Failure m String := do
  let slice := match target with
    | .cell id => log.sliceLatest ⟨id⟩
    | .event id => log.slice ⟨id⟩
  let program := template.render slice
  match output with
  | none => return program
  | some path =>
    unless ← host.files.write path program do throw (.programNotWritten path)
    return ""

/-- Gathers with the given marker, whatever the settings are. -/
def gatherMarked (host : Host m) (session : String) (target : Target) (marker : String)
    (output : Option String) : ExceptT Failure m String := do
  let session ← replay host {} session
  present host target output session.log { marker }

/-- Settings make no difference to what is logged. -/
theorem replay_bind [LawfulMonad m] {α : Type} (host : Host m) (settings : Settings)
    (session : String) (next : Log → Settings → ExceptT Failure m α) :
    (replay host settings session >>= fun session => next session.log session.settings) =
      replay host {} session >>= fun session => next session.log settings := by
  simp only [replay, bind_assoc, pure_bind, Transcript.log_replay, Transcript.settings_replay]

end Marked

namespace Machine

variable {name : Nat → EventId} {machine after : Machine}

theorem run_find (name : Nat → EventId) (path : String) (machine : Machine) :
    (Root.find (host name).files path).run machine = (machine.disk.root path, machine) := by
  have resolves : ((host name).files.resolve? path).run machine =
      (machine.disk.resolve? path, machine) := rfl
  rw [Root.find, Disk.root]
  cases Path.isHere path with
  | true => rfl
  | false =>
      simp only [Bool.false_eq_true, if_false, StateT.run_bind]
      rw [resolves]
      cases machine.disk.resolve? path <;> rfl

theorem load_after_save {path : String} {settings : Settings}
    (canonical : machine.disk.Canonical machine.disk.here)
    (saved : (settings.save (host name).files (machine.disk.root path)).run.run machine =
      (.ok (), after)) :
    (Settings.load (host name).files (after.disk.root path)).run.run after =
      (.ok settings, after) := by
  rcases Settings.exists_write_of_save saved with ⟨between, made, wrote⟩
  have madeOnDisk :
      machine.disk.keep (machine.disk.makeDirectories? (machine.disk.root path).directory) =
      (true, between.disk) := congrArg (fun result => (result.1, result.2.disk)) made
  have wroteOnDisk : between.disk.keep (between.disk.write? (machine.disk.root path).settingsPath
      settings.encode.pretty.toUTF8) = (true, after.disk) :=
    congrArg (fun result => (result.1, result.2.disk)) wrote
  have made := Disk.eq_some_of_keep madeOnDisk
  have written := Disk.eq_some_of_keep wroteOnDisk
  have grows : machine.disk.Extends after.disk :=
    (Disk.Extends.makeDirectories? made).trans (Disk.of_write? written).1
  have same : after.disk.place? (after.disk.root path).settingsPath =
      after.disk.place? (machine.disk.root path).settingsPath := by
    rw [Disk.place?_settingsPath, Disk.place?_settingsPath, grows.reach_root canonical]
  have found := Disk.read?_of_write? written same
  apply Settings.load_of_read?
  · exact Prod.ext found.1 rfl
  · exact Prod.ext found.2 rfl

theorem save_of_initSettings {path message : String} {settings : Settings}
    (initialized : (initSettings (host name) path settings).run.run machine =
      (.ok message, after)) :
    (settings.save (host name).files (machine.disk.root path)).run.run machine =
      (.ok (), after) := by
  rw [initSettings, run_lift_bind, run_find] at initialized
  rcases exists_of_run_bind_eq_ok initialized with ⟨_, between, saved, shown⟩
  cases shown
  exact saved

theorem gather_of_load {path : String} {settings : Settings} (enabled : settings.enabled = true)
    (loaded : (Settings.load (host name).files (machine.disk.root path)).run.run machine =
      (.ok settings, machine))
    (session : String) (target : Target) (output : Option String) :
    (gather (host name) path session target none output).run.run machine =
      (gatherMarked (host name) session target settings.cellMarker output).run.run machine := by
  rw [gather, run_lift_bind, run_find, run_bind_of_ok loaded]
  simp only [enabled, if_true, Option.isSome_none, Bool.false_eq_true, if_false]
  exact congrArg (fun action => action.run.run machine) (replay_bind (host name) settings session
    fun log settings => present (host name) target output log settings.template)

end Machine

/-- Saved settings are read back as they are, whatever their file held before: under the path of the
file and for the root of the session. So right after the settings of a session have been written
with a marker, gathering without another marker is gathering with that one, unless it is blank, in
which case the default marker takes its place. -/
theorem settings_survive :
    (∀ {σ : Type} (files : Files (StateM σ)), files.Remembers →
      ∀ (root : Root) (settings : Settings) (before after : σ),
        (settings.save files root).run.run before = (.ok (), after) →
          (Settings.readFrom files root.settingsPath).run.run after = (.ok settings, after) ∧
          (Settings.load files root).run.run after = (.ok settings, after)) ∧
    ∀ (name : Nat → EventId) (machine after : Machine) (path marker message : String),
      machine.disk.Canonical machine.disk.here →
      (perform (Machine.host name) (.initSettings path (some marker) false)).run.run machine =
          (.ok message, after) →
        ∃ used, (used = marker ↔ Text.isBlankText marker = false) ∧
          (Text.isBlankText marker = true → used = Program.defaultMarker) ∧
          ∀ (session : String) (target : Target) (output : Option String),
            (perform (Machine.host name) (.gather path session target none output)).run.run after =
              (gatherMarked (Machine.host name) session target used output).run.run after := by
  refine ⟨?_, ?_⟩
  · intro σ files remembers root settings before after saved
    rcases Settings.exists_write_of_save saved with ⟨between, _, wrote⟩
    exact ⟨Settings.readFrom_of_read? (remembers.read? wrote),
      Settings.load_of_read? (remembers.doesExist wrote) (remembers.read? wrote)⟩
  · intro name machine after path marker message canonical initialized
    have saved := Machine.save_of_initSettings initialized
    refine ⟨Settings.cellMarker { marker := some marker }, ?_, ?_, ?_⟩
    · cases blank : Text.isBlankText marker with
      | true =>
          have notBlank : Text.isBlankText Program.defaultMarker = false := by decide +kernel
          simp only [Settings.cellMarker, blank, if_true, Bool.true_eq_false, iff_false]
          rintro rfl
          simp [notBlank] at blank
      | false => simp [Settings.cellMarker, blank]
    · intro blank
      simp [Settings.cellMarker, blank]
    · intro session target output
      exact Machine.gather_of_load rfl
        (Machine.load_after_save canonical saved) session target output

namespace Sample

/-- A marker with characters that are escaped in a text, after a blank. -/
def marker : String := " \"\\\t# 'é"

/-- A disk with a directory, which is the current one. -/
def machine : Machine where
  disk := { here := ["home"], nodes := [(["home"], .directory)] }

def host : Host (StateM Machine) := Machine.host fun number => ⟨toString number⟩

/-- What is shown after the settings of a root that did not exist were written. -/
def message : String :=
  linesText ["Initialized gather settings:", "  Path: /home/../new/.gather/settings.json",
    "  Enabled: true", "  Cell marker: " ++ marker]

theorem canonical_here : machine.disk.Canonical machine.disk.here := by
  have atRoot : machine.disk.Canonical [] := ⟨by simp, by simp⟩
  have isName : Path.IsName "home" := by constructor <;> decide
  exact atRoot.concat rfl isName

end Sample

theorem settings_survive_sample :
    Disk.files.Remembers ∧
    (∃ after, ((Settings.mk false (some Sample.marker)).save Disk.files ⟨"/home/"⟩).run.run
        Sample.machine.disk = (.ok (), after) ∧
      (Settings.readFrom Disk.files (Root.settingsPath ⟨"/home/"⟩)).run.run after =
        (.ok ⟨false, some Sample.marker⟩, after) ∧
      (Settings.load Disk.files ⟨"/home/"⟩).run.run after =
        (.ok ⟨false, some Sample.marker⟩, after)) ∧
    Sample.machine.disk.Canonical Sample.machine.disk.here ∧
    ∃ after, (perform Sample.host (.initSettings "../new" (some Sample.marker) false)).run.run
        Sample.machine = (.ok Sample.message, after) ∧
      ∀ (session : String) (target : Target) (output : Option String),
        (perform Sample.host (.gather "../new" session target none output)).run.run after =
          (gatherMarked Sample.host session target Sample.marker output).run.run after := by
  have saved : (((Settings.mk false (some Sample.marker)).save Disk.files ⟨"/home/"⟩).run.run
      Sample.machine.disk).1 = .ok () := by
    decide +kernel
  have initialized :
      ((perform Sample.host (.initSettings "../new" (some Sample.marker) false)).run.run
      Sample.machine).1 = .ok Sample.message := by
    decide +kernel
  have notBlank : Text.isBlankText Sample.marker = false := by decide +kernel
  refine ⟨Disk.remembers_files, ⟨_, Prod.ext saved rfl, ?_⟩, Sample.canonical_here, _,
    Prod.ext initialized rfl, ?_⟩
  · exact settings_survive.1 Disk.files Disk.remembers_files _ _ _ _ (Prod.ext saved rfl)
  · rcases settings_survive.2 _ Sample.machine _ _ _ _ Sample.canonical_here
      (Prod.ext initialized rfl) with
      ⟨used, isMarker, _, gathers⟩
    rcases isMarker.mpr notBlank with rfl
    exact gathers

end Command

end NotebookSlice
