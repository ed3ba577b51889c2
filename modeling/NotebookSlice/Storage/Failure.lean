/-!
# Failures

Why something that deals with files fails.
-/

namespace NotebookSlice

/-- The format of a transcript. -/
inductive Format where
  | json
  | yaml
deriving DecidableEq, Repr, Inhabited

namespace Format

/-- The name of a format. -/
def name : Format → String
  | json => "JSON"
  | yaml => "YAML"

end Format

/-- Why something fails. -/
inductive Failure where
  | settingsUnreadable (path : String)
  | settingsMalformed
  | directoryNotMade (path : String)
  | settingsNotWritten (path : String)
  | transcriptUnreadable (path : String)
  | transcriptMalformed (format : Format)
  /-- The settings at a path say that nothing is gathered. -/
  | disabled (path : String)
  | programNotWritten (path : String)
deriving DecidableEq, Repr, Inhabited

namespace Failure

/-- The wording of a failure. -/
def message : Failure → String
  | settingsUnreadable path => "Failed to read gather settings at " ++ path
  | settingsMalformed => "Failed to parse gather settings JSON"
  | directoryNotMade path => "Failed to create meta dir: " ++ path
  | settingsNotWritten path => "Failed to write gather settings to " ++ path
  | transcriptUnreadable path => "Failed to read session transcript at " ++ path
  | transcriptMalformed format => "Failed to parse session transcript " ++ format.name
  | disabled path => "Gathering is disabled; set enable_gather in " ++ path
  | programNotWritten path => "Failed to write gathered program to " ++ path

end Failure

end NotebookSlice
