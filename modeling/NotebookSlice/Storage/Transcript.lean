import NotebookSlice.Codec.Transcript
import NotebookSlice.Codec.TranscriptYaml
import NotebookSlice.Files
import NotebookSlice.Path
import NotebookSlice.Storage.Failure

/-!
# Transcripts in files

The extension of a file tells the format of the transcript in it.
-/

namespace NotebookSlice

namespace Format

/-- The format of the transcript in a file. -/
def ofPath (path : String) : Format :=
  match Path.extension? path with
  | some "yaml" | some "yml" => yaml
  | _ => json

end Format

namespace Transcript

/-- The transcript that a text holds. -/
def parse? (format : Format) (text : String) : Option Transcript :=
  match format with
  | .yaml => ofYaml? text
  | .json => (Json.decode decode text).toOption

variable {m : Type → Type} [Monad m]

/-- Reads a transcript from a file. -/
def load (files : Files m) (path : String) : ExceptT Failure m Transcript := do
  match ← files.read? path with
  | none => throw (.transcriptUnreadable path)
  | some text =>
    match parse? (Format.ofPath path) text with
    | some transcript => return transcript
    | none => throw (.transcriptMalformed (Format.ofPath path))

end Transcript

end NotebookSlice
