import ClassSynth.ClassTree.Dictionary
import ClassSynth.FileTree.Basic
import ClassSynth.Inference.Error
import ClassSynth.Inference.Options
import ClassSynth.Java.Draft
import ClassSynth.Json.Reader
import ClassSynth.Json.Value

/-!
# Reports of conversions

What a conversion of many samples tells: which were converted to what, which failed and why, and
what was logged on the way.  A sample that fails does not end a conversion; a few errors do.
-/

set_option autoImplicit false

namespace ClassSynth

inductive LogLevel where
  | info
  | warning
deriving DecidableEq

structure LogEntry where
  level : LogLevel
  message : Text

/-- The outcome of a conversion, by sample file. -/
structure Report where
  generated : Keyed Text
  failed : Keyed Text

def Report.ok (report : Report) : Bool := report.failed.isEmpty

inductive InputError where
  | noInput
  | invalidPath (path : Text)
  | noSamples (paths : List Text)

def InputError.message : InputError → Text
  | .noInput => "At least one input file is required"
  | .invalidPath path => "Invalid input path: " ++ path
  | .noSamples paths => "No JSON files found in: " ++ Text.join ", " paths

inductive ConversionError where
  | input (error : InputError)
  | options (error : OptionError)
  | package (error : Java.InvalidPackageName)
  | reservedClass (error : Java.ReservedClassName)
  | file (error : FileError)
  | document (error : Json.ReadError)
  | synthesis (error : SynthesisError)
  | template (error : Java.RenderError)
  | draft (error : Java.DraftError)
  /-- An output that is no path. -/
  | noOutput

def ConversionError.message : ConversionError → Text
  | .input error => error.message
  | .options error => error.message?.getD []
  | .package error => error.message
  | .reservedClass error => error.message
  | .file error => error.message
  | .document error => error.message
  | .synthesis error => error.message
  | .template error => error.message?.getD []
  | .draft error => error.message?.getD []
  | .noOutput => []

end ClassSynth
