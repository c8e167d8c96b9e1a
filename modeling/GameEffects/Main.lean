import GameEffects.CommonFile
import GameEffects.DryRun
import GameEffects.LogLine
import GameEffects.Yaml.Reader

/-!
# Command line

Reads the file that is named by the first argument, makes a dry run of it, or of the part of it that
is named by the second argument, and prints the log. The exit status is that of the dry run.
-/

namespace GameEffects.Main

/-- The bytes of the file at a path, if it can be read. -/
def bytesAt (path : String) : IO (Option (List UInt8)) := do
  try
    let bytes ← IO.FS.readBinFile path
    return some bytes.toList
  catch _ => return none

/-- The message of a dry run that stops without a status. -/
def stopMessage : DryRunFault → Text
  | .effect fault => fault.message
  | .noOrder => "the names of the invalid effects cannot be sorted".toList
  | .write fault => fault.message

/-- The path under which the common file is shown. -/
def commonPath : Text :=
  "<default config>".toList

/-- The files that a dry run may read: the one that the first argument names, or the common file. -/
def filesFor : List String → IO (Text → Option (List UInt8))
  | [] => return withCommonFile commonPath fun _ => none
  | path :: _ => do
    let bytes ← bytesAt (String.ofList (normalPath path.toList))
    return fun _ => bytes

/-- What a dry run uses. -/
def host (format : LogFormat) (files : Text → Option (List UInt8)) : DryRun.Host where
  files := files
  commonPath := commonPath
  reader := Yaml.readDocument
  writer := LogLine.fault? format

/-- Makes the dry run that the arguments ask for. -/
def run (arguments : List String) : IO UInt32 := do
  let files ← filesFor arguments
  let objects := (← IO.getEnv "SPECIALFX_LOG_JSON") == some "1"
  let format : LogFormat := if objects then .object else .console
  let result := DryRun.ofArguments (host format files) (arguments.map String.toList)
  for event in result.trace.events do
    IO.eprintln (String.ofList (LogLine.line format event))
  match result.outcome with
  | .ok status => return UInt32.ofNat status
  | .error fault => do
    IO.eprintln (String.ofList (stopMessage fault))
    return 1

end GameEffects.Main

/-- The dry run of an effect file. -/
def main (arguments : List String) : IO UInt32 :=
  GameEffects.Main.run arguments
