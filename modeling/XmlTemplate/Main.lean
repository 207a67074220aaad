import XmlTemplate.Command.Arguments
import XmlTemplate.Command.Outcome

/-!
The command line. The files that the request looks at are read until it looks at nothing new; then
its outcome is carried out on the disk.
-/

namespace XmlTemplate.Disk

def pathOf (location : Location) : String := "/" ++ "/".intercalate location

def entryAt (location : Location) : IO (Option Entry) := do
  try
    return some (.file (← IO.FS.readBinFile (pathOf location)))
  catch
    | .noFileOrDirectory .. => return none
    | .inappropriateType .. => return some .directory
    | refusal => throw refusal

def readAlong (files : Files) (location : Location) : List PathPart → IO Files
  | [] => return files
  | .here :: rest => readAlong files location rest
  | .up :: rest => readAlong files location.dropLast rest
  | .name text :: rest => do
      let inner := location ++ [text]
      match files.entry? inner with
      | some .directory => readAlong files inner rest
      | some (.file _) => return files
      | none =>
          if maxNameBytes < text.utf8ByteSize then return files
          else match ← entryAt inner with
            | none => return files
            | some entry => readAlong (files.put inner entry) inner rest

def readPath (files : Files) (path : String) : IO Files :=
  match files.route path with
  | .ok (start, parts) => readAlong files start parts
  | .error _ => return files

partial def gather (request : Command.Request) (files : Files) (known : List String) :
    IO Files := do
  match (request.paths files).filter (!known.contains ·) with
  | [] => return files
  | paths => gather request (← paths.foldlM readPath files) (known ++ paths)

/-- Makes and writes what was not there before, outermost directories first. -/
def carryOut (before after : Files) : IO Unit :=
  after.entries.reverse.forM fun (location, entry) => do
    if before.entry? location ≠ some entry then
      match entry with
      | .directory => IO.FS.createDirAll (pathOf location)
      | .file bytes => IO.FS.writeBinFile (pathOf location) bytes

def workingDirectory : IO Files := do
  let location := (Path.parts (toString (← IO.currentDir))).filterMap fun
    | .name text => some text
    | _ => none
  let around := (List.range location.length).map fun size => location.take (size + 1)
  return ⟨around.map fun outer => (outer, .directory), location⟩

end XmlTemplate.Disk

namespace XmlTemplate.Command

def usage : String :=
  "Usage: xmlskin [OPTIONS] expand [TEMPLATE] [-c FILE] [-o FILE] [--var NAME=VALUE]...\n" ++
  "                                [--pretty]\n" ++
  "       xmlskin [OPTIONS] select DOCUMENT SELECTOR [--format text|json]\n" ++
  "Options: -v, --verbose; -q, --quiet; --no-color; -h, --help; -V, --version\n"

def Stop.text (stop : Stop) : String :=
  match stop with
  | .helpAsked | .nothingAsked => usage
  | .versionAsked => "xmlskin 0.1.0\n"
  | .commandMissing => "error: a command is required\n" ++ usage
  | .unknownCommand => "error: unknown command\n" ++ usage
  | .unknownArgument => "error: unexpected argument\n" ++ usage
  | .conflict => "error: an argument cannot be used twice or with another one\n" ++ usage
  | .needlessValue => "error: an option takes no value\n" ++ usage
  | .badValue => "error: invalid or missing value\n" ++ usage
  | .badVariable _ _ => stop.message?.getD "" ++ "\n" ++ usage
  | .argumentMissing => "error: a required argument is missing\n" ++ usage

end XmlTemplate.Command

open XmlTemplate

def main (arguments : List String) : IO UInt32 := do
  match Command.Invocation.read arguments with
  | .error stop =>
      if stop.status = 0 then IO.print stop.text else IO.eprint stop.text
      return .ofNat stop.status
  | .ok invocation =>
      let request := invocation.request
      let files ← Disk.gather request (← Disk.workingDirectory) []
      let outcome := request.run files
      Disk.carryOut files outcome.files
      IO.print outcome.stdout
      IO.eprint outcome.stderr
      return .ofNat outcome.status
