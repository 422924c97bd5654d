import TableQuery.CommandLine.Arguments
import TableQuery.CommandLine.FileTree
import TableQuery.Engine
import TableQuery.Json.Writing
import TableQuery.Settings.Document

/-!
# The command

One query is run on one file. The result goes to the output, or into the file if it is to be
changed in place; a sentence on what was done and the remarks go to the error output. With `--json`
the whole report goes to the output instead.

* `respond`: what the command answers, given what is read at each path;
* `FileTree.after`: the files when it is done.
-/

namespace TableQuery.CommandLine

open Query (PatternLibrary)

/-- What is read at each path. -/
abbrev Files := String → Except ReadFault String

/-- Why the command does not get to its query. -/
inductive CommandFault
  | unreadableConfig (path : String) (fault : ReadFault)
  | invalidConfig (path : String)
  | wideDelimiter (c : Char)
  | unreadableFile (path : String) (fault : ReadFault)
deriving DecidableEq, Repr

def CommandFault.message : CommandFault → String
  | unreadableConfig path fault => "failed to read config " ++ path ++ ": " ++ fault.message
  | invalidConfig path => "invalid config " ++ path ++ ": not a document of settings"
  | wideDelimiter c =>
    "delimiter must be a single ASCII character, got '" ++ c.toString ++ "'"
  | unreadableFile path fault => "failed to read " ++ path ++ ": " ++ fault.message

/-- What the command answers, and the file that it writes. -/
structure Response where
  exitCode : Nat
  stdout : String
  stderr : String
  written : Option (String × String) := none
deriving DecidableEq, Repr

/-! ## Reports -/

def profileJson (profile : Profile) : Json :=
  .object [("name", .string profile.name), ("inferredType", .string profile.kind.name),
    ("nonNullCount", .number profile.valueCount),
    ("uniqueValueCount", .number profile.distinctCount)]

/-- A member that is left out if there is nothing in it. -/
def optional (name : String) : Option String → List (String × Json)
  | some text => [(name, .string text)]
  | none => []

def reportJson (report : Report) : Json :=
  .object ([("operation", .string (Report.operationName report.operation)),
    ("resultText", .string report.resultText),
    ("summary", .string report.summary),
    ("rowsAffected", .number report.rowsAffected),
    ("affectedColumns", .list (report.affectedColumns.map .string)),
    ("columnProfiles", .list (report.profiles.map profileJson)),
    ("diagnostics", .list (report.diagnostics.map .string)),
    ("isProjection", .bool report.isProjection)] ++
    optional "originalTableText" report.queriedText ++ optional "error" report.error)

/-- The sentence and the remarks of a report, each on a line of its own. -/
def remarks (report : Report) : String :=
  report.summary ++ "\n" ++ String.join (report.diagnostics.map fun d => "  - " ++ d ++ "\n")

/-- Is the resulting text shown? Not after a failure and not when it goes into the file. -/
def showsResult (options : Options) (report : Report) : Bool :=
  !report.isFailure && !(options.inPlace && !report.isProjection)

/-- Has the report changed the table? -/
def isChange (report : Report) : Bool :=
  (report.operation = some .update || report.operation = some .delete) &&
    !report.isFailure && 0 < report.rowsAffected

/-- The answer to a report. -/
def respondReport (options : Options) (report : Report) : Response where
  exitCode := if report.isFailure then 1 else 0
  stdout :=
    if options.json then (reportJson report).text ++ "\n"
    else if showsResult options report then report.resultText
    else ""
  stderr := if options.json then "" else remarks report
  written :=
    if options.inPlace && isChange report then some (options.file, report.resultText) else none

/-! ## Running -/

/-- The settings of the settings file, or the usual ones. -/
def readSettings (files : Files) : Option String → Except CommandFault Settings
  | none => .ok {}
  | some path =>
    match files path with
    | .error fault => .error (.unreadableConfig path fault)
    | .ok document =>
      match Settings.ofDocument? document with
      | none => .error (.invalidConfig path)
      | some settings => .ok settings

/-- Settings with the delimiter of an option. -/
def withDelimiter (settings : Settings) : Option Char → Except CommandFault Settings
  | none => .ok settings
  | some c =>
    if c.toNat < 128 then .ok { settings with delimiter := UInt8.ofNat c.toNat }
    else .error (.wideDelimiter c)

/-- The settings of a command. Its options count more than its settings file. -/
def settingsOf (files : Files) (options : Options) : Except CommandFault Settings := do
  let settings ← readSettings files options.config
  let settings ← withDelimiter settings options.delimiter
  return if options.noHeader then { settings with header := .absent } else settings

variable [PatternLibrary]

/-- The report of a command. -/
def reportOf (files : Files) (options : Options) : Except CommandFault Report := do
  let settings ← settingsOf files options
  match files options.file with
  | .error fault => throw (.unreadableFile options.file fault)
  | .ok text => return (Engine.ofSettings settings).run text options.query

/-- The answer to options. -/
def respondOptions (files : Files) (options : Options) : Response :=
  match reportOf files options with
  | .error fault => { exitCode := 1, stdout := "", stderr := "error: " ++ fault.message ++ "\n" }
  | .ok report => respondReport options report

def programName : String := "csvql"

def version : String := programName ++ " 0.1.0\n"

def usage : String :=
  "Query and edit CSV files with a small SQL dialect\n\n" ++
  "Usage: " ++ programName ++ " [OPTIONS] <FILE> <QUERY>\n\n" ++
  "Options:\n" ++
  "  -d, --delimiter <DELIMITER>\n" ++
  "      --no-header\n" ++
  "      --config <PATH>\n" ++
  "      --in-place\n" ++
  "      --json\n" ++
  "  -h, --help\n" ++
  "  -V, --version\n"

/-- The answer to the words of a command. -/
def respond (files : Files) (words : List String) : Response :=
  match readArguments words with
  | .error fault => { exitCode := 2, stdout := "", stderr := "error: " ++ fault.message ++ "\n" }
  | .ok .help => { exitCode := 0, stdout := usage, stderr := "" }
  | .ok .version => { exitCode := 0, stdout := version, stderr := "" }
  | .ok (.run options) => respondOptions files options

/-- The files when the command has answered. -/
def FileTree.after (tree : FileTree) (response : Response) : FileTree :=
  match response.written with
  | none => tree
  | some (path, text) => tree.write path text

end TableQuery.CommandLine
