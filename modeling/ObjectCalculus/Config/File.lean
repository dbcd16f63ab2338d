import ObjectCalculus.Config.Basic
import ObjectCalculus.Toml.Codec

/-!
# Stored configurations

A configuration is kept as the text of a file. What can stand at a path, what is
handed to a codec for a configuration and what is made of a table that it has read
are told here; which paths lead to which files, and what is done with them, is the
matter of `ObjectCalculus.Config.Folder`.
-/

set_option autoImplicit false

namespace ObjectCalculus

inductive FileError where
  | notFound
  | invalidData
  | isADirectory
  | notADirectory
  | nameTooLong
  | nulInName
  | other (reason : String)

def FileError.message : FileError → String
  | .notFound => "no such file or directory"
  | .invalidData => "not valid UTF-8"
  | .isADirectory => "is a directory"
  | .notADirectory => "not a directory"
  | .nameTooLong => "file name too long"
  | .nulInName => "file name holds a NUL character"
  | .other reason => reason

inductive ConfigError where
  | io (path : String) (cause : FileError)
  | parse (path reason : String)
  | serialize (reason : String)
  | invalid (reason : String)

def ConfigError.message : ConfigError → String
  | .io path cause => "config file '" ++ path ++ "': " ++ cause.message
  | .parse path reason =>
      "failed to parse config file '" ++ path ++ "': " ++ reason
  | .serialize reason => "failed to serialize config: " ++ reason
  | .invalid reason => "invalid config: " ++ reason

/-- What stands at a path. Out of reach is a path at which no file can stand, for
one reason when it is read and for another, it may be, when it is written. -/
inductive Entry where
  | absent
  | directory
  | file (content : ByteArray)
  | outOfReach (onReading onWriting : FileError)

def Entry.isPresent : Entry → Bool
  | .absent => false
  | .directory => true
  | .file _ => true
  | .outOfReach _ _ => false

def Entry.ofText (text : String) : Entry :=
  .file text.toUTF8

def Entry.readText : Entry → Except FileError String
  | .absent => .error .notFound
  | .directory => .error .isADirectory
  | .file content =>
      match String.fromUTF8? content with
      | some text => .ok text
      | none => .error .invalidData
  | .outOfReach onReading _ => .error onReading

def Entry.writeText (text : String) : Entry → Except FileError Entry
  | .absent => .ok (.ofText text)
  | .directory => .error .isADirectory
  | .file _ => .ok (.ofText text)
  | .outOfReach _ onWriting => .error onWriting

namespace Config

def fileName : String := "phi.toml"

def depthKey : String := "max_depth"

def traceKey : String := "trace_dataization"

def defaultLines : List String := [
  "# Phi engine configuration",
  "#",
  "# Maximum nesting of attribute evaluations in one dataization (default: 128).",
  "# Deeper graphs fail with a depth error instead of exhausting the stack.",
  "# Each level costs about 5 KiB of stack; raise this only for threads",
  "# spawned with a larger stack.",
  "max_depth = 128",
  "",
  "# Emit a trace event for every dataization step (default: false).",
  "trace_dataization = false"]

def defaultText : String :=
  String.join (defaultLines.map fun line => line ++ "\n")

/-- The entries that are printed for a configuration. -/
def record (config : Config) : Toml.Record :=
  [(depthKey, .unsigned config.maxDepth), (traceKey, .boolean config.traceDataization)]

def serialize (codec : Toml.Codec) (config : Config) : Except ConfigError String :=
  (codec.print config.record).mapError .serialize

def depthOf : Option Toml.Node → Option UInt64
  | none => some default.maxDepth
  | some (.integer number) =>
      if 0 ≤ number then some (UInt64.ofNat number.toNat) else none
  | some _ => none

def traceOf : Option Toml.Node → Option Bool
  | none => some default.traceDataization
  | some (.boolean truth) => some truth
  | some _ => none

/-- What the document does not tell is as in the default configuration; other
keys are ignored. -/
def ofTable (table : Toml.Table) : Option Config := do
  let maxDepth ← depthOf (table.lookup depthKey)
  let traceDataization ← traceOf (table.lookup traceKey)
  some ⟨maxDepth, traceDataization⟩

def validate (config : Config) : Except ConfigError Unit :=
  if config.limit = 0 then
    .error (.invalid "max_depth must be at least 1")
  else
    .ok ()

/-- The path is only named in the failure. -/
def parse (codec : Toml.Codec) (path content : String) : Except ConfigError Config :=
  match codec.read content with
  | .error reason => .error (.parse path reason)
  | .ok table =>
      match ofTable table with
      | some config => .ok config
      | none => .error (.parse path "not a configuration")

/-- The default text is a document of two entries. -/
def ReadsDefault (codec : Toml.Codec) : Prop :=
  ∃ table, codec.read defaultText = .ok table ∧
    table.lookup depthKey = some (.integer 128) ∧
    table.lookup traceKey = some (.boolean false)

end Config

end ObjectCalculus
