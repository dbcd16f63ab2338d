import ObjectCalculus.Config.File
import ObjectCalculus.Toml.Document

/-!
# Configurations in a folder

A folder holds files and further folders, and a path says how to walk from the
folder to one of them. A step up leads to where the walk came from, so a path may
leave the folder; of what lies outside only the way itself is known.

Configurations are loaded from a folder and saved to it in several accesses, by way
of any codec. Where one of them fails the others before it have been carried out,
so it matters that what can fail comes before anything is written.
-/

set_option autoImplicit false

namespace ObjectCalculus

/-- The names on the way from the folder, innermost first. The way may begin with
steps up, or at the root of everything. -/
abbrev Place := List String

namespace Place

def here : String := "."

def up : String := ".."

def root : Place := ["/"]

/-- A place that is a directory by the way to it: the folder itself, what the
folder lies in, and the root. -/
def isAncestor (place : Place) : Bool :=
  place.all (· == up) || place == root

def parent (place : Place) : Place :=
  if place = root then root
  else if place.isAncestor then up :: place
  else place.tail

end Place

structure Path where
  text : String
  start : Place
  names : List String
  endsInSlash : Bool

namespace Path

def separator : Char := '/'

def ofText (text : String) : Path where
  text := text
  start := if text.toList.head? = some separator then Place.root else []
  names := (text.splitOn separator.toString).filter (· ≠ "")
  endsInSlash := text.toList.getLast? == some separator

def hasNul (path : Path) : Bool :=
  path.text.toList.any fun character => character.toNat == 0

end Path

/-- What stands in a folder, by place; a place that is not told is empty. -/
abbrev Folder := List (Place × Entry)

namespace Folder

def standing (folder : Folder) (place : Place) : Entry :=
  if place.isAncestor then .directory else (folder.lookup place).getD .absent

def set (folder : Folder) (place : Place) (entry : Entry) : Folder :=
  (place, entry) :: folder.filter fun other => other.1 != place

def nameLimit : Nat := 255

/-- One name further on the way: only a directory can be walked through. -/
def walk (folder : Folder) (place : Place) (name : String) :
    Except FileError Place :=
  match folder.standing place with
  | .absent => .error .notFound
  | .file _ => .error .notADirectory
  | .outOfReach onReading _ => .error onReading
  | .directory =>
      if name = Place.here then .ok place
      else if name = Place.up then .ok place.parent
      else if nameLimit < name.utf8ByteSize then .error .nameTooLong
      else .ok (name :: place)

def locate (folder : Folder) (path : Path) : Except FileError Place :=
  if path.hasNul then .error .nulInName
  else path.names.foldlM folder.walk path.start

/-- No file can be made, and none is found, under a name that asks for a
directory. -/
def asDirectory : Entry → Entry
  | .absent => .outOfReach .notFound .isADirectory
  | .file _ => .outOfReach .notADirectory .isADirectory
  | entry => entry

def entry (folder : Folder) (path : Path) : Entry :=
  match folder.locate path with
  | .error cause => .outOfReach cause cause
  | .ok place =>
      if path.endsInSlash then asDirectory (folder.standing place)
      else folder.standing place

def setEntry (folder : Folder) (path : Path) (entry : Entry) : Folder :=
  match folder.locate path with
  | .error _ => folder
  | .ok place => folder.set place entry

def put (folder : Folder) (path : Path) (content : ByteArray) : Folder :=
  match folder.entry path with
  | .absent => folder.setEntry path (.file content)
  | .file _ => folder.setEntry path (.file content)
  | _ => folder

def ensureDirectory (folder : Folder) (place : Place) : Folder :=
  match folder.standing place with
  | .absent => folder.set place .directory
  | _ => folder

/-- Makes every directory that is missing on the way, up to the first name that
cannot be one. -/
def makeDirectories (folder : Folder) (place : Place) : List String → Folder
  | [] => folder.ensureDirectory place
  | name :: rest =>
      let folder := folder.ensureDirectory place
      match folder.walk place name with
      | .error _ => folder
      | .ok next => folder.makeDirectories next rest

def makeDirectory (folder : Folder) (path : Path) : Folder :=
  if path.hasNul then folder else folder.makeDirectories path.start path.names

def remove (folder : Folder) (path : Path) : Folder :=
  match folder.entry path, folder.locate path with
  | .file _, .ok place => folder.filter fun other => other.1 != place
  | .directory, .ok place =>
      if place.isAncestor then folder
      else folder.filter fun other => !place.isSuffixOf other.1
  | _, _ => folder

/-- Carried out in a folder. A failure keeps what was done to the folder before. -/
abbrev Access (α : Type) := ExceptT ConfigError (StateM Folder) α

def readText (path : Path) : Access String := do
  match ((← get).entry path).readText with
  | .ok content => pure content
  | .error cause => throw (.io path.text cause)

def writeText (path : Path) (content : String) : Access Unit := do
  match ((← get).entry path).writeText content with
  | .ok written => modify fun folder => folder.setEntry path written
  | .error cause => throw (.io path.text cause)

def hasEntry (path : Path) : Access Bool := do
  pure ((← get).entry path).isPresent

end Folder

namespace Config

def load (codec : Toml.Codec) (path : Path) : Folder.Access Config := do
  let content ← Folder.readText path
  let config ← parse codec path.text content
  config.validate
  pure config

def saveDefaultIfMissing (path : Path) : Folder.Access Unit := do
  if !(← Folder.hasEntry path) then
    Folder.writeText path defaultText

def save (codec : Toml.Codec) (config : Config) (path : Path) : Folder.Access Unit := do
  let content ← config.serialize codec
  Folder.writeText path content

end Config

namespace Folder

inductive Step where
  | put (content : ByteArray)
  | makeDirectory
  | remove
  | read
  | load
  | default
  | writeDefault
  | write (config : Config)
  | validate (config : Config)
  | defaultText

inductive Answer where
  | nothing
  | done
  | absent
  | stored (content : String)
  | text (content : String)
  | config (config : Config)
  | failure (error : ConfigError)

def answerOf {α : Type} (onSuccess : α → Answer) : Except ConfigError α → Answer
  | .ok value => onSuccess value
  | .error failure => .failure failure

def readAnswer (entry : Entry) : Answer :=
  match entry.readText with
  | .ok content => .stored content
  | .error _ => .absent

def carryOut {α : Type} (folder : Folder) (onSuccess : α → Answer)
    (access : Access α) : Answer × Folder :=
  let (result, after) := access.run.run folder
  (answerOf onSuccess result, after)

def perform (codec : Toml.Codec) (folder : Folder) (path : Path) : Step → Answer × Folder
  | .put content => (.nothing, folder.put path content)
  | .makeDirectory => (.nothing, folder.makeDirectory path)
  | .remove => (.nothing, folder.remove path)
  | .read => (readAnswer (folder.entry path), folder)
  | .load => folder.carryOut .config (Config.load codec path)
  | .default => (.config .default, folder)
  | .writeDefault =>
      folder.carryOut (fun _ => .done) (Config.saveDefaultIfMissing path)
  | .write config => folder.carryOut (fun _ => .done) (config.save codec path)
  | .validate config => (answerOf (fun _ => .done) config.validate, folder)
  | .defaultText => (.text Config.defaultText, folder)

def runWith (codec : Toml.Codec) (folder : Folder) : List (Path × Step) → List Answer
  | [] => []
  | (path, step) :: rest =>
      let (answer, after) := folder.perform codec path step
      answer :: runWith codec after rest

def run : Folder → List (Path × Step) → List Answer :=
  runWith .plain

end Folder

end ObjectCalculus
