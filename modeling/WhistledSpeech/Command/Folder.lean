import WhistledSpeech.Command.Path
import WhistledSpeech.Command.Surroundings

/-!
# A folder of texts

The simplest surroundings: a folder that holds some texts, and a standard input that is a text. A
command that is carried out there leaves a folder behind, in which the sound files it wrote and what it
wrote to the standard output can be looked at.

The folder lies in a folder for what is needed for a while. Of what is around it little is known: the
folders every system has, and the file in which everything gets lost. A command may write there too; the
folder does not show it.
-/

namespace WhistledSpeech

/-- **A folder**, and what has been written from there. -/
structure Folder where
  /-- The texts of the files that were there, within the folder and around it. -/
  texts : List (Place × String)
  /-- The files that have been written, the last first. -/
  written : List (Place × List UInt8)
  /-- What has been written to the standard output. -/
  emitted : List UInt8

namespace Folder

/-- The place of the folder. -/
def home : Place := ["tmp", "folder"]

/-- The file in which everything gets lost. -/
def sink : Place := ["dev", "null"]

/-- The folders at the top of every system. -/
def systemFolders : List String :=
  ["bin", "boot", "dev", "etc", "home", "lib", "media", "mnt", "opt", "proc", "root", "run", "sbin",
    "srv", "sys", "tmp", "usr", "var"]

/-- The place of a file within the folder. -/
def within (name : String) : Place := home ++ (name.splitOn "/").filter (!·.isEmpty)

/-- A folder of files with these names and texts, in which nothing has been written. -/
def ofTexts (texts : List (String × String)) : Folder :=
  ⟨(sink, "") :: texts.map fun file => (within file.1, file.2), [], []⟩

/-- Whether there is a folder at a place. All on the way to a file are folders. -/
def hasFolder (folder : Folder) (place : Place) : Bool :=
  place.isPrefixOf home || systemFolders.any (fun name => place == [name]) ||
    folder.texts.any fun file => place.isPrefixOf file.1

/-- **What there is at a place.** -/
def occupant? (folder : Folder) (place : Place) : Option Occupant :=
  match folder.texts.lookup place with
  | some text => some (.file text)
  | none => if folder.hasFolder place then some .folder else none

/-- Writes a file at a place. -/
def store (folder : Folder) (place : Place) (bytes : List UInt8) : Folder :=
  { folder with written := (place, bytes) :: folder.written.filter fun file => file.1 != place }

/-- **The surroundings of a folder** with a standard input. -/
def surroundings (input : String) : Surroundings (StateM Folder) where
  standardInput := pure input
  textAt path := do ExceptT.mk (pure (Path.textAt (← get).occupant? home path))
  emit bytes := modify fun folder => { folder with emitted := folder.emitted ++ bytes }
  store path bytes := do
    let folder ← get
    let place ← ExceptT.mk (pure (Path.placeFor folder.occupant? home path))
    set (folder.store place bytes)

/-- The files that have been written in the folder and were not there before, with the names they have
there. -/
def fresh (folder : Folder) : List (String × List UInt8) :=
  folder.written.filterMap fun file =>
    if home.isPrefixOf file.1 && (folder.texts.lookup file.1).isNone then
      some ("/".intercalate (file.1.drop home.length), file.2)
    else none

end Folder

end WhistledSpeech
