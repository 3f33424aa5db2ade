import WhistledSpeech.Fault
import WhistledSpeech.Text.CodePoint

/-!
# Paths

A path is a text of names with slashes between them. Read from left to right, each name is a step: from a
folder into what it holds, back to where the folder lies, or nowhere. `Path.follow` takes the steps of a
path among places that are known by the names on the way to them from the top of all folders.

Every step starts at a folder, the one that goes nowhere too. So a slash after the name of a file leads
to no place, and a way through a folder that is not there ends there, even where it would have come back.
-/

namespace WhistledSpeech

/-- **A place among files and folders**: the names on the way to it from the top. -/
abbrev Place := List String

/-- What there is at a place. -/
inductive Occupant where
  /-- A file with a text. -/
  | file (text : String)
  /-- A folder. -/
  | folder
  deriving Repr, DecidableEq

/-- **A step of a path.** -/
inductive PathStep where
  /-- To stay. -/
  | stay
  /-- To go back to where the folder lies; the top of all folders lies in itself. -/
  | back
  /-- To go to what has a name. -/
  | enter (name : String)
  deriving Repr, DecidableEq

namespace Path

/-- The longest name there can be, in bytes. -/
def longestName : Nat := 255

/-- The longest path that can be followed, in bytes. -/
def longestPath : Nat := 4095

/-- The step between two slashes. -/
def stepOf (name : String) : PathStep :=
  if name.isEmpty || name = "." then .stay else if name = ".." then .back else .enter name

/-- The steps of a path. -/
def steps (path : String) : List PathStep := (path.splitOn "/").map stepOf

/-- **A path without detours**: no empty part and no part that stays where it is. Two slashes in front
are kept; the empty path is the place itself. -/
def shown (path : String) : String :=
  let parts := (path.splitOn "/").filter fun name => stepOf name != .stay
  let root := match path.toList with
    | '/' :: '/' :: '/' :: _ => "/"
    | '/' :: '/' :: _ => "//"
    | '/' :: _ => "/"
    | _ => ""
  let joined := root ++ "/".intercalate parts
  if joined.isEmpty then "." else joined

/-- Whether a code point is a byte that belongs to no character. -/
def isByte (n : Nat) : Bool := 0xDC80 ≤ n && n ≤ 0xDCFF

/-- The fault of a text that is no path: it holds the null character or half a surrogate pair that is
not there for a byte, or it is too long or empty. -/
def fault? (path : String) : Option Fault :=
  if path.toList.any fun c => Text.isStandIn c && !isByte (Text.code c) then some .unwritablePath
  else if path.contains '\x00' then some .malformedPath
  else if longestPath < path.utf8ByteSize then some .refusedPath
  else if path.isEmpty then some .absentFile
  else none

/-- The place where a path starts: the top if there is a slash in front, else the place it is used at. -/
def start (home : Place) (path : String) : Place := if path.startsWith "/" then [] else home

variable (occupant? : Place → Option Occupant)

/-- **Takes a step** from a place. -/
def step (place : Place) (next : PathStep) : Except Fault Place :=
  match occupant? place, next with
  | some .folder, .stay => .ok place
  | some .folder, .back => .ok place.dropLast
  | some .folder, .enter name =>
    if longestName < name.utf8ByteSize then .error .refusedPath
    else if (occupant? (place ++ [name])).isSome then .ok (place ++ [name])
    else .error .absentFile
  | _, _ => .error .notFolder

/-- Takes steps from a place, one after the other. -/
def follow (place : Place) (steps : List PathStep) : Except Fault Place :=
  steps.foldlM (step occupant?) place

/-- **The text of the file at a path.** -/
def textAt (home : Place) (path : String) : Except Fault String :=
  match fault? path with
  | some fault => .error fault
  | none => do
    match occupant? (← follow occupant? (start home path) (steps path)) with
    | some (.file text) => return text
    | _ => throw .isFolder

/-- **The place for a file at a path**, whether there is one already or not. Its last step has to enter
that place: a path that ends in a slash or a dot asks for a folder. -/
def placeFor (home : Place) (path : String) : Except Fault Place :=
  match fault? path with
  | some fault => .error fault
  | none => do
    let names := (path.splitOn "/").reverse.dropWhile String.isEmpty
    let here ← follow occupant? (start home path) ((names.drop 1).reverse.map stepOf)
    let here ← step occupant? here .stay
    match names.head?.map stepOf, path.endsWith "/" with
    | some (.enter name), false =>
      if longestName < name.utf8ByteSize then throw .refusedPath
      else if occupant? (here ++ [name]) = some .folder then throw .isFolder
      else return here ++ [name]
    | _, _ => throw .isFolder

end Path

end WhistledSpeech
