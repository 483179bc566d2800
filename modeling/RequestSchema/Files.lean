import RequestSchema.Keyed
import RequestSchema.Text.Basic

set_option autoImplicit false

/-!
# Files

The files that a run can see, by their place. A folder is there if some file lies in it; the working
folder, those above it and the root are always there. Names of more than 255 bytes name nothing, and
neither do paths of more than 4095.
-/

namespace RequestSchema

/-- Where a path starts: in the working folder, in one some levels above it, or at the root. -/
inductive Origin where
  | working
  | above (levels : Nat)
  | root
deriving DecidableEq

/-- A place by the names that lead to it. -/
structure Spot where
  origin : Origin
  names : List Text
deriving DecidableEq

abbrev Files := List (Spot × List UInt8)

/-- What is found at a place. -/
inductive Found where
  | file (content : List UInt8)
  | folder
  | missing
  /-- The place would lie in a file. -/
  | notAFolder
  | tooLong

def maxNameBytes : Nat := 255

def maxPathBytes : Nat := 4095

/-- How many bytes a name takes. A surrogate in it is one byte. -/
def nameSize : Text → Nat
  | .plain name => name.utf8ByteSize
  | .broken points _ =>
    points.foldl (fun size c => size + (c.char?.map Char.utf8Size).getD 1) 0

def piecesOf (path : Text) : List Text := (path.toList.splitOn (char '/')).map .ofList

def pathOf (names : List Text) : Text := Text.intercalate "/" names

def Origin.up : Origin → Origin
  | working => above 1
  | above levels => above (levels + 1)
  | root => root

namespace Spot

def start (path : Text) : Spot :=
  ⟨if path.toList.head? = some (char '/') then .root else .working, []⟩

def up (spot : Spot) : Spot :=
  if spot.names.isEmpty then { spot with origin := spot.origin.up }
  else { spot with names := spot.names.dropLast }

def down (name : Text) (spot : Spot) : Spot := { spot with names := spot.names ++ [name] }

/-- One step along a path. -/
def step (spot : Spot) (piece : Text) : Spot :=
  if piece.isEmpty || piece == "." then spot
  else if piece == ".." then spot.up
  else spot.down piece

/-- The place that a path names, whether there is anything or not. -/
def ofPath (path : Text) : Spot := (piecesOf path).foldl step (start path)

/-- The folder that a place lies in. -/
def parent (spot : Spot) : Spot := { spot with names := spot.names.dropLast }

/-- Whether a place lies in another, at any depth. -/
def isIn (spot folder : Spot) : Bool :=
  spot.origin == folder.origin && folder.names.isPrefixOf spot.names.dropLast

/-- The place as a path from the working folder, which is written as given. -/
def pathFrom (directory : List Text) (spot : Spot) : Text :=
  match spot.origin with
  | .working => pathOf (directory ++ spot.names)
  | .above levels => pathOf (directory ++ List.replicate levels (↑"..") ++ spot.names)
  | .root => "/" ++ pathOf spot.names

end Spot

namespace Files

def isFolder (files : Files) (spot : Spot) : Bool :=
  spot.names.isEmpty || files.any fun file => file.1.isIn spot

/-- The names of what lies in a folder. -/
def namesIn (files : Files) (folder : Spot) : List Text :=
  (files.filterMap fun file =>
    if file.1.isIn folder then file.1.names[folder.names.length]? else none).eraseDups

/-- What is at a place whose folder is there. -/
def entry (files : Files) (spot : Spot) (name : Text) : Found :=
  if maxNameBytes < nameSize name then .tooLong
  else
    match files.lookup (spot.down name) with
    | some content => .file content
    | none => if files.isFolder (spot.down name) then .folder else .missing

/-- What is found when names are followed from a folder on. -/
def follow (files : Files) (spot : Spot) : List Text → Found
  | [] => .folder
  | name :: rest =>
    match files.entry spot name with
    | .folder => follow files (spot.down name) rest
    | .file content => if rest.isEmpty then .file content else .notAFolder
    | other => other

def find (files : Files) (spot : Spot) : Found := files.follow ⟨spot.origin, []⟩ spot.names

/-- What is found along a path when every step of it has to start from a folder. -/
def walk (files : Files) (spot : Spot) : List Text → Found
  | [] => files.find spot
  | piece :: rest =>
    match files.find spot with
    | .folder => walk files (spot.step piece) rest
    | .file _ => .notAFolder
    | other => other

/-- No path holds the character that ends a text for the system, and its surrogates stand for
    bytes. -/
def isUsable (path : Text) : Bool :=
  path.toList.all fun c => c != char '\x00' && (!c.isSurrogate || c.standsForByte)

def isTooLong (path : Text) : Bool := maxPathBytes < nameSize path

/-- What is found when a path is opened as it stands. -/
def openPath (files : Files) (path : Text) : Found :=
  if path.isEmpty then .missing
  else if isTooLong path then .tooLong
  else files.walk (Spot.start path) (piecesOf path)

def put (spot : Spot) (content : List UInt8) (files : Files) : Files := setKey spot content files

/-- The files that are new or have another content than before. -/
def changes (before after : Files) : Files :=
  after.filter fun file => before.lookup file.1 != some file.2

end Files

/-- Why a file cannot be read or written. -/
inductive FileProblem where
  | missing
  | isFolder
  | notAFolder
  | tooLong
  /-- The path is none. -/
  | unusable
deriving DecidableEq

def FileProblem.text : FileProblem → Text
  | missing => "No such file or directory"
  | isFolder => "Is a directory"
  | notAFolder => "Not a directory"
  | tooLong => "File name too long"
  | unusable => "Invalid argument"

def FileProblem.number : FileProblem → Nat
  | missing => 2
  | isFolder => 21
  | notAFolder => 20
  | tooLong => 36
  | unusable => 22

/-- The content of what was found, if it is a file. -/
def Found.content : Found → Except FileProblem (List UInt8)
  | file content => .ok content
  | folder => .error .isFolder
  | missing => .error .missing
  | notAFolder => .error .notAFolder
  | tooLong => .error .tooLong

/-- The file of a path, opened as it stands. -/
def Files.read (files : Files) (path : Text) : Except FileProblem (List UInt8) :=
  if Files.isUsable path then (files.openPath path).content else .error .unusable

/-- What keeps a file from being written at a place. -/
def Files.obstacle? (files : Files) (spot : Spot) : Option FileProblem :=
  match files.find spot with
  | .folder => some .isFolder
  | .notAFolder => some .notAFolder
  | .tooLong => some .tooLong
  | .file _ => none
  | .missing =>
    match files.find spot.parent with
    | .folder => none
    | _ => some .missing

/-- What keeps a file from being written at a place of the given path. -/
def Files.obstacleAt? (files : Files) (spot : Spot) (path : Text) : Option FileProblem :=
  if !Files.isUsable path then some .unusable
  else if Files.isTooLong path then some .tooLong else files.obstacle? spot

end RequestSchema
