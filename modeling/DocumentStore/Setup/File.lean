/-
  DocumentStore.Setup.File — setups from files.

  The suffix of a file's name, in any letter case, says whether it is JSON or TOML. What
  keeps a file from being a setup is told in the order in which it shows: its name, that it
  cannot be read, that it cannot be parsed, that it is no object, and then all that is
  wrong with the object.
-/

import DocumentStore.Json.Complaint
import DocumentStore.Path
import DocumentStore.Setup.Basic
import DocumentStore.Text.Case
import DocumentStore.Toml.Document

namespace DocumentStore

/-! ## Files -/

/-- The files of a directory and of those in it, with their texts. -/
abbrev Files := List (Path × String)

inductive Found where
  | text (s : String)
  | folder
  | lacking (why : PathFault)
  deriving DecidableEq, Repr

namespace Files

def ofTexts (texts : Named String) : Files := texts.map fun t => (.ofText t.1, t.2)

/-- The folder above one; nothing is above the root. -/
def above (root : String) (folder : List String) : List String :=
  if folder.all (· = "..") then if root.isEmpty then folder ++ [".."] else [] else folder.dropLast

/-- The most octets that the name of a file may have. -/
def longestName : Nat := 255

/-- The most octets that a path may have. -/
def longestPath : Nat := 4095

/-- What is found from a folder on, part by part. -/
def findFrom (files : Files) (root : String) (folder : List String) : List String → Found
  | [] => .folder
  | part :: rest =>
    let place := folder ++ [part]
    if part = ".." then files.findFrom root (above root folder) rest
    else if longestName < part.utf8ByteSize then .lacking .longName
    else
      match files.find? fun f => f.1 == ⟨root, place⟩ with
      | some (_, text) => if rest.isEmpty then .text text else .lacking .notFolder
      | none =>
        if files.any fun f => f.1.root == root && place.isPrefixOf f.1.parts then
          files.findFrom root place rest
        else .lacking .nothing

/-- What a path leads to. -/
def find (files : Files) (path : Path) : Found :=
  if longestPath < path.text.utf8ByteSize then .lacking .longName
  else files.findFrom path.root [] path.parts

/-- Whether there is something at a path. -/
def holds (files : Files) (path : Path) : Except Failure Bool :=
  match files.find path with
  | .text _ => .ok true
  | .folder => .ok true
  | .lacking .longName => .error (.path .longName path.text)
  | .lacking _ => .ok false

/-- The text of a file. -/
def read (files : Files) (path : Path) : Except PathFault String :=
  match files.find path with
  | .text s => .ok s
  | .folder => .error .isFolder
  | .lacking why => .error why

/-- What keeps the folder of a path from being made where it is not there, from a folder on. -/
def folderFaultFrom (files : Files) (root : String) (folder : List String) :
    List String → Option PathFault
  | [] => none
  | part :: rest =>
    let place := folder ++ [part]
    if part = ".." then files.folderFaultFrom root (above root folder) rest
    else if longestName < part.utf8ByteSize then some .longName
    else if files.any fun f => f.1 == ⟨root, place⟩ then
      some (if rest.isEmpty then .fileThere else .notFolder)
    else files.folderFaultFrom root place rest

/-- What keeps a file from being written, its folder being made if it is not there. -/
def writingFault? (files : Files) (folder file : Path) : Option Failure :=
  let fault :=
    if longestPath < folder.text.utf8ByteSize then some .longName
    else files.folderFaultFrom folder.root [] folder.parts
  match Failure.ofSystemText? folder.text, fault with
  | some f, _ => some f
  | none, some why => some (.path why folder.text)
  | none, none => if files.find file = .folder then some (.path .isFolder file.text) else none

end Files

namespace Setup

/-! ## Complaints about documents -/

def Expected.words : Expected → String
  | .text => "Input should be a valid string"
  | .object => "Input should be a valid dictionary"

def Expected.tag : Expected → String
  | .text => "string_type"
  | .object => "dict_type"

/-- The characters at the start that take so many octets at most. -/
def takeOctets (limit : Nat) : List Char → List Char
  | [] => []
  | c :: cs => if c.utf8Size ≤ limit then c :: takeOctets (limit - c.utf8Size) cs else []

/-- A text of more than fifty octets with its middle left out. -/
def shortened (s : String) : String :=
  if s.utf8ByteSize ≤ 50 then s
  else
    String.ofList (takeOctets 25 s.toList) ++ "..." ++
      String.ofList (takeOctets 24 s.toList.reverse).reverse

/-- A part of a path; one with a point in it is set off. -/
def partShown (part : String) : String :=
  let quote := Char.ofNat 96
  if part.toList.contains '.' then String.ofList (quote :: part.toList ++ [quote]) else part

/-- What is said of a value that was found: the value, unless a number in it is too long. -/
def foundShown (d : Draft) : String :=
  if d.isSpellable then shortened d.shown else "<unprintable " ++ d.kind ++ " object>"

def helpHost : String := "errors.pydantic.dev"

def Mismatch.complaint (m : Mismatch) : String :=
  String.intercalate "." (m.path.map partShown) ++ "\n  " ++ m.expected.words ++ " [type=" ++
    m.expected.tag ++ ", input_value=" ++ foundShown m.found ++
    ", input_type=" ++ m.found.kind ++
    "]\n    For further information visit https://" ++ helpHost ++ "/2.14/v/" ++ m.expected.tag

def complaint (faults : List Mismatch) : String :=
  Decimal.intText faults.length ++ " validation error" ++ (if faults.length = 1 then "" else "s") ++
    " for StoreSpec\n" ++ String.intercalate "\n" (faults.map Mismatch.complaint)

/-! ## Reading -/

def fail {α : Type} (fault : SetupFault) : Except Failure α := .error (.value (.setup fault))

def readJson (path : Path) (text : String) : Except Failure Draft :=
  let cs := Text.plainLines text.toList
  match Json.readChars cs with
  | .ok v => .ok (.ofValue v)
  | .error (.malformed flaw left) => fail (.invalid path.text (flaw.complaint cs left))
  | .error (.excess e) => .error e.failure

def readToml (path : Path) (text : String) : Except Failure Draft :=
  let cs := Toml.dropReturns text.toList
  match Toml.readChars cs with
  | .ok table => .ok (.object table)
  | .error (.malformed flaw left) => fail (.invalid path.text (flaw.complaint cs left))
  | .error (.tooLong n) => .error (.value (.tooManyDigits n))
  | .error .tooDeep => .error (.nesting .toml)

/-- How files with the suffix of a path are read. -/
def reader? (path : Path) : Option (Path → String → Except Failure Draft) :=
  let suffix := Text.lower path.suffix
  if suffix = ".json" then some readJson else if suffix = ".toml" then some readToml else none

def ofDraft (path : Path) (d : Draft) : Except Failure Setup :=
  match d.members? with
  | none => fail (.noObject path.text)
  | some document =>
    match ofDocument document with
    | .ok setup => .ok setup
    | .error faults => fail (.invalid path.text (complaint faults))

/-- The setup in a file. -/
def load (files : Files) (path : Path) : Except Failure Setup :=
  match reader? path with
  | none => fail (.fileKind path.name)
  | some read =>
    match Failure.ofSystemText? path.text, files.read path with
    | some f, _ => .error f
    | none, .error why => fail (.unreadable path.text (why.message path.text))
    | none, .ok text => (read path text).bind (ofDraft path)

end Setup

end DocumentStore
