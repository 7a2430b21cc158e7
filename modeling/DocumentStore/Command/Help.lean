/-
  DocumentStore.Command.Help — pages of help on the program and its commands.

  A page says how a command is called and what it does, and lists its arguments, options and
  commands in panels. The columns of a panel are as wide as their widest word, with two blanks
  behind each.
-/

import DocumentStore.Command.Arguments
import DocumentStore.Console.Width

namespace DocumentStore.Command

/-! ## Panels -/

structure Panel where
  title : String
  rows : List (List String)

namespace Panel

/-- The text filled up with blanks to so many cells. -/
def padded (width : Nat) (text : String) : List Char :=
  text.toList ++ List.replicate (width - Console.width text.toList) ' '

def columnWidths (p : Panel) : List Nat :=
  let sizes := p.rows.map fun row => row.map fun text => Console.width text.toList
  match sizes with
  | [] => []
  | first :: rest => rest.foldl (List.zipWith max) first

def rowText (widths : List Nat) (row : List String) : List Char :=
  (widths.zipWith (fun w text => padded (w + 2) text) row).flatten

/-- The lines of a panel of so many cells. -/
def lines (width : Nat) (p : Panel) : List (List Char) :=
  let widths := p.columnWidths
  let top := "╭─ ".toList ++ p.title.toList ++ [' '] ++
    List.replicate (width - p.title.length - 5) '─' ++ ['╮']
  let bottom := '╰' :: List.replicate (width - 2) '─' ++ ['╯']
  let row (cells : List String) : List Char :=
    "│ ".toList ++ padded (width - 4) (String.ofList (rowText widths cells)) ++ " │".toList
  top :: p.rows.map row ++ [bottom]

end Panel

/-! ## Pages -/

structure Page where
  usage : String
  about : String
  panels : List Panel

/-- The lines of a page of so many cells. -/
def Page.lines (width : Nat) (p : Page) : List (List Char) :=
  let head := ["", " Usage: " ++ p.usage, "", " " ++ p.about, ""]
  head.map String.toList ++ p.panels.flatMap (Panel.lines width) ++ [[]]

def Kind.shown : Kind → String
  | .flag => "<bool>"
  | .text => "<str>"
  | .whole => "<int>"
  | .path => "<path>"

/-- The cells of an option: its names, none that turn it off, its kind and what it is for. -/
def optionRow (c : Choice) : List String :=
  let letter := (c.letter.map fun l => String.ofList ['-', l]).getD ""
  ["--" ++ c.name, letter, "", "", c.kind.shown, c.about]

def argumentRow (c : Choice) : List String :=
  ["*", "", c.name, "", "", c.kind.shown, c.about ++ " [required]"]

def optionsPanel (choices : List Choice) : Panel := ⟨"Options", choices.map optionRow⟩

def programName : String := "root"

def programPage : Page :=
  ⟨programName ++ " [OPTIONS] COMMAND [ARGS]...",
    "In-memory document store with a query language and rule-based access control",
    [optionsPanel programChoices, ⟨"Commands", Verb.all.map fun v => [v.name, v.about]⟩]⟩

def Verb.page (v : Verb) : Page :=
  let arguments := v.arguments.map fun c => " \x7b" ++ c.name ++ "\x7d"
  let panels := if v.arguments.isEmpty then [] else [⟨"Arguments", v.arguments.map argumentRow⟩]
  ⟨programName ++ " " ++ v.name ++ " [OPTIONS]" ++ String.join arguments, v.about,
    panels ++ [optionsPanel v.choices]⟩

/-- The page on a command, or on the program. -/
def helpPage (verb : Option Verb) : Page := (verb.map Verb.page).getD programPage

end DocumentStore.Command
