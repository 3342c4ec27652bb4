import CallGuard.Config.Environment
import CallGuard.Text.Blank

/-!
# Settings files

A file of `KEY=VALUE` lines. A line goes on behind its end while a quote is open. Reading stops
without complaint at the first line that is not complete or none of a blank line, a comment and an
assignment; what stands before it counts. A dollar sign or a backslash in a value is no more than
itself here: this reader is for files that have neither references to variables nor escapes.
-/
namespace CallGuard.SettingsFile

/-! ### Lines -/

/-- Where reading stands in a line. -/
inductive Place where
  /-- Nothing but blanks stands before. -/
  | indent
  | plain
  /-- A blank stands before, and no other one before that. -/
  | gap
  | quoted (mark : Char)
  | comment
  deriving DecidableEq

def isQuote (c : Char) : Bool := c == '\'' || c == '"'

namespace Place

/-- Where a character leads that is neither blank nor starts a comment. -/
def ofText (c : Char) : Place := if isQuote c then quoted c else plain

/-- A number sign starts a comment at the front of a line and in a gap. Blanks go in pairs: the
second one closes the gap that the first one opens. A carriage return opens none. -/
def next (place : Place) (c : Char) : Place :=
  match place with
  | indent => if c = '#' then comment else if Text.isBlank c then indent else ofText c
  | plain => if Text.isBlank c && c != '\r' then gap else ofText c
  | gap => if c = '#' then comment else ofText c
  | quoted mark => if c = mark then plain else quoted mark
  | comment => comment

/-- The end of a line is part of its text. -/
def isQuoted : Place → Bool
  | quoted _ => true
  | _ => false

/-- The file may end here; a gap or an open quote asks for more. -/
def mayEnd : Place → Bool
  | indent | plain | comment => true
  | gap | quoted _ => false

end Place

/-- The lines of a text, without their comments; the last one is none if it is not complete. The
characters of the line so far are in `done`, the last one first. -/
def lines (place : Place) (done : List Char) : List Char → List (Option (List Char))
  | [] => [if place.mayEnd then some done.reverse else none]
  | c :: rest =>
    if c = '\n' ∧ !place.isQuoted then some done.reverse :: lines .indent [] rest
    else
      let place := place.next c
      lines place (if place = .comment then done else c :: done) rest

/-! ### What lines say -/

inductive Line where
  | blank
  | assignment (key value : String)
  deriving DecidableEq

def isKeyStart (c : Char) : Bool := c.isAlpha || c == '_'

def isKeyChar (c : Char) : Bool := c.isAlphanum || c == '_' || c == '.'

/-- A key at the front of a line, and the rest behind the blanks that follow it. -/
def key? : List Char → Option (String × List Char)
  | [] => none
  | c :: rest =>
    if isKeyStart c then
      some (String.ofList (c :: rest.takeWhile isKeyChar),
        (rest.dropWhile isKeyChar).dropWhile Text.isBlank)
    else none

/-- Spaces and tabs end a value outside of quotes; other blanks are part of it. -/
def endsValue (c : Char) : Bool := c == ' ' || c == '\t'

/-- Behind a value only spaces, tabs and a comment may follow. -/
def endsHere (rest : List Char) : Bool :=
  match rest.dropWhile endsValue with
  | [] => true
  | c :: _ => c == '#'

/-- The text of a value: plain pieces and quoted pieces joined, up to its end outside of quotes. A
quote that is not closed makes the line malformed. -/
def valueText? (quote : Option Char) : List Char → Option (List Char)
  | [] => if quote.isSome then none else some []
  | c :: rest =>
    match quote with
    | some q => if c = q then valueText? none rest else (valueText? quote rest).map (c :: ·)
    | none =>
      if isQuote c then valueText? (some c) rest
      else if endsValue c then (if endsHere rest then some [] else none)
      else (valueText? none rest).map (c :: ·)

/-- The value behind the sign; a comment that comes first leaves it empty. -/
def value? (s : List Char) : Option String :=
  match s.dropWhile Text.isBlank with
  | [] => some ""
  | '#' :: _ => some ""
  | rest => (valueText? none rest).map String.ofList

def assignment? (key : String) (s : List Char) : Option Line :=
  match s with
  | '=' :: rest => (value? rest).map (Line.assignment key)
  | _ => none

/-- One line without its comment, or nothing if it is malformed. A key may stand behind the word
`export`, which can be a key itself. -/
def parseLine? (s : List Char) : Option Line :=
  match Text.trimChars s with
  | [] => some .blank
  | line => do
    let (key, rest) ← key? line
    if key = "export" ∧ rest.head? ≠ some '=' then
      let (key, rest) ← key? rest
      assignment? key rest
    else assignment? key rest

/-- The assignments of lines, up to the first one that is malformed or not complete. -/
def assignments : List (Option (List Char)) → List (String × String)
  | [] | none :: _ => []
  | some line :: rest =>
    match parseLine? line with
    | none => []
    | some .blank => assignments rest
    | some (.assignment key value) => (key, value) :: assignments rest

/-- The text without a byte order mark in front. -/
def dropMark (s : List Char) : List Char :=
  match s with
  | '\uFEFF' :: rest => rest
  | s => s

def parse (file : String) : List (String × String) :=
  assignments (lines .indent [] (dropMark file.toList))

/-- Reads the settings files of the working directory and the directories above it, nearest first:
the nearest one counts. -/
def reader : SettingsReader (List String) where
  assignments _ files := (files.head?.map parse).getD []
  keys_eq _ _ _ := rfl

end CallGuard.SettingsFile
