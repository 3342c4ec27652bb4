import CallGuard.Telemetry.Filter
import CallGuard.Text.Quoted

/-!
# Telemetry

Printing the events that a filter lets through. The filter is installed once for a process.
-/
namespace CallGuard.Telemetry

/-- The filter that counts where none is given. -/
def defaultFilter : String := "argguard=info"

/-- The filter to install: the one that the process sets if it is well formed, else the fallback. -/
def chooseFilter (setting : Option String) (fallback : String) : Filter :=
  match setting.bind Filter.parse? with
  | some f => f
  | none => Filter.parseLenient fallback

structure AlreadyInstalled where

def AlreadyInstalled.message : String := "a global default trace dispatcher has already been set"

def install (installed : Option Filter) (setting : Option String) (fallback : Option String) :
    Except AlreadyInstalled Filter :=
  match installed with
  | some _ => .error {}
  | none => .ok (chooseFilter setting (fallback.getD defaultFilter))

def fieldText : FieldValue → String
  | .number n => toString n
  | .boolean b => toString b
  | .text s => s
  | .quotedText s => Text.quoted s

def levelColumn (l : Level) : String :=
  String.ofList (List.replicate (5 - l.name.length) ' ') ++ l.name

/-- A record is shown as part of a build if the filter shows builds. -/
def spanText (f : Filter) (r : Record) : String :=
  match r.span? with
  | some span => if f.showsBuilds then span ++ ": " else ""
  | none => ""

def text (f : Filter) (r : Record) : String :=
  let fields := r.event.fields.map fun (name, value) => name ++ "=" ++ fieldText value
  levelColumn r.event.level ++ " " ++ spanText f r ++
    " ".intercalate (r.event.message?.toList ++ fields)

def lines (f : Filter) (records : List Record) : List String :=
  (records.filter f.lets).flatMap fun r =>
    ((text f r).toList.splitOn '\n').map String.ofList

end CallGuard.Telemetry
