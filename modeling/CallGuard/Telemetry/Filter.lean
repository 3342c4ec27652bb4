import CallGuard.Telemetry.Directive

/-!
# Filters

Which events are printed. Of the directives that ask for no span and no value, the most specific one
that covers an event decides; inside of builds the directives for the span of builds let through
more. An event that nothing lets through is not printed.
-/
namespace CallGuard.Telemetry

structure Filter where
  directives : List Directive
  deriving DecidableEq

namespace Filter

def parts (s : String) : List String :=
  ((s.toList.splitOn ',').filter (!·.isEmpty)).map String.ofList

/-- The filter that a text writes, or nothing if a part of it is no directive. -/
def parse? (s : String) : Option Filter := ((parts s).mapM Directive.parse?).map Filter.mk

/-- Passes over parts that are no directives; if none is left, errors are let through. -/
def parseLenient (s : String) : Filter :=
  match (parts s).filterMap Directive.parse? with
  | [] => ⟨[{ target := "", limit := some .error }]⟩
  | directives => ⟨directives⟩

/-- The most specific directive; of directives that are equally specific the last. -/
def mostSpecific (directives : List Directive) : Option Directive :=
  directives.foldl (fun best d =>
    match best with
    | some b => if b.yieldsTo d then some d else best
    | none => some d) none

/-- The limit for a site by what it is, whatever is around it. -/
def limitAt (f : Filter) (site : Site) : Limit :=
  (mostSpecific (f.directives.filter fun d => d.isStatic && d.covers site)).bind (·.limit)

/-- The verbosity that nothing gets above. Where a directive asks for a value, every span is looked
at. -/
def ceiling (f : Filter) : Nat :=
  if f.directives.any fun d => d.field.any (·.hasValue) then Level.trace.verbosity
  else f.directives.foldl (fun most d => max most d.limit.verbosity) 0

/-- The limits for events inside of builds. Of directives with one target the last counts. -/
def buildLimits (f : Filter) : List Limit :=
  let asking := f.directives.filter Directive.asksForBuildSpan
  if Site.buildSpan.level.verbosity ≤ f.ceiling then
    (Dict.ofList (asking.map fun d => (d.target, d.limit))).toList.map (·.2)
  else []

/-- The span of builds is known to the printer. -/
def showsBuilds (f : Filter) : Bool :=
  !f.buildLimits.isEmpty || (f.limitAt .buildSpan).lets Site.buildSpan.level

/-- The record is printed. -/
def lets (f : Filter) (r : Record) : Bool :=
  (f.limitAt (.event r.event)).lets r.event.level ||
    (r.inBuild && f.buildLimits.any (·.lets r.event.level))

end Filter

end CallGuard.Telemetry
