/-
# Filtering the log

Every part of the proxy logs under a name of its own.  A filter is a list of directives, each with
the beginning of such names and the level up to which their events are shown; the directive with
the longest beginning counts.

Filters are written as directives between commas: a level alone, a name alone, or both with an
equals sign between them.
-/
import Intercept.Journal

namespace Intercept

/-- How many of the levels are shown: none, errors, warnings, and so on. -/
abbrev Verbosity := Nat

/-- The verbosity from which on events of a level are shown. -/
def Level.rank : Level → Verbosity
  | .error => 1
  | .warn => 2
  | .info => 3
  | .debug => 4

/-- A directive. -/
structure LogFilter.Directive where
  /-- The beginning of the names that it is about. -/
  target : String
  verbosity : Verbosity
deriving DecidableEq, Repr, Inhabited

/-- A filter; the directives with longer targets stand first. -/
structure LogFilter where
  directives : List LogFilter.Directive
deriving DecidableEq, Repr, Inhabited

namespace LogFilter

/-- The verbosity that shows everything. -/
def everything : Verbosity := 5

/-- The names of the verbosities. -/
def names : List (String × Verbosity) := [
  ("off", 0), ("error", 1), ("warn", 2), ("info", 3), ("debug", 4), ("trace", 5),
  ("0", 0), ("1", 1), ("2", 2), ("3", 3), ("4", 4), ("5", 5)]

/-- The verbosity that a text names; case does not count. -/
def verbosity? (text : String) : Option Verbosity :=
  names.lookup (String.ofList (text.toList.map Char.toLower))

/-- Whether a character can begin a directive. -/
def isStart (c : Char) : Bool := c.isAlphanum || c == '-' || c == ':' || c == '_'

/-- What a text says: a directive, or, in the inner option, one that is only about parts of the
log that are never written. -/
def directive? (text : String) : Option (Option Directive) :=
  let input := text.toList
  let target := input.takeWhile fun c => c ≠ '=' ∧ c ≠ '['
  match input.drop target.length with
  | [] =>
    if ¬ (input.head?.all isStart) then none
    else
      match verbosity? text with
      | some verbosity => some (some ⟨"", verbosity⟩)
      | none => some (some ⟨text, everything⟩)
  | '=' :: level =>
    if ¬ (target.head?.any isStart) then none
    else if level.isEmpty then some (some ⟨String.ofList target, everything⟩)
    else (verbosity? (String.ofList level)).map fun verbosity =>
      some ⟨String.ofList target, verbosity⟩
  | _ => some none

/-- The directives with one more put in its place; it replaces one with the same target. -/
def insert (directive : Directive) : List Directive → List Directive
  | [] => [directive]
  | d :: rest =>
    if d.target = directive.target then directive :: rest
    else if d.target.length < directive.target.length then directive :: d :: rest
    else d :: insert directive rest

/-- The texts between the commas of a text, without empty ones. -/
def pieces (text : String) : List String :=
  (text.splitOn ",").filter fun piece => !piece.isEmpty

/-- The filter of the given directives; if there are none at all only errors are shown. -/
def ofDirectives (found : List (Option Directive)) : LogFilter :=
  if found.isEmpty then ⟨[⟨"", 1⟩]⟩
  else ⟨(found.filterMap id).foldl (fun done directive => insert directive done) []⟩

/-- The filter that a text writes, if all of it is well formed. -/
def parse? (text : String) : Option LogFilter :=
  ((pieces text).mapM directive?).map ofDirectives

/-- The filter that a text writes, without what is not well formed. -/
def parseLossy (text : String) : LogFilter := ofDirectives ((pieces text).filterMap directive?)

/-- Whether events of a level are shown that are logged under a name. -/
def shows (filter : LogFilter) (name : String) (level : Level) : Bool :=
  match filter.directives.find? fun d => d.target.toList.isPrefixOf name.toList with
  | some directive => level.rank ≤ directive.verbosity
  | none => false

end LogFilter

end Intercept
