import RelationalMapping.Json.Reader
import RelationalMapping.Mapping.Context

namespace RelationalMapping

namespace Matcher

def name : Matcher → String
  | .exact => "exact"
  | .caseInsensitive => "case_insensitive"
  | .snakeCase => "snake_case"

def named? (name : String) : Option Matcher :=
  [exact, caseInsensitive, snakeCase].find? (·.name == name)

end Matcher

structure Settings where
  matchers : List Matcher := [.caseInsensitive, .snakeCase]
  deriving DecidableEq, Repr

namespace Settings

def matchersKey : String := "column_name_matchers"

def matcherOf? : Json.Source → Option Matcher
  | .string units => (Json.unitsString? units).bind Matcher.named?
  | .object [(key, .null)] => (Json.unitsString? key).bind Matcher.named?
  | _ => none

def matchersOf? : Json.Source → Option (List Matcher)
  | .array items => items.mapM matcherOf?
  | _ => none

def ofEntries? (found : Option (List Matcher)) : List (List Json.StringUnit × Json.Source) → Option Settings
  | [] => some ⟨found.getD ({} : Settings).matchers⟩
  | (key, value) :: rest => do
    if (← Json.unitsString? key) = matchersKey then
      if found.isSome then none else ofEntries? (some (← matchersOf? value)) rest
    else ofEntries? found rest

def ofSource? : Json.Source → Option Settings
  | .array [] => some {}
  | .array [list] => (matchersOf? list).map (⟨·⟩)
  | .object entries => ofEntries? none entries
  | _ => none

def parse (text : String) : Except Error Settings :=
  match (Json.Source.parse? text).bind ofSource? with
  | some settings => .ok settings
  | none => .error .settings

def toJson (s : Settings) : Json :=
  .object [(matchersKey, .array (s.matchers.map fun m => .string m.name))]

def context (s : Settings) : MappingContext := { matchers := s.matchers }

end Settings

end RelationalMapping
