import RelationalMapping.Text.Case

namespace RelationalMapping

inductive Matcher where
  | exact
  | caseInsensitive
  | snakeCase
  deriving DecidableEq, Repr

def sameFolded : List Char → List Char → Bool
  | [], [] => true
  | a :: as, b :: bs => Text.asciiFolds a b && sameFolded as bs
  | _, _ => false

def withoutUnderscores (s : String) : List Char := s.toList.filter (· != '_')

def Matcher.accepts : Matcher → String → String → Bool
  | .exact, label, name => label == name
  | .caseInsensitive, label, name => sameFolded label.toList name.toList
  | .snakeCase, label, name => sameFolded (withoutUnderscores label) (withoutUnderscores name)

end RelationalMapping
