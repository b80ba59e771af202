import RelationalMapping.Mapping.Codec
import RelationalMapping.Mapping.Matcher

namespace RelationalMapping

structure MappingContext where
  matchers : List Matcher
  codecs : Codecs := .standard

namespace MappingContext

def standard : MappingContext := { matchers := [.caseInsensitive, .snakeCase] }

def accepts (context : MappingContext) (label name : String) : Bool :=
  context.matchers.any (·.accepts label name)

def codec (context : MappingContext) (label : String) : Codec := context.codecs.forLabel label

end MappingContext

end RelationalMapping
