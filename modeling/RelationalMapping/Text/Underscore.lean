import RelationalMapping.Text.Case

namespace RelationalMapping.Text

def underscored (afterLower : Bool) : List Char → List Char
  | [] => []
  | c :: rest =>
    (if afterLower && c.isUpper then ['_'] else []) ++ lowerChar c ++ underscored c.isLower rest

def underscore (name : String) : String := String.ofList (underscored false name.toList)

end RelationalMapping.Text
