namespace RelationalMapping.Text

def literalQuote : Char := '\''

def identifierQuote : Char := '"'

def doubleQuotes : List Char → List Char
  | [] => []
  | c :: rest =>
    if c = literalQuote then literalQuote :: literalQuote :: doubleQuotes rest
    else c :: doubleQuotes rest

def quoteLiteral (text : String) : String :=
  String.ofList (literalQuote :: doubleQuotes text.toList ++ [literalQuote])

def quoteIdentifier (name : String) : String :=
  String.singleton identifierQuote ++ name ++ String.singleton identifierQuote

end RelationalMapping.Text
