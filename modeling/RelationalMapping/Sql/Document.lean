import RelationalMapping.Sql.Statement
import RelationalMapping.Value.Document

namespace RelationalMapping

def Error.entries : Error → List (String × Json)
  | .settings => [("error", .string Error.settings.kind)]
  | e => [("error", .string e.kind), ("message", .string e.message)]

def Error.document (e : Error) : Json := .ofEntries e.entries

def documentOrError {α : Type} (document : α → Json) : Except Error α → Json
  | .ok a => document a
  | .error e => e.document

def Fragment.entries (f : Fragment) : List (String × Json) :=
  [("sql", .string f.sql), ("values", .array (Value.documents f.values))]

def Fragment.document (f : Fragment) : Json := .ofEntries f.entries

def InsertStatement.document (e : Entity) (s : InsertStatement) : Json :=
  .ofEntries [("sql", .string s.sql), ("values", .array (Value.documents s.values)),
    ("prefix", .string s.table), ("placeholder", .string s.mark), ("rows", .integer s.rows.length),
    ("bound", documentOrError Fragment.document (s.bind e))]

end RelationalMapping
