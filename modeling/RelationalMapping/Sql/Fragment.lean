import RelationalMapping.Sql.Tree
import RelationalMapping.Text.Quoted

namespace RelationalMapping

inductive Chunk where
  | text (s : String)
  | bound (v : Value)
  deriving Repr

def parameterMark : String := "?"

namespace Chunk

def sql : Chunk → String
  | .text s => s
  | .bound _ => parameterMark

def values : Chunk → List Value
  | .text _ => []
  | .bound v => [v]

end Chunk

structure Fragment where
  sql : String
  values : List Value
  deriving Repr

namespace Fragment

def ofChunks (chunks : List Chunk) : Fragment :=
  { sql := String.join (chunks.map (·.sql)), values := chunks.flatMap (·.values) }

def push (f other : Fragment) : Fragment :=
  { sql := f.sql ++ other.sql, values := f.values ++ other.values }

def join (separator : String) (fragments : List Fragment) : Fragment :=
  { sql := separator.intercalate (fragments.map (·.sql)), values := fragments.flatMap (·.values) }

end Fragment

abbrev Naming := ExceptT Error (StateM Names)

def Naming.table (e : Entity) : Naming String := fun names => names.table e

def Naming.column (c : Column) : Naming String := fun names =>
  let (name, names) := names.column c
  (.ok name, names)

def Naming.marker (edge : Edge) (into : IntoField) : Naming String := fun names =>
  let (label, names) := names.marker edge into
  (.ok label, names)

def Piece.resolve : Piece → Naming Chunk
  | .text s => return .text s
  | .verbatim s => return .text s
  | .identifier name => return .text (Text.quoteIdentifier name)
  | .literal s => return .text (Text.quoteLiteral s)
  | .bound v => return .bound v
  | .tableName e => return .text (Text.quoteIdentifier (← Naming.table e))
  | .columnName c => return .text (Text.quoteIdentifier (← Naming.column c))
  | .marker edge into =>
    return .text ("NULL AS " ++ Text.quoteIdentifier (← Naming.marker edge into))
  | .failure e => throw e

def resolve (pieces : List Piece) : Naming (List Chunk) := pieces.mapM Piece.resolve

end RelationalMapping
