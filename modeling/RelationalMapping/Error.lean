namespace RelationalMapping

inductive StatementFault where
  | emptyCase
  | emptyOrderCase
  | joinWithoutTable
  | joinWithoutCondition
  | pageWithoutLimit
  | pageOverflow
  | updateWithoutFields
  | insertWithoutRows
  | conflictWithoutColumns
  deriving DecidableEq, Repr

inductive DeclarationFault where
  | unnamed
  | noRow (index : String)
  | noProperty (entity property : String)
  | notInstantiable (entity : String)
  | notEnumeration (entity : String)
  deriving DecidableEq, Repr

inductive Found where
  | kind (name : String)
  | joinedObject
  | otherJoinedObject
  | missingColumn
  deriving DecidableEq, Repr

mutual

inductive Error where
  | statement (fault : StatementFault)
  | declaration (fault : DeclarationFault)
  | unknownZone (name : String)
  | mismatch (expected : String) (found : Found)
  | settings
  | mapping (entity : String) (reason : Reason)
  deriving Repr

inductive Reason where
  | missingParameter (name : String)
  | noMutableProperty (name : String)
  | unknownVariant (name : String)
  | joinColumnsNotFound (start stop : String)
  | unexpectedTarget
  | unexpectedJoined
  | unexpectedRow
  | caused (error : Error)
  deriving Repr

end

def StatementFault.message : StatementFault → String
  | .emptyCase => "There must be at least one WHEN THEN statement in a CASE block"
  | .emptyOrderCase => "There must be at least one WHEN THEN statement in an ORDER BY CASE block"
  | .joinWithoutTable => "join must specify alias or exactly one table"
  | .joinWithoutCondition => "using or on required for join"
  | .pageWithoutLimit => "page requires a limit"
  | .pageOverflow => "page offset overflows"
  | .updateWithoutFields => "cannot update without fields"
  | .insertWithoutRows => "cannot insert without values"
  | .conflictWithoutColumns => "Cannot update without values"

def DeclarationFault.message : DeclarationFault → String
  | .unnamed => "Entity class must have name!"
  | .noRow index => "no row " ++ index ++ " to bind"
  | .noProperty entity property => entity ++ " has no property " ++ property
  | .notInstantiable entity => entity ++ " is not instantiable"
  | .notEnumeration entity => entity ++ " is not an enumeration"

def Found.text : Found → String
  | .kind name => name
  | .joinedObject => "joined object"
  | .otherJoinedObject => "joined object of another type"
  | .missingColumn => "missing column"

mutual

def Error.message : Error → String
  | .statement fault => fault.message
  | .declaration fault => fault.message
  | .unknownZone name => "'" ++ name ++ "' is not a valid time zone"
  | .mismatch expected found => "cannot decode " ++ found.text ++ " as " ++ expected
  | .settings => "invalid mapper configuration"
  | .mapping entity reason => "Error constructing " ++ entity ++ ": " ++ reason.message

def Reason.message : Reason → String
  | .missingParameter name => "missing value for parameter " ++ name
  | .noMutableProperty name => "no mutable property " ++ name
  | .unknownVariant name => "unknown variant " ++ name
  | .joinColumnsNotFound start stop => "join columns between " ++ start ++ " and " ++ stop ++ " not found"
  | .unexpectedTarget => "assignment target has an unexpected type"
  | .unexpectedJoined => "joined instance has an unexpected type"
  | .unexpectedRow => "mapped row has an unexpected type"
  | .caused error => error.message

end

namespace Error

def kind : Error → String
  | .statement _ => "Construction"
  | .declaration _ => "Configuration"
  | .unknownZone _ => "Validation"
  | .mismatch .. => "Decode"
  | .settings => "Config"
  | .mapping .. => "Mapping"

def within (entity : String) : Error → Error
  | .mapping named reason => .mapping named reason
  | .declaration fault => .declaration fault
  | other => .mapping entity (.caused other)

end Error

end RelationalMapping
