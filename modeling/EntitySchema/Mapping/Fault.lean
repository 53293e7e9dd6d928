/-!
# Faults of mappings

Why a JSON value is no mapping of collected information.
-/

namespace EntitySchema

namespace Mapping

/-- The member in which a node tells what was collected about it. -/
def infoKey : String := "@collected_info"

/-- What is wrong with a mapping. -/
inductive Fault where
  /-- The whole is not an object. -/
  | wholeNotObject
  /-- The node of that name is not an object. -/
  | notObject (name : String)
  /-- The node of that name does not tell what was collected about it. -/
  | noInfo (name : String)
  /-- The node of that name does not tell its type. -/
  | noType (name : String)
deriving Repr, DecidableEq

def Fault.message : Fault → String
  | wholeNotObject => "top-level mapping must be an object"
  | notObject name => "'" ++ name ++ "' must be an object"
  | noInfo name => "'" ++ name ++ "' has no " ++ infoKey ++ " object"
  | noType name => "'" ++ name ++ "' has no type in its collected info"

end Mapping

end EntitySchema
