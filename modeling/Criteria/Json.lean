/-
Module: Criteria.Json
Purpose: JSON values, the form in which conditions and failures are serialized.
Main exports:
  Json
-/

namespace Criteria

/-- A JSON value whose numbers are integers. The members of an object keep their order. -/
inductive Json where
  | null
  | bool (value : Bool)
  | number (value : Int)
  | text (value : String)
  | list (items : List Json)
  | object (members : List (String × Json))
deriving Repr, Inhabited

namespace Json

/-- An object with one member, the form of a tagged alternative. -/
def tagged (tag : String) (content : Json) : Json :=
  .object [(tag, content)]

end Json

end Criteria
