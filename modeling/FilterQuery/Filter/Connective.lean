/-! The two ways of joining conditions. -/
namespace FilterQuery

/-- How the members of a group are joined. -/
inductive Connective where
  /-- All members must hold. -/
  | and
  /-- Some member must hold. -/
  | or
deriving DecidableEq

/-- The key under which a group stands in a filter document. -/
def Connective.key : Connective → String
  | .and => "$and"
  | .or => "$or"

end FilterQuery
