import DirectorySearch.Filter.Keyword
import DirectorySearch.Filter.Value

/-!
# Conditions

A filter is built from a list of conditions, each with the connector that joins it to the ones before
it.  A group holds a list of conditions of its own, so conditions form a tree.

* `Condition` — one node of the tree.
* `Condition.connector` — how it is joined.
-/

namespace DirectorySearch

/-- One condition on the entries to be found. -/
inductive Condition where
  /-- An attribute compared with a value. -/
  | comparison (attr : String) (operator : Operator) (value : FilterValue)
      (connector : Connector) (negate : Bool)
  /-- An attribute that has a value. -/
  | presence (attr : String) (connector : Connector) (negate : Bool)
  /-- An attribute that equals one of several values. -/
  | membership (attr : String) (values : List FilterValue)
      (connector : Connector) (negate : Bool)
  /-- Filter text that is used unchanged. -/
  | raw (expression : String) (connector : Connector)
  /-- A list of conditions in parentheses. -/
  | group (conditions : List Condition) (connector : Connector) (negate : Bool)
deriving Inhabited

namespace Condition

/-- How a condition is joined to the ones before it. -/
def connector : Condition → Connector
  | .comparison _ _ _ c _ => c
  | .presence _ c _ => c
  | .membership _ _ c _ => c
  | .raw _ c => c
  | .group _ c _ => c

/-- Whether this is a group without conditions. -/
def isEmptyGroup : Condition → Bool
  | .group [] _ _ => true
  | _ => false

end Condition

end DirectorySearch
