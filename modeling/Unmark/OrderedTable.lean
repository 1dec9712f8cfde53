/-!
Tables that remember the order of their keys. Putting a key that is there already keeps its place and replaces its
value; a new key goes last.
-/
namespace Unmark

/-- entries in the order in which their keys first came -/
abbrev OrderedTable (κ ν : Type) := List (κ × ν)

namespace OrderedTable

variable {κ ν : Type} [BEq κ]

def put (key : κ) (value : ν) : OrderedTable κ ν → OrderedTable κ ν
  | [] => [(key, value)]
  | (k, v) :: rest => if k == key then (k, value) :: rest else (k, v) :: put key value rest

def get? (key : κ) (table : OrderedTable κ ν) : Option ν :=
  (table.find? fun entry => entry.1 == key).map Prod.snd

def keys (table : OrderedTable κ ν) : List κ :=
  table.map Prod.fst

def putAll (table : OrderedTable κ ν) (entries : List (κ × ν)) : OrderedTable κ ν :=
  entries.foldl (fun t entry => put entry.1 entry.2 t) table

end OrderedTable

end Unmark
