import ResponsiveGrid.Query.Form
import ResponsiveGrid.Grid.Basic
import ResponsiveGrid.Wire
set_option autoImplicit false

/-!
# Query: a grid system stored in a query string

The snapshot is the value of one key among other parameters.  The default is never
stored; its key is removed instead, so that the query of an unchanged system stays
clean.  Of several parameters of the key only the first counts.
-/

namespace ResponsiveGrid.Query

/-- Why a stored system could not be read. -/
inductive StoreFault where
  | json (fault : Json.Fault)
  | violation (cause : Violation)
  deriving Inhabited

/-- The value of the first parameter of a key. -/
def lookup? (key : String) (pairs : List Pair) : Option String :=
  (pairs.find? fun p => p.1 == key).map Prod.snd

/-- Reads the system stored under a key, with identities from `next` on.  There is none
when the key is missing or its value is empty. -/
def read (next : Id) (query key : String) : Except StoreFault (Option Grid) × Id :=
  match lookup? key (decodePairs query) with
  | none => (.ok none, next)
  | some value =>
      if value = "" then (.ok none, next)
      else
        match Snapshot.parse value with
        | .error fault => (.error (.json fault), next)
        | .ok snapshot =>
            match Grid.ofSnapshot? next snapshot with
            | (.ok s, after) => (.ok (some s), after)
            | (.error v, after) => (.error (.violation v), after)

/-- Puts a value under a key: in the place of the first parameter of that key, behind
all others if there is none.  No other parameter of the key is left. -/
def put (key value : String) : List Pair → List Pair
  | [] => [(key, value)]
  | p :: rest =>
      if p.1 = key then (p.1, value) :: rest.filter (·.1 ≠ key) else p :: put key value rest

/-- Removes all parameters of a key. -/
def erase (key : String) (pairs : List Pair) : List Pair := pairs.filter (·.1 ≠ key)

/-- Stores a system under a key.  The other parameters are kept. -/
def write (query key : String) (s : Grid) : String :=
  let pairs := decodePairs query
  let content := s.snapshot
  encodePairs (if content.isDefault then erase key pairs else put key content.text pairs)

end ResponsiveGrid.Query
