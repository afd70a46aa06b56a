set_option autoImplicit false

/-!
# Toml: values and how tables grow

A document is a table.  Tables are filled piece by piece, by headers and by dotted
keys, and how a table came about decides who may still add to it.  `Fields.extend`
walks along a path of names to a table, `Fields.assign` adds a value there and
`Fields.open` the table of a header; each fails where a rule forbids it.
-/

namespace ResponsiveGrid.Toml

/-- How a table came about. -/
inductive Origin where
  /-- a header named it -/
  | header
  /-- a header named a table inside it -/
  | implicit
  /-- a dotted key named a value inside it -/
  | dotted
  /-- it stands between braces -/
  | inline
  /-- a dotted key between braces named a value inside it -/
  | inlineDotted
  deriving DecidableEq, Repr, Inhabited

/-- Whether a dotted key may add to a table directly. -/
def Origin.isDotted : Origin → Bool
  | .dotted => true
  | .inlineDotted => true
  | _ => false

/-- Whether a path may lead through a table.  A table between braces is closed, and a
table with a header is closed for dotted keys. -/
def Origin.admits (dottedKey : Bool) : Origin → Bool
  | .header => !dottedKey
  | .inline => false
  | _ => true

/-- A value.  `tables` are the tables of repeated headers. -/
inductive Value where
  | string (value : String)
  | integer (value : Int)
  | decimal (value : Float)
  | boolean (value : Bool)
  /-- a date, a time of day or both -/
  | moment
  | array (items : List Value)
  | table (origin : Origin) (fields : List (String × Value))
  | tables (items : List (List (String × Value)))
  deriving Inhabited

/-- The fields of a table in the order in which they were added. -/
abbrev Fields : Type := List (String × Value)

namespace Fields

/-- The value of a field. -/
def get? (fields : Fields) (name : String) : Option Value :=
  (fields.find? fun f => f.1 == name).map Prod.snd

/-- The fields with the value of one of them replaced. -/
def replace (fields : Fields) (name : String) (value : Value) : Fields :=
  fields.map fun f => if f.1 = name then (name, value) else f

/-- The fields without one of them. -/
def erase (fields : Fields) (name : String) : Fields := fields.filter (·.1 ≠ name)

/-- Changes the table at the end of a path.  Missing tables on the way are made with
the origin `fresh`; through repeated tables the way leads to the last of them.
`origin` is how the table with `fields` came about. -/
def extend (dottedKey : Bool) (fresh : Origin) (change : Origin → Fields → Option Fields) :
    List String → Origin → Fields → Option Fields
  | [], origin, fields => change origin fields
  | name :: path, _, fields =>
      match get? fields name with
      | none =>
          (extend dottedKey fresh change path fresh []).map fun inner =>
            fields ++ [(name, .table fresh inner)]
      | some (.table origin inner) =>
          if origin.admits dottedKey then
            (extend dottedKey fresh change path origin inner).map fun inner =>
              replace fields name (.table origin inner)
          else none
      | some (.tables items) =>
          match items.getLast? with
          | none => none
          | some inner =>
              (extend dottedKey fresh change path .header inner).map fun inner =>
                replace fields name (.tables (items.dropLast ++ [inner]))
      | some _ => none

/-- Adds a new field. -/
def add (fields : Fields) (name : String) (value : Value) : Option Fields :=
  match get? fields name with
  | none => some (fields ++ [(name, value)])
  | some _ => none

end Fields

/-- A dotted key, as the names before the last one and the last one. -/
structure Key where
  path : List String
  name : String
  deriving DecidableEq, Repr, Inhabited

/-- A key with its value. -/
structure Assignment where
  key : Key
  value : Value
  deriving Inhabited

namespace Fields

/-- Adds the value of an assignment.  A dotted key adds only to tables that dotted keys
have made, and a plain key only to the table it stands in. -/
def assign (fresh : Origin) (fields : Fields) (a : Assignment) : Option Fields :=
  extend true fresh
    (fun origin inner =>
      if origin.isDotted = a.key.path.isEmpty then none
      else add inner a.key.name a.value)
    a.key.path .header fields

/-- Adds the values of assignments, one after the other. -/
def assignAll (fresh : Origin) : Fields → List Assignment → Option Fields
  | fields, [] => some fields
  | fields, a :: rest =>
      match assign fresh fields a with
      | some fields => assignAll fresh fields rest
      | none => none

/-- Adds the table of a header with the assignments below it.  A header may complete a
table that only headers of inner tables have named so far. -/
def openTable (fields : Fields) (key : Key) (assignments : List Assignment) : Option Fields :=
  extend false .implicit
    (fun _ inner =>
      match get? inner key.name with
      | none =>
          (assignAll .dotted [] assignments).map fun own =>
            inner ++ [(key.name, .table .header own)]
      | some (.table .implicit known) =>
          (assignAll .dotted known assignments).map fun own =>
            erase inner key.name ++ [(key.name, .table .header own)]
      | some _ => none)
    key.path .header fields

/-- Adds one more of the tables of a repeated header. -/
def openRepeated (fields : Fields) (key : Key) (assignments : List Assignment) :
    Option Fields :=
  extend false .implicit
    (fun _ inner =>
      match get? inner key.name with
      | none =>
          (assignAll .dotted [] assignments).map fun own =>
            inner ++ [(key.name, .tables [own])]
      | some (.tables items) =>
          (assignAll .dotted [] assignments).map fun own =>
            replace inner key.name (.tables (items ++ [own]))
      | some _ => none)
    key.path .header fields

end Fields

end ResponsiveGrid.Toml
