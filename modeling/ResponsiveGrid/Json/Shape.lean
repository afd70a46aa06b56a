import ResponsiveGrid.Json.Outline
set_option autoImplicit false

/-!
# Json: imposing a shape on an outline

Shapes that turn an outline into a value of a known shape, or report the first
problem in reading order.  A record may be written as an object, in any order of its
fields and with unknown fields in between, or as an array of its fields in order.
-/

namespace ResponsiveGrid.Json

/-- A shape turns an outline that has it into a value. -/
abbrev Shape (α : Type) : Type := Outline → Except Fault α

/-! ## Scalars -/

/-- What stands at the start of an outline. -/
def Outline.found : Outline → Except Fault Found
  | .null => .ok .null
  | .boolean b => .ok (.boolean b)
  | .number (.ok (.integer n)) => .ok (.integer n)
  | .number (.ok (.decimal x)) => .ok (.decimal x)
  | .number (.error fault) => .error fault
  | .string (.ok s) => .ok (.string (String.ofList s))
  | .string (.error fault) => .error fault
  | .array _ => .ok .sequence
  | .object _ => .ok .map
  | .ended => .error .truncated
  | .misspelt fault => .error fault
  | .broken fault => .error fault

/-- Refuses an outline of another kind than `expected`. -/
def Shape.wrongKind {α : Type} (expected : String) : Shape α := fun o =>
  match o.found with
  | .ok found => .error (.mismatch (.kind found expected))
  | .error fault => .error fault

/-- An integer within the bounds of the type `name`. -/
def Shape.integer (name : String) (least greatest : Int) : Shape Int
  | .number (.ok (.integer n)) =>
      if least ≤ n ∧ n ≤ greatest then .ok n else .error (.mismatch (.bounds n name))
  | o => Shape.wrongKind name o

/-- A natural number of thirty-two bits. -/
def Shape.natural32 : Shape Nat := fun o =>
  match Shape.integer "u32" 0 largest32 o with
  | .ok n => .ok n.toNat
  | .error fault => .error fault

/-- An integer of sixty-four bits. -/
def Shape.integer64 : Shape Int := Shape.integer "i64" (-9223372036854775808) 9223372036854775807

/-- A binary64 number, which may be written as an integer. -/
def Shape.binary64 : Shape Float
  | .number (.ok (.integer n)) => .ok (Float.ofInt n)
  | .number (.ok (.decimal x)) => .ok x
  | o => Shape.wrongKind "f64" o

/-- A truth value. -/
def Shape.truth : Shape Bool
  | .boolean b => .ok b
  | o => Shape.wrongKind "a boolean" o

/-- `null`, or a value. -/
def Shape.optional {α : Type} (read : Shape α) : Shape (Option α)
  | .null => .ok none
  | o =>
      match read o with
      | .ok v => .ok (some v)
      | .error fault => .error fault

/-! ## Lists -/

/-- Reads every item. -/
def Items.readAll {α : Type} (read : Shape α) : Items → Except Fault (List α)
  | .close none => .ok []
  | .close (some fault) => .error fault
  | .item value rest =>
      match read value with
      | .error fault => .error fault
      | .ok v =>
          match rest.readAll read with
          | .ok vs => .ok (v :: vs)
          | .error fault => .error fault

/-- An array of values. -/
def Shape.list {α : Type} (read : Shape α) : Shape (List α)
  | .array items => items.readAll read
  | o => Shape.wrongKind "a sequence" o

/-! ## Names -/

/-- The value that a name stands for. -/
def named {α : Type} (names : List (String × α)) (name : List Char) : Except Fault α :=
  match names.find? fun entry => entry.1 == String.ofList name with
  | some (_, v) => .ok v
  | none =>
      .error (.mismatch (.unknownVariant (String.ofList name) (names.map Prod.fst)))

/-- What may follow the only field of an object that stands for a name. -/
def Fields.closeOnly : Fields → Except Fault Unit
  | .close none => .ok ()
  | .close (some fault) => .error fault
  | _ => .error .malformed

/-- One of several names, written as a string or as an object with that one key and
the value `null`. -/
def Shape.variant {α : Type} (names : List (String × α)) : Shape α
  | .string (.ok name) => named names name
  | .string (.error fault) => .error fault
  | .object (.close none) => .error .malformed
  | .object (.close (some fault)) => .error fault
  | .object (.unkeyed fault) => .error fault
  | .object (.field (.error fault) _ _) => .error fault
  | .object (.field (.ok name) value rest) =>
      match named names name with
      | .error fault => .error fault
      | .ok v =>
          match value with
          | .null =>
              match rest.closeOnly with
              | .ok () => .ok v
              | .error fault => .error fault
          | value => Shape.wrongKind "unit" value
  | .ended => .error .truncated
  | .broken fault => .error fault
  | _ => .error .malformed

/-! ## Records -/

/-- A field of a record that is being collected in a `σ`. -/
structure Slot (σ : Type) where
  name : String
  /-- whether an array that stands for the record has to reach this field -/
  required : Bool
  /-- whether the field has been read -/
  filled : σ → Bool
  /-- reads the field -/
  store : σ → Shape σ

/-- Reads the fields of an object.  A second field of one name is refused before its
value; a field of an unknown name is stepped over. -/
def Fields.readRecord {σ : Type} (slots : List (Slot σ)) : Fields → σ → Except Fault σ
  | .close none, state => .ok state
  | .close (some fault), _ => .error fault
  | .unkeyed fault, _ => .error fault
  | .field (.error fault) _ _, _ => .error fault
  | .field (.ok key) value rest, state =>
      match slots.find? fun slot => slot.name == String.ofList key with
      | none =>
          match value.skip with
          | .ok () => rest.readRecord slots state
          | .error fault => .error fault
      | some slot =>
          if slot.filled state then .error (.mismatch (.duplicateField slot.name))
          else
            match slot.store state value with
            | .ok state => rest.readRecord slots state
            | .error fault => .error fault

/-- Reads the items of an array as the fields of a record of `size` fields, of which
`done` have been read. -/
def Items.readRecord {σ : Type} (record : String) (size done : Nat) :
    List (Slot σ) → Items → σ → Except Fault σ
  | [], .close none, state => .ok state
  | [], .close (some fault), _ => .error fault
  | [], .item _ _, _ => .error .malformed
  | slot :: slots, .close none, state =>
      if slot.required then .error (.mismatch (.tooShort done record size))
      else Items.readRecord record size (done + 1) slots (.close none) state
  | _ :: _, .close (some fault), _ => .error fault
  | slot :: slots, .item value rest, state =>
      match slot.store state value with
      | .ok state => Items.readRecord record size (done + 1) slots rest state
      | .error fault => .error fault

/-- A record: its fields are collected from `empty` on, and `finish` reports the
first one that is missing. -/
def Shape.record {σ α : Type} (name : String) (slots : List (Slot σ)) (empty : σ)
    (finish : σ → Except Fault α) : Shape α := fun o =>
  let collected :=
    match o with
    | .object fields => fields.readRecord slots empty
    | .array items => items.readRecord name slots.length 0 slots empty
    | o => Shape.wrongKind s!"struct {name}" o
  match collected with
  | .ok state => finish state
  | .error fault => .error fault

/-- The value of a field that a record cannot do without. -/
def present {α : Type} (name : String) : Option α → Except Fault α
  | some v => .ok v
  | none => .error (.mismatch (.missingField name))

/-! ## Alternatives -/

/-- The first alternative that fits a value which can be read whole. -/
def Shape.firstFitting {α : Type} (name : String) (alternatives : List (Shape α)) : Shape α :=
  fun o =>
    match o.readable depthLimit with
    | .error fault => .error fault
    | .ok () =>
        match alternatives.findSome? fun read => (read o).toOption with
        | some v => .ok v
        | none => .error (.mismatch (.noAlternative name))

/-! ## Texts -/

/-- Reads a whole text: a value, and nothing but blanks behind it. -/
def parse {α : Type} (read : Shape α) (text : String) : Except Fault α :=
  let (o, behind) := outlineOf text.toList
  match read o with
  | .error fault => .error fault
  | .ok v =>
      match behind with
      | none => .ok v
      | some fault => .error fault

end ResponsiveGrid.Json
