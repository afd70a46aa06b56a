import ResponsiveGrid.Toml.Lexeme
set_option autoImplicit false

/-!
# Toml: documents

A document is a sequence of statements: headers and assignments.  The assignments
before the first header belong to the document itself, those behind a header to its
table.  `parse` reads a text as a table, or as nothing when it breaks a rule.
-/

namespace ResponsiveGrid.Toml

open Text (Reader)

/-! ## Nested values -/

/-- Reads the items of an array behind its opening bracket.  The last one may be
followed by a comma.  No text has more items than characters. -/
def items (read : Reader Value) : Nat → Reader (List Value)
  | 0, _ => none
  | fuel + 1, text =>
      match skipTrivia false text with
      | ']' :: rest => some ([], rest)
      | text =>
          match read text with
          | none => none
          | some (v, rest) =>
              match skipTrivia false rest with
              | ']' :: rest => some ([v], rest)
              | ',' :: rest =>
                  match items read fuel rest with
                  | none => none
                  | some (vs, rest) => some (v :: vs, rest)
              | _ => none

/-- Reads a key, an equals sign and a value. -/
def assignment (read : Reader Value) : Reader Assignment := fun text =>
  match key text with
  | some (k, '=' :: rest) =>
      match read (skipSpaces rest) with
      | none => none
      | some (v, rest) => some (⟨k, v⟩, skipSpaces rest)
  | _ => none

/-- Reads the assignments between braces behind the opening one. -/
def braces (read : Reader Value) : Reader Value := fun text =>
  match skipSpaces text with
  | '\x7d' :: rest => some (.table .inline [], rest)
  | text =>
      match separatedBy ',' (assignment read) (text.length + 1) text with
      | some (assignments, '\x7d' :: rest) =>
          (Fields.assignAll .inlineDotted [] assignments).map fun fields =>
            (.table .inline fields, rest)
      | _ => none

/-- Reads a value with at most `depth` levels of arrays and braces. -/
def value : Nat → Reader Value
  | 0, '[' :: _ => none
  | 0, '\x7b' :: _ => none
  | depth + 1, '[' :: rest =>
      (items (value depth) (rest.length + 1) rest).map fun (vs, rest) => (.array vs, rest)
  | depth + 1, '\x7b' :: rest => braces (value depth) rest
  | _, text => scalar text

/-- How many levels of arrays and braces a value may have. -/
def depthLimit : Nat := 79

/-! ## Statements -/

/-- A header or an assignment. -/
inductive Statement where
  | header (key : Key)
  /-- a header of one more table of the same name -/
  | repeatedHeader (key : Key)
  | assignment (content : Assignment)
  deriving Inhabited

/-- Reads a statement without the end of its line. -/
def statement : Reader Statement
  | '[' :: '[' :: rest =>
      match key rest with
      | some (k, ']' :: ']' :: rest) => some (.repeatedHeader k, rest)
      | _ => none
  | '[' :: rest =>
      match key rest with
      | some (k, ']' :: rest) => some (.header k, rest)
      | _ => none
  | text => (assignment (value depthLimit) text).map fun (a, rest) => (.assignment a, rest)

/-- Reads all statements.  No text has more of them than characters. -/
def statements : Nat → List Char → Option (List Statement)
  | 0, _ => none
  | fuel + 1, text =>
      match skipTrivia false text with
      | [] => some []
      | text =>
          match statement text with
          | none => none
          | some (s, rest) =>
              match lineEnd? rest with
              | none => none
              | some rest => (statements fuel rest).map (s :: ·)

/-! ## Tables -/

/-- A header and the assignments below it. -/
structure Section where
  key : Key
  repeated : Bool
  assignments : List Assignment
  deriving Inhabited

/-- The assignments before the first header, and the sections behind them. -/
def sections : List Statement → List Assignment × List Section
  | [] => ([], [])
  | s :: rest =>
      let (own, following) := sections rest
      match s with
      | .assignment a => (a :: own, following)
      | .header k => ([], ⟨k, false, own⟩ :: following)
      | .repeatedHeader k => ([], ⟨k, true, own⟩ :: following)

/-- Adds the tables of sections, one after the other. -/
def Fields.openAll : Fields → List Section → Option Fields
  | fields, [] => some fields
  | fields, s :: rest =>
      match
        if s.repeated then fields.openRepeated s.key s.assignments
        else fields.openTable s.key s.assignments
      with
      | none => none
      | some fields => openAll fields rest

/-- Reads a text as a table. -/
def parse (text : String) : Option Fields :=
  let text := match text.toList with
    | '\uFEFF' :: rest => rest
    | text => text
  match statements (text.length + 1) text with
  | none => none
  | some statements =>
      let (own, following) := sections statements
      match Fields.assignAll .dotted [] own with
      | none => none
      | some fields => fields.openAll following

end ResponsiveGrid.Toml
