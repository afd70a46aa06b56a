import ResponsiveGrid.Json.Lexeme
set_option autoImplicit false

/-!
# Json: what a text holds, as far as it can be read

An outline is the tree of a text that may be no JSON.  Where reading has to stop it
holds the fault, at the place where a reader going from left to right meets it.  A
shape can therefore be imposed on an outline in reading order, and the first problem
wins, whether the text or the shape causes it: a wrong shape early in the text hides
a fault behind it.

Strings and numbers carry their content or the fault of reading it; an outline that
is only stepped over does not look at them.
-/

namespace ResponsiveGrid.Json

mutual

/-- A value, or the place where there is none. -/
inductive Outline where
  | null
  | boolean (value : Bool)
  | number (content : Except Fault Number)
  | string (content : Except Fault (List Char))
  | array (items : Items)
  | object (fields : Fields)
  /-- the text ends where a value has to stand -/
  | ended
  /-- a constant begins here and is not written to its end -/
  | misspelt (fault : Fault)
  /-- no value can be read here -/
  | broken (fault : Fault)

/-- The items of an array.  Behind a comma there is always one. -/
inductive Items where
  /-- the closing bracket, or what stands in its place -/
  | close (fault : Option Fault)
  | item (value : Outline) (rest : Items)

/-- The fields of an object. -/
inductive Fields where
  /-- the closing brace, or what stands in its place -/
  | close (fault : Option Fault)
  /-- something that is no key stands where a key has to stand, or the text ends -/
  | unkeyed (fault : Fault)
  | field (key : Except Fault (List Char)) (value : Outline) (rest : Fields)

end

instance : Inhabited Outline := ⟨.null⟩

/-- The fault where reading stopped, or the text behind a value. -/
abbrev Behind : Type := Except Fault (List Char)

/-- Reads the rest of a constant. -/
def readConstant (value : Outline) (word rest : List Char) : Outline × Behind :=
  match readWord word rest with
  | .ok behind => (value, .ok behind)
  | .error fault => (.misspelt fault, .error fault)

mutual

/-- Reads a value.  `fuel` bounds the steps; twice the length of the text is enough,
since at most two steps are made per character. -/
def readValue : Nat → List Char → Outline × Behind
  | 0, _ => (.broken .malformed, .error .malformed)
  | fuel + 1, s =>
      match skipBlanks s with
      | [] => (.ended, .error .truncated)
      | c :: rest =>
          if c = 'n' then readConstant .null "ull".toList rest
          else if c = 't' then readConstant (.boolean true) "rue".toList rest
          else if c = 'f' then readConstant (.boolean false) "alse".toList rest
          else if c = '"' then
            (.string (readString rest), skipString rest)
          else if c = '-' then
            (.number (readNumber true rest), skipNumber rest)
          else if c.isDigit then
            (.number (readNumber false (c :: rest)), skipNumber (c :: rest))
          else if c = '[' then
            match skipBlanks rest with
            | ']' :: behind => (.array (.close none), .ok behind)
            | [] => (.array (.close (some .truncated)), .error .truncated)
            | first =>
                let (items, behind) := readItems fuel first
                (.array items, behind)
          else if c = '\x7b' then
            match skipBlanks rest with
            | '\x7d' :: behind => (.object (.close none), .ok behind)
            | first =>
                let (fields, behind) := readFields fuel first
                (.object fields, behind)
          else (.broken .malformed, .error .malformed)

/-- Reads an item and the items behind it. -/
def readItems : Nat → List Char → Items × Behind
  | 0, _ => (.close (some .malformed), .error .malformed)
  | fuel + 1, s =>
      match readValue fuel s with
      | (value, .error fault) => (.item value (.close (some fault)), .error fault)
      | (value, .ok behind) =>
          match skipBlanks behind with
          | [] => (.item value (.close (some .truncated)), .error .truncated)
          | c :: rest =>
              if c = ',' then
                let (items, behind) := readItems fuel rest
                (.item value items, behind)
              else if c = ']' then (.item value (.close none), .ok rest)
              else (.item value (.close (some .malformed)), .error .malformed)

/-- Reads a field and the fields behind it. -/
def readFields : Nat → List Char → Fields × Behind
  | 0, _ => (.close (some .malformed), .error .malformed)
  | fuel + 1, s =>
      match skipBlanks s with
      | [] => (.unkeyed .truncated, .error .truncated)
      | '"' :: rest =>
          let key := readString rest
          match skipString rest with
          | .error fault => (.field key (.broken fault) (.close (some fault)), .error fault)
          | .ok behind =>
              match skipBlanks behind with
              | ':' :: rest =>
                  match readValue fuel rest with
                  | (value, .error fault) =>
                      (.field key value (.close (some fault)), .error fault)
                  | (value, .ok behind) =>
                      match skipBlanks behind with
                      | [] => (.field key value (.close (some .truncated)), .error .truncated)
                      | c :: rest =>
                          if c = ',' then
                            let (fields, behind) := readFields fuel rest
                            (.field key value fields, behind)
                          else if c = '\x7d' then (.field key value (.close none), .ok rest)
                          else (.field key value (.close (some .malformed)), .error .malformed)
              | rest =>
                  let fault := if rest = [] then Fault.truncated else .malformed
                  (.field key (.broken fault) (.close (some fault)), .error fault)
      | _ => (.unkeyed .malformed, .error .malformed)

end

/-- The outline of a text, and the fault behind its value if there is one: nothing
but blanks may stand there. -/
def outlineOf (s : List Char) : Outline × Option Fault :=
  match readValue (2 * s.length + 2) s with
  | (value, .ok behind) =>
      (value, if skipBlanks behind = [] then none else some .malformed)
  | (value, .error fault) => (value, some fault)

/-! ## Stepping over a value -/

mutual

/-- The first fault of a value whose contents do not matter. -/
def Outline.skip : Outline → Except Fault Unit
  | .array items => items.skip
  | .object fields => fields.skip
  | .ended => .error .truncated
  | .misspelt fault => .error fault
  | .broken fault => .error fault
  | _ => .ok ()

/-- The first fault of items whose contents do not matter. -/
def Items.skip : Items → Except Fault Unit
  | .close none => .ok ()
  | .close (some fault) => .error fault
  | .item value rest =>
      match value.skip with
      | .ok () => rest.skip
      | .error fault => .error fault

/-- The first fault of fields whose contents do not matter. -/
def Fields.skip : Fields → Except Fault Unit
  | .close none => .ok ()
  | .close (some fault) => .error fault
  | .unkeyed fault => .error fault
  | .field _ value rest =>
      match value.skip with
      | .ok () => rest.skip
      | .error fault => .error fault

end

/-! ## Reading a value of any shape -/

/-- How deeply arrays and objects may be nested in a value that is read whole. -/
def depthLimit : Nat := 127

mutual

/-- The first fault of a value that is read whole, contents included.  `depth` levels
of nesting are still allowed; a bracket beyond them is refused before what it holds. -/
def Outline.readable (depth : Nat) : Outline → Except Fault Unit
  | .null => .ok ()
  | .boolean _ => .ok ()
  | .number (.ok _) => .ok ()
  | .number (.error fault) => .error fault
  | .string (.ok _) => .ok ()
  | .string (.error fault) => .error fault
  | .array items => if depth = 0 then .error .malformed else items.readable (depth - 1)
  | .object fields => if depth = 0 then .error .malformed else fields.readable (depth - 1)
  | .ended => .error .truncated
  | .misspelt fault => .error fault
  | .broken fault => .error fault

/-- The first fault of items that are read whole. -/
def Items.readable (depth : Nat) : Items → Except Fault Unit
  | .close none => .ok ()
  | .close (some fault) => .error fault
  | .item value rest =>
      match value.readable depth with
      | .ok () => rest.readable depth
      | .error fault => .error fault

/-- The first fault of fields that are read whole. -/
def Fields.readable (depth : Nat) : Fields → Except Fault Unit
  | .close none => .ok ()
  | .close (some fault) => .error fault
  | .unkeyed fault => .error fault
  | .field (.error fault) _ _ => .error fault
  | .field (.ok _) value rest =>
      match value.readable depth with
      | .ok () => rest.readable depth
      | .error fault => .error fault

end

end ResponsiveGrid.Json
