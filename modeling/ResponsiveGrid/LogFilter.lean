import ResponsiveGrid.Decimal.Reading
import ResponsiveGrid.Pattern.Check
import ResponsiveGrid.Text.Blank
import ResponsiveGrid.Text.Parts
import ResponsiveGrid.Text.Word
set_option autoImplicit false

/-!
# LogFilter: whether a log filter is well formed

A filter is a list of directives with commas between them.  A directive names a target
or a level, or a target with spans in brackets, fields of spans in braces and a level
behind an equals sign.  A field may have a value: a number, or a pattern.  Nothing is
logged here; the check only keeps a configuration from being accepted that could not be
used.

A directive is walked through without the blanks around it.  The values and levels found
on the way are cut out of the directive with its blanks, at the offsets that they have
without.  So a blank in front moves every cut, and a blank behind belongs to the level.
-/

namespace ResponsiveGrid.LogFilter

/-- Why a filter is refused. -/
inductive Fault where
  /-- a directive is not built as it should be -/
  | malformed
  /-- the level of a directive is none -/
  | unknownLevel
  /-- the value of a field can be neither a number nor a pattern -/
  | fieldValue (cause : Pattern.Fault)
  deriving DecidableEq, Repr, Inhabited

/-- The sentence for a fault. -/
def Fault.message : Fault → String
  | .malformed => "invalid filter directive"
  | .unknownLevel =>
      "error parsing level filter: expected one of \"off\", \"error\", \"warn\", " ++
        "\"info\", \"debug\", \"trace\", or a number 0-5"
  | .fieldValue cause => "invalid field filter: " ++ cause.message

/-! ## Levels and fields -/

/-- The names of the levels. -/
def levelNames : List String := ["off", "error", "warn", "info", "debug", "trace"]

/-- Whether a text is a level: a name in any case, or a number up to five. -/
def isLevel (text : List Char) : Bool :=
  match Decimal.countOf? text with
  | some n => decide (n ≤ 5)
  | none => levelNames.contains (String.ofList (text.map Char.toLower))

/-- The check of a level, which may be left out. -/
def checkLevel (text : List Char) : Except Fault Unit :=
  if text = [] ∨ isLevel text then .ok () else .error .unknownLevel

/-- The check of the value of a field.  A number is not read as a pattern. -/
def checkValue (text : List Char) : Except Fault Unit :=
  if (Decimal.binary64Of? text).isSome then .ok ()
  else
    match Pattern.check text with
    | .ok () => .ok ()
    | .error cause => .error (.fieldValue cause)

/-- The check of a field: a name, and a value between the first equals sign and the
second one or the end. -/
def checkField (text : List Char) : Except Fault Unit :=
  if text = [] then .error .malformed
  else
    match Text.parts '=' text with
    | _ :: value :: _ => checkValue value
    | _ => .ok ()

/-! ## Directives -/

/-- Where in a directive a character stands. -/
inductive Place where
  | start
  /-- in the name of a target or a level -/
  | name
  | span
  /-- in a field of a span that begins at the offset `first` -/
  | field (first : Nat)
  | behindFields
  | behindSpan
  /-- in a level that begins at the offset `first` -/
  | level (first : Nat)
  deriving DecidableEq, Repr, Inhabited

/-- Whether a directive may begin with a character other than a bracket. -/
def begins (c : Char) : Bool := c = '-' || c = ':' || c = '_' || Text.isWordChar c

/-- The place behind one more character, which stands at the offset `here` of a
directive without the blanks around it. -/
def Place.next (directive : List Char) (here : Nat) (c : Char) : Place → Except Fault Place
  | .start =>
      if c = '[' then .ok .span else if begins c then .ok .name else .error .malformed
  | .name =>
      if c = '=' then .ok (.level (here + 1))
      else if c = '[' then .ok .span
      else .ok .name
  | .span =>
      if c = ']' then .ok .behindSpan
      else if c = '\x7b' then .ok (.field (here + 1))
      else .ok .span
  | .field first =>
      if c = '\x7d' then
        match checkField (Text.between first here directive) with
        | .ok () => .ok .behindFields
        | .error fault => .error fault
      else .ok (.field first)
  | .behindFields => if c = ']' then .ok .behindSpan else .error .malformed
  | .behindSpan => if c = '=' then .ok (.level (here + 1)) else .error .malformed
  | .level first => .ok (.level first)

/-- Whether a directive may end at a place. -/
def Place.finish (directive : List Char) : Place → Except Fault Unit
  | .name => .ok ()
  | .behindSpan => .ok ()
  | .level first => checkLevel (Text.dropBytes first directive)
  | _ => .error .malformed

/-- The check of the rest of a directive from a place and an offset on. -/
def checkFrom (directive : List Char) (place : Place) (here : Nat) :
    List Char → Except Fault Unit
  | [] => place.finish directive
  | c :: rest =>
      match place.next directive here c with
      | .ok place => checkFrom directive place (here + c.utf8Size) rest
      | .error fault => .error fault

/-- The check of a directive. -/
def checkDirective (directive : List Char) : Except Fault Unit :=
  checkFrom directive .start 0 (Text.trimmed directive)

/-! ## Filters -/

/-- The check of directives, which ends at the first fault. -/
def checkAll : List (List Char) → Except Fault Unit
  | [] => .ok ()
  | directive :: rest =>
      match checkDirective directive with
      | .ok () => checkAll rest
      | .error fault => .error fault

/-- Checks a filter.  Empty directives do not count. -/
def check (filter : String) : Except Fault Unit :=
  checkAll ((Text.parts ',' filter.toList).filter (· ≠ []))

end ResponsiveGrid.LogFilter
