import ResponsiveGrid.Stylesheet.Node
import ResponsiveGrid.Grid.Basic
set_option autoImplicit false

/-!
# Stylesheet: where values change

Five fields of every breakpoint drive the style sheet.  A marker stands at each
breakpoint where at least one of them differs from the narrower neighbour.  For each
field there is then one variable per run of equal values, under the key of the
marker at which the run starts, or under the root key for the first run.
-/

namespace ResponsiveGrid.Stylesheet

/-! ## Keys -/

/-- From where on a variable applies: everywhere, or from a marker on. -/
inductive Key where
  | root
  | marker (number : Nat)
  deriving DecidableEq, Repr, Inhabited

namespace Key

/-- The root comes first, then the markers in ascending order. -/
def rank : Key → Nat
  | .root => 0
  | .marker n => n + 1

/-- The name of a key. -/
def name : Key → String
  | .root => "root"
  | .marker n => s!"mq{n}"

/-- What is put before the name of a variable or a class. -/
def label : Key → String
  | .root => ""
  | .marker n => s!"mq{n}\\:"

/-- The condition of a block that applies from a marker on. -/
def media? : Key → Option Phrase
  | .root => none
  | .marker n => some [.text "@media #\x7b", .variable s!"mq{n}", .text "\x7d"]

end Key

/-! ## Tracked fields -/

/-- A field that drives the style sheet. -/
inductive Track where
  | contentMaxWidth
  | columns
  | gutter
  | margin
  | scale
  deriving DecidableEq, Repr, Inhabited

/-- What a tracked field is set to. -/
inductive TrackValue where
  /-- a width, or none -/
  | width (value : Option Nat)
  | pixels (value : Nat)
  | count (value : Nat)
  | ratio (value : Float)
  deriving DecidableEq, Repr, Inhabited

namespace Track

/-- The tracked fields in the order in which they are written. -/
def all : List Track := [.contentMaxWidth, .columns, .gutter, .margin, .scale]

/-- The name of the variables of a field. -/
def variableName : Track → String
  | .contentMaxWidth => "grid-max-width"
  | .columns => "grid-columns"
  | .gutter => "grid-gutter"
  | .margin => "grid-margin"
  | .scale => "root-font-size"

/-- The value of a field in settings. -/
def valueIn (s : Settings) : Track → TrackValue
  | .contentMaxWidth => .width s.contentMaxWidth
  | .columns => .count s.columns
  | .gutter => .pixels s.gutter
  | .margin => .pixels s.margin
  | .scale => .ratio s.scale

end Track

/-- The expression for a value. -/
def TrackValue.expression : TrackValue → String
  | .width (some px) => s!"rem({px})"
  | .width none => "none"
  | .pixels px => s!"rem({px})"
  | .count n => s!"{n}"
  | .ratio x =>
      let digits := String.ofList (Decimal.plain x)
      s!"percentage({digits})"

/-! ## Markers -/

/-- A marker and the width from which on it applies. -/
structure Marker where
  key : Key
  minWidth : Nat
  deriving DecidableEq, Repr, Inhabited

/-- The variable that a marker is declared by. -/
def Marker.node (m : Marker) : Node :=
  let width := m.minWidth
  .variable m.key.name [.text s!"\"(min-width: #\x7bem({width})\x7d)\""]

/-- Whether at least one tracked field differs. -/
def differs (a b : Settings) : Bool := Track.all.any fun t => t.valueIn a != t.valueIn b

/-- The markers among entries, numbered on from `count`. -/
def markersFrom (count : Nat) : List Entry → List Marker
  | a :: b :: rest =>
      if differs a.settings b.settings then
        ⟨.marker (count + 1), b.range.minWidth⟩ :: markersFrom (count + 1) (b :: rest)
      else markersFrom count (b :: rest)
  | _ => []

/-- The markers of a system, narrowest first. -/
def markers (s : Grid) : List Marker := markersFrom 0 s.entries

/-! ## Runs -/

/-- A variable and its value. -/
structure Variable where
  name : String
  value : String
  deriving DecidableEq, Repr, Inhabited

/-- The declaration of a variable. -/
def Variable.node (v : Variable) : Node := .variable v.name [.text v.value]

/-- The use of a variable. -/
def Variable.use (v : Variable) : Piece := .variable v.name

/-- The variables of one field, in ascending order of their keys. -/
abbrev Runs : Type := List (Key × Variable)

/-- Puts a variable under a key, in place of the one that is there. -/
def Runs.insert (key : Key) (v : Variable) : Runs → Runs
  | [] => [(key, v)]
  | (k, w) :: rest =>
      if key.rank < k.rank then (key, v) :: (k, w) :: rest
      else if key = k then (key, v) :: rest
      else (k, w) :: Runs.insert key v rest

/-- The key of the marker at a width; the root where there is none. -/
def keyAt (markers : List Marker) (minWidth : Nat) : Key :=
  match markers.find? fun m => m.minWidth == minWidth with
  | some m => m.key
  | none => .root

/-- The variable of a field for a value from a key on. -/
def variableFor (track : Track) (key : Key) (value : TrackValue) : Variable where
  name := key.label ++ track.variableName
  value := value.expression

/-- Adds the runs that start in entries.  A run starts at the narrowest width and
wherever the value is not the one before. -/
def collectFrom (track : Track) (markers : List Marker) :
    Option TrackValue → List Entry → Runs → Runs
  | _, [], runs => runs
  | previous, e :: rest, runs =>
      let value := track.valueIn e.settings
      let starts := e.range.isFromStart || previous.any (· != value)
      let runs :=
        if starts then
          let key := keyAt markers e.range.minWidth
          runs.insert key (variableFor track key value)
        else runs
      collectFrom track markers (some value) rest runs

/-- The runs of every tracked field. -/
structure Variables where
  runs : Track → Runs

/-- The variables of a system under given markers. -/
def Variables.collect (s : Grid) (markers : List Marker) : Variables where
  runs track := collectFrom track markers none s.entries []

namespace Variables

/-- The variable of a field under a key. -/
def get? (v : Variables) (track : Track) (key : Key) : Option Variable :=
  ((v.runs track).find? fun run => run.1 == key).map Prod.snd

/-- Puts a key in its place among ascending keys, once. -/
def insertKey (key : Key) : List Key → List Key
  | [] => [key]
  | k :: rest =>
      if key.rank < k.rank then key :: k :: rest
      else if key = k then k :: rest
      else k :: insertKey key rest

/-- The keys under which at least one of the fields has a variable, ascending. -/
def keys (v : Variables) (tracks : List Track) : List Key :=
  (tracks.flatMap fun t => (v.runs t).map Prod.fst).foldr insertKey []

/-- All variables, field by field, each in the order of its keys. -/
def all (v : Variables) : List Variable :=
  Track.all.flatMap fun t => (v.runs t).map Prod.snd

end Variables

end ResponsiveGrid.Stylesheet
