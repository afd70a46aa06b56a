import ResponsiveGrid.Stylesheet.Track
set_option autoImplicit false

/-!
# Stylesheet: the sheet of a grid system

The sections of a sheet, in order: the two unit functions, the markers, the grid
variables, the root rule, the rules of the three components, and one loop per run of
columns for spans and for offsets.  Every rule says first what applies everywhere,
and then, in a block per marker, what changes from there on.
-/

namespace ResponsiveGrid.Stylesheet

/-! ## Fixed texts -/

/-- The function from pixels to ems. -/
def emFunction : String :=
  "@function em($px, $context: 16) \x7b\n  @return ($px / $context * 1em);\n\x7d"

/-- The function from pixels to root ems. -/
def remFunction : String :=
  "@function rem($px) \x7b\n  @return ($px / 16 * 1rem);\n\x7d"

/-- A declaration whose value uses no variable. -/
def plainDeclaration (property value : String) : Node := .declaration property [.text value]

/-! ## Rules with a block per marker -/

/-- Declarations as they stand in a rule: as they are under the root, in a block behind
an empty line under a marker. -/
def blockFor (key : Key) (declarations : List Node) : List Node :=
  match key.media? with
  | none => declarations
  | some condition => [.blank, .rule condition declarations]

/-- Half of the gutter on both sides. -/
def halfGutter (v : Variables) (key : Key) (side rest : String) : List Node :=
  match v.get? .gutter key with
  | none => []
  | some gutter =>
      let value : Phrase := [gutter.use, .text (" / 2" ++ rest)]
      [.declaration (side ++ "-right") value, .declaration (side ++ "-left") value]

/-- The rule for the root element: its font size. -/
def rootRule (v : Variables) : Node :=
  .rule [.text "html"] <| (v.keys [.scale]).flatMap fun key =>
    blockFor key <|
      match v.get? .scale key with
      | none => []
      | some scale => [.declaration "font-size" [scale.use]]

/-- The order of the declarations that apply to a container everywhere. -/
def containerOrder : List String :=
  ["box-sizing", "display", "flex-wrap", "max-width", "margin-right", "margin-left",
    "padding-right", "padding-left"]

/-- The place of a statement in a container; what is no listed declaration comes
last. -/
def containerRank (node : Node) : Nat :=
  match node.property? with
  | none => containerOrder.length
  | some property => containerOrder.idxOf property

/-- What a container declares under a key. -/
def containerDeclarations (v : Variables) (key : Key) : List Node :=
  (match v.get? .contentMaxWidth key with
    | none => []
    | some cap => [.declaration "max-width" [cap.use]])
  ++ halfGutter v key "padding" ""

/-- Adds what a container declares under a key.  What applies everywhere is put in
order as soon as it is complete. -/
def extendContainer (v : Variables) (children : List Node) (key : Key) : List Node :=
  let children := children ++ blockFor key (containerDeclarations v key)
  if key = .root then
    children.mergeSort fun a b => decide (containerRank a ≤ containerRank b)
  else children

/-- The rule for containers. -/
def containerRule (v : Variables) : Node :=
  .rule [.text ".container"] <|
    (v.keys [.contentMaxWidth, .gutter]).foldl (extendContainer v) [
      plainDeclaration "box-sizing" "border-box",
      plainDeclaration "margin-right" "auto",
      plainDeclaration "margin-left" "auto"]

/-- The rule for rows, which reach half a gutter beyond the container. -/
def rowRule (v : Variables) : Node :=
  .rule [.text ".row"] <|
    plainDeclaration "display" "flex" :: plainDeclaration "flex-wrap" "wrap" ::
      (v.keys [.gutter]).flatMap fun key => blockFor key (halfGutter v key "margin" " * -1")

/-- The rule for columns. -/
def colRule (v : Variables) : Node :=
  .rule [.text ".col"] <|
    plainDeclaration "box-sizing" "border-box" ::
      (v.keys [.gutter]).flatMap fun key => blockFor key (halfGutter v key "padding" "")

/-! ## Fractions -/

/-- The share of the row that a fraction takes. -/
def share : Phrase :=
  [.text "percentage(", .variable "numerator", .text " / ", .variable "denominator", .text ")"]

/-- The class of a fraction: `s` for spans and `o` for offsets. -/
def fractionSelector (key : Key) (kind : String) : Phrase :=
  [.text (".col.-" ++ key.label ++ kind ++ "#\x7b"), .variable "numerator",
    .text "\x7dof#\x7b", .variable "denominator", .text "\x7d"]

/-- The loop over all fractions of a number of columns. -/
def fractionLoop (key : Key) (columns : Variable) (kind property : String) : Node :=
  let declarations : List Node := [.declaration property share]
  let body := match key.media? with
    | none => declarations
    | some condition => [.rule condition declarations]
  .rule [.text "@for ", .variable "denominator", .text " from 1 through ", columns.use] [
    .rule [.text "@for ", .variable "numerator", .text " from 1 through ",
        .variable "denominator"] [
      .rule (fractionSelector key kind) body]]

/-- One loop per run of columns. -/
def fractionLoops (v : Variables) (kind property : String) : List Node :=
  (v.keys [.columns]).filterMap fun key =>
    (v.get? .columns key).map fun columns => fractionLoop key columns kind property

/-! ## The sheet -/

/-- The sheet of a grid system. -/
def build (s : Grid) : Sheet :=
  let markers := markers s
  let v := Variables.collect s markers
  [.comment "Unit", .verbatim emFunction, .blank, .verbatim remFunction, .blank]
  ++ .comment "Media Query" :: markers.map Marker.node
  ++ .blank :: .comment "Grid" :: v.all.map Variable.node
  ++ [.blank, .comment "Base", rootRule v, .blank,
    .comment "Component", containerRule v, .blank, rowRule v, .blank, colRule v, .blank]
  ++ separated (fractionLoops v "s" "width")
  ++ .blank :: separated (fractionLoops v "o" "margin-left")
  ++ [.blank]

/-- The text of the sheet of a grid system.  Equal contents have equal texts. -/
def generate (s : Grid) : String := String.ofList (Sheet.render (build s))

end ResponsiveGrid.Stylesheet
