import ResponsiveGrid.Decimal.Reading
import ResponsiveGrid.Word
set_option autoImplicit false

/-!
# Command: the grammar of command lines

A command line is read word by word against a `Level`: the flags, options and
positional arguments of a command, and its subcommands, each a level of its own.  The
value of an option or a position is checked when the next word is read, so that of two
problems the one that is met first in this order decides.  Whatever is wrong ends the
reading in the same way; asking for help or for the version ends it, too.
-/

namespace ResponsiveGrid.Command

/-! ## Kinds of values -/

/-- Reads a natural number of thirty-two bits, with an optional sign. -/
def natural32? (word : String) : Option Nat :=
  match Decimal.wholeOf? word.toList with
  | some n => if 0 ≤ n ∧ n ≤ largest32 then some n.toNat else none
  | none => none

/-- Reads a position in a list. -/
def index? (word : String) : Option Nat :=
  match Decimal.countOf? word.toList with
  | some n => if n ≤ largest64 then some n else none
  | none => none

/-- What the value of an option or a position has to be. -/
inductive ValueKind where
  /-- any text -/
  | text
  /-- any text but the empty one -/
  | path
  | natural32
  | index
  /-- one of the listed words -/
  | choice (words : List String)
  deriving DecidableEq, Repr, Inhabited

/-- Whether a word is a value of a kind. -/
def ValueKind.accepts : ValueKind → String → Bool
  | .text, _ => true
  | .path, word => word ≠ ""
  | .natural32, word => (natural32? word).isSome
  | .index, word => (index? word).isSome
  | .choice words, word => words.contains word

/-! ## Levels -/

/-- What may stand behind the name of a command. -/
inductive Level where
  | mk (flags : List String) (options : List (String × ValueKind))
      (positions : List ValueKind) (exclusive : List (String × String)) (versioned : Bool)
      (children : List (String × Level))
  deriving Inhabited

namespace Level

/-- The names of the options that take no value. -/
def flags : Level → List String
  | mk flags _ _ _ _ _ => flags

/-- The options that take a value. -/
def options : Level → List (String × ValueKind)
  | mk _ options _ _ _ _ => options

/-- The positional arguments, all of them required. -/
def positions : Level → List ValueKind
  | mk _ _ positions _ _ _ => positions

/-- Pairs of options of which only one may be given. -/
def exclusive : Level → List (String × String)
  | mk _ _ _ exclusive _ _ => exclusive

/-- Whether the version can be asked for. -/
def versioned : Level → Bool
  | mk _ _ _ _ versioned _ => versioned

/-- The subcommands; where there are any, one of them is required. -/
def children : Level → List (String × Level)
  | mk _ _ _ _ _ children => children

/-- The subcommand of a name. -/
def child? (level : Level) (name : String) : Option Level :=
  (level.children.find? fun c => c.1 == name).map Prod.snd

/-- The kind of the value of an option. -/
def option? (level : Level) (name : String) : Option ValueKind :=
  (level.options.find? fun o => o.1 == name).map Prod.snd

end Level

/-! ## Matches -/

/-- What was given for a command: the values of options and positions, the flags, and
the same for the subcommand. -/
inductive Matches where
  | mk (options : List (String × String)) (flags : List String) (positions : List String)
      (child : Option (String × Matches))
  deriving Inhabited

namespace Matches

/-- The value of an option. -/
def option? : Matches → String → Option String
  | mk options _ _ _, name => (options.find? fun o => o.1 == name).map Prod.snd

/-- Whether a flag was given. -/
def flag : Matches → String → Bool
  | mk _ flags _ _, name => flags.contains name

/-- The values of the positions. -/
def positions : Matches → List String
  | mk _ _ positions _ => positions

/-- The subcommand and what was given for it. -/
def child? : Matches → Option (String × Matches)
  | mk _ _ _ child => child

/-- The value of an option that may be given at every level; the innermost counts. -/
def innermost? (name : String) : Matches → Option String
  | mk options _ _ none => (options.find? fun o => o.1 == name).map Prod.snd
  | mk options _ _ (some (_, inner)) =>
      match innermost? name inner with
      | some value => some value
      | none => (options.find? fun o => o.1 == name).map Prod.snd

end Matches

/-- Why the reading of a command line ended without a command. -/
inductive Stop where
  | help
  | version
  /-- the words are no command line -/
  | usage
  deriving DecidableEq, Repr, Inhabited

/-! ## Reading -/

/-- A value that has not been checked yet. -/
inductive Pending where
  /-- of an option; none until the next word has been read -/
  | option (name : String) (value : Option String)
  | position (value : String)
  deriving DecidableEq, Repr, Inhabited

/-- What has been read at a level. -/
structure Progress where
  options : List (String × String) := []
  flags : List String := []
  positions : List String := []
  pending : Option Pending := none
  /-- whether all words that follow are positional -/
  trailing : Bool := false
  deriving Inhabited

namespace Progress

/-- Whether the next word is the value of an option. -/
def awaits (p : Progress) : Option String :=
  match p.pending with
  | some (.option name none) => some name
  | _ => none

/-- Adds the value of an option, which may be given once. -/
def addOption (level : Level) (p : Progress) (name value : String) : Except Stop Progress :=
  if p.options.any fun o => o.1 == name then .error .usage
  else
    match level.option? name with
    | none => .error .usage
    | some kind =>
        if kind.accepts value then .ok { p with options := p.options ++ [(name, value)] }
        else .error .usage

/-- Adds the value of the next position. -/
def addPosition (level : Level) (p : Progress) (value : String) : Except Stop Progress :=
  match level.positions[p.positions.length]? with
  | none => .error .usage
  | some kind =>
      if kind.accepts value then .ok { p with positions := p.positions ++ [value] }
      else .error .usage

/-- Adds a flag, which may be given once. -/
def addFlag (p : Progress) (name : String) : Except Stop Progress :=
  if p.flags.contains name then .error .usage
  else .ok { p with flags := p.flags ++ [name] }

/-- Checks and adds the value that is pending. -/
def settle (level : Level) (p : Progress) : Except Stop Progress :=
  match p.pending with
  | none => .ok p
  | some (.option _ none) => .error .usage
  | some (.option name (some value)) => addOption level { p with pending := none } name value
  | some (.position value) => addPosition level { p with pending := none } value

/-- Checks what is pending and ends the reading. -/
def settleAnd {α : Type} (level : Level) (p : Progress) (stop : Stop) : Except Stop α :=
  match p.settle level with
  | .ok _ => .error stop
  | .error stop => .error stop

end Progress

/-- Reads a word that begins with two dashes: the name of a flag or an option, and the
value that an equals sign attaches. -/
def readLong (level : Level) (p : Progress) (name : String) (attached : Option String) :
    Except Stop Progress :=
  match level.option? name, attached with
  | some _, some value =>
      match p.settle level with
      | .ok p => p.addOption level name value
      | .error stop => .error stop
  | some _, none =>
      match p.settle level with
      | .ok p => .ok { p with pending := some (.option name none) }
      | .error stop => .error stop
  | none, some _ => .error .usage
  | none, none =>
      if name = "help" then p.settleAnd level .help
      else if level.versioned ∧ name = "version" then p.settleAnd level .version
      else if level.flags.contains name then
        match p.settle level with
        | .ok p => p.addFlag name
        | .error stop => .error stop
      else .error .usage

/-- Reads a word that begins with one dash; only the first letter behind it counts. -/
def readShort (level : Level) (p : Progress) (letter : Char) : Except Stop Progress :=
  if letter = 'h' then p.settleAnd level .help
  else if level.versioned ∧ letter = 'V' then p.settleAnd level .version
  else .error .usage

/-- Reads a word as the value of the next position. -/
def readPosition (level : Level) (p : Progress) (word : String) : Except Stop Progress :=
  match p.settle level with
  | .error stop => .error stop
  | .ok p =>
      if p.positions.length < level.positions.length then
        .ok { p with pending := some (.position word) }
      else .error .usage

/-- Reads a word as the value that an option awaits, or else as that of a position. -/
def readValue (level : Level) (p : Progress) (word : String) : Except Stop Progress :=
  match p.awaits with
  | some name => .ok { p with pending := some (.option name (some word)) }
  | none => readPosition level p word

/-- Reads a word that is no subcommand. -/
def readWord (level : Level) (p : Progress) (word : String) : Except Stop Progress :=
  if p.trailing then readPosition level p word
  else
    match word.toList with
    | ['-', '-'] => .ok { p with trailing := true }
    | '-' :: '-' :: text =>
        let name := String.ofList (text.takeWhile (· ≠ '='))
        match text.dropWhile (· ≠ '=') with
        | [] => readLong level p name none
        | _ :: value => readLong level p name (some (String.ofList value))
    | '-' :: letter :: _ => readShort level p letter
    | _ => readValue level p word

/-- Reads the words behind the `help` subcommand, which name a command. -/
def readHelp (level : Level) : List String → Stop
  | [] => .help
  | word :: rest =>
      match level.child? word with
      | some child => readHelp child rest
      | none => if word = "help" ∧ level.children ≠ [] ∧ rest = [] then .help else .usage

/-- The matches of a level whose words have all been read. -/
def conclude (level : Level) (p : Progress) (child : Option (String × Matches)) :
    Except Stop Matches :=
  match p.settle level with
  | .error stop => .error stop
  | .ok p =>
      let given := fun name => p.options.any fun o => o.1 == name
      if level.children ≠ [] ∧ child.isNone then .error .usage
      else if level.exclusive.any fun (a, b) => given a && given b then .error .usage
      else if p.positions.length < level.positions.length then .error .usage
      else .ok (.mk p.options p.flags p.positions child)

/-- Reads the words of a level from some progress on. -/
def readFrom : Level → Progress → List String → Except Stop Matches
  | level, p, [] => conclude level p none
  | level, p, word :: rest =>
      let child := if p.trailing ∨ p.awaits.isSome then none else level.child? word
      match child with
      | some inner =>
          match readFrom inner {} rest with
          | .ok m => conclude level p (some (word, m))
          | .error stop => .error stop
      | none =>
          if ¬ p.trailing ∧ p.awaits = none ∧ word = "help" ∧ level.children ≠ [] then
            .error (readHelp level rest)
          else
            match readWord level p word with
            | .ok p => readFrom level p rest
            | .error stop => .error stop

/-- Reads a command line. -/
def readLine (level : Level) (words : List String) : Except Stop Matches :=
  readFrom level {} words

end ResponsiveGrid.Command
