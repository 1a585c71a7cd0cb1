import RadioLink.AtCommand
import RadioLink.Address
/-! The grammar of a command line: options named by a long and maybe a short name, switches
that take no value, positional arguments matched by place, groups of arguments of which
exactly one must be given, and subcommands, each with a grammar of its own. The texts that
name an argument in messages are defined here: an option is named by its long name and value
placeholder (`--port <PORT>`), a positional argument by its placeholder (`<COMMAND>`). -/
namespace RadioLink
namespace Args

/-- How an argument takes values. -/
inductive Takes where
  | flag
  | single
  | each (delimiter : Char)
  | many
  | help
  | version
  deriving DecidableEq, Repr, Inhabited

/-- What a value must look like. -/
inductive ValueKind where
  | text
  | choice (names : List String)
  | ranged (max : Nat)
  | count
  | command
  | address
  deriving DecidableEq, Repr, Inhabited

inductive Value where
  | text (s : String)
  | number (n : Nat)
  | command (c : AtCommand)
  | address (a : Address64)
  | on
  deriving DecidableEq, Repr, Inhabited

/-- One argument of a command. -/
structure Arg where
  id : String
  long : Option String := none
  short : Option Char := none
  valueName : String := ""
  positional : Bool := false
  takes : Takes := .single
  kind : ValueKind := .text
  help : String := ""
  default : Option String := none
  required : Bool := false
  conflicts : List String := []
  order : Nat := 999
  deriving Repr, Inhabited

/-- Arguments of which exactly one must be given. -/
structure Group where
  id : String
  members : List String
  deriving DecidableEq, Repr, Inhabited

/-- A command: how usage lines call it, what it does, and its arguments in matching order. -/
structure Command where
  path : String
  name : String
  about : String
  args : List Arg
  groups : List Group := []
  subcommands : List (String × String) := []
  deriving Repr, Inhabited

namespace Arg

def takesValue (a : Arg) : Bool :=
  match a.takes with
  | .single | .each _ | .many => true
  | _ => false

def placeholder (a : Arg) (required : Bool) : String :=
  let base := if required && a.takes != .many then "<" ++ a.valueName ++ ">"
    else "[" ++ a.valueName ++ "]"
  if a.takes == .many then base ++ "..." else base

/-- How messages name an argument: `--long <VALUE>`, `-s <VALUE>`, or its placeholder. -/
def spec (a : Arg) : String :=
  if a.positional then a.placeholder a.required
  else
    let name := match a.long, a.short with
      | some l, _ => "--" ++ l
      | none, some s => "-" ++ s.toString
      | none, none => ""
    if a.takesValue then name ++ " <" ++ a.valueName ++ ">" else name

/-- The left column of an argument's help line: its short name, long name and placeholder. -/
def helpSpec (a : Arg) : String :=
  if a.positional then a.spec
  else
    let short := match a.short with
      | some s => "-" ++ s.toString
      | none => if a.long.isSome then "    " else ""
    let long := match a.long with
      | some l => (if a.short.isSome then ", " else "") ++ "--" ++ l
      | none => ""
    short ++ long ++ (if a.takesValue then " <" ++ a.valueName ++ ">" else "")

def choices (a : Arg) : List String :=
  match a.kind with
  | .choice names => names
  | _ => []

end Arg

namespace Command

def find? (c : Command) (id : String) : Option Arg := c.args.find? (·.id == id)

def group? (c : Command) (id : String) : Option Group := c.groups.find? (·.id == id)

def findLong? (c : Command) (name : String) : Option Arg :=
  c.args.find? fun a => !a.positional && a.long == some name

def findShort? (c : Command) (ch : Char) : Option Arg :=
  c.args.find? fun a => !a.positional && a.short == some ch

def positionals (c : Command) : List Arg := c.args.filter (·.positional)

def positionalAt? (c : Command) (place : Nat) : Option Arg := c.positionals[place - 1]?

def hasPositionals (c : Command) : Bool := c.args.any (·.positional)

def longNames (c : Command) : List String := c.args.filterMap fun a =>
  if a.positional then none else a.long

def groupsOf (c : Command) (id : String) : List Group := c.groups.filter (·.members.contains id)

def conflictsOf (c : Command) (id : String) : List String :=
  let own := ((c.find? id).map (·.conflicts)).getD []
  own ++ (c.groupsOf id).flatMap fun g => g.members.filter (· != id)

def required (c : Command) : List String :=
  (c.args.filter (·.required)).map (·.id) ++ c.groups.map (·.id)

def groupSpec (c : Command) (g : Group) : String :=
  let names := g.members.filterMap fun m => (c.find? m).map fun a =>
    if a.positional then a.valueName else a.spec
  "<" ++ "|".intercalate names ++ ">"

end Command

end Args
end RadioLink
