import RadioLink.Args.Parse
import RadioLink.Args.Help
/-! A program with subcommands. Its top level holds the options every subcommand shares, the
help and the version switch; a subcommand is required. The built-in subcommand `help` shows the
help of the program or of the subcommand it names. A command line with no argument at all
shows the program's help in place of a mistake. -/
namespace RadioLink
namespace Args

/-- A program: its name and version, its top level and its subcommands. -/
structure Program where
  name : String
  version : String
  top : Command
  commands : List Command
  deriving Repr, Inhabited

def helpAbout : String := "Print this message or the help of the given subcommand(s)"

/-- A command line that was read: the top level's findings, the subcommand and its findings. -/
structure Parsed where
  top : List Found
  command : String
  sub : List Found
  deriving Repr, Inhabited

namespace Program

def helpCommand (p : Program) : Command :=
  { path := p.name ++ " help", name := "help", about := helpAbout,
    args := [{ id := "subcommand", positional := true, takes := .many, valueName := "COMMAND",
               help := "Print help for the subcommand(s)" }] }

def command? (p : Program) (name : String) : Option Command :=
  if name == "help" then some p.helpCommand else p.commands.find? (·.name == name)

def versionLine (p : Program) : String := p.name ++ " " ++ p.version

/-- What `help` followed by `words` shows: the help they lead to, or a mistake at an unknown word. -/
def helpFor (p : Program) : List String → Stop
  | [] => .help p.top false
  | w :: ws =>
    match p.command? w with
    | none => .fail (.unrecognized w [] p.top.usage)
    | some c =>
      match ws with
      | [] => .help c false
      | v :: _ => .fail (.unrecognized v [] c.usage)

/-- Reads a command line; the subcommand's words are checked before the rest of the top level. -/
def parse (p : Program) (words : List String) : Except Stop Parsed := do
  let (s, next) ← Level.scan { cmd := p.top, below := p.commands } {} words
  match next with
  | some (name, rest) =>
    match p.command? name with
    | some c =>
      if name == "help" then throw (p.helpFor rest)
      else
        let sub ← c.parse rest
        let s := (← resolve p.top s).withDefaults p.top
        pure { top := s.found, command := name, sub }
    | none => throw (.fail (.unrecognized name [] p.top.usage))
  | none =>
    let s := (← resolve p.top s).withDefaults p.top
    if s.givenIds.isEmpty then throw (.help p.top true)
    else throw (.fail (.noSubcommand p.name (p.top.subcommands.map (·.1)) p.top.usage))

end Program

/-- The value found for an argument, the last one when there are several. -/
def valueOf? (found : List Found) (id : String) : Option Value :=
  (found.find? (·.id == id)).bind (·.values.getLast?)

def textOf? (found : List Found) (id : String) : Option String :=
  match valueOf? found id with
  | some (.text s) => some s
  | _ => none

def textsOf? (found : List Found) (id : String) : Option (List String) :=
  (found.find? (·.id == id)).map fun f => f.values.filterMap fun
    | .text s => some s
    | _ => none

def numberOf? (found : List Found) (id : String) : Option Nat :=
  match valueOf? found id with
  | some (.number n) => some n
  | _ => none

def isOn (found : List Found) (id : String) : Bool :=
  found.any fun f => f.id == id && f.given

def givenText? (found : List Found) (id : String) : Option String :=
  if isOn found id then textOf? found id else none

end Args
end RadioLink
