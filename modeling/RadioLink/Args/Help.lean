import RadioLink.Args.Usage
/-! The help of a command: what it does, its usage line, then its subcommands, positional
arguments and options, each section under a heading. In a section every description starts in
one column, two spaces after the longest entry; options are listed by rank, then by short
name (lowercase before uppercase), then by long name. Defaults and choices follow the
description in brackets. -/
namespace RadioLink
namespace Args

def Arg.sortKey (a : Arg) : String :=
  match a.short, a.long with
  | some s, _ => s.toLower.toString ++ (if s.isLower then "0" else "1")
  | none, some l => l
  | none, none => "\x7b" ++ a.id

def Arg.listedBefore (a b : Arg) : Bool :=
  a.order < b.order || (a.order == b.order && a.sortKey ≤ b.sortKey)

def Arg.notes (a : Arg) : List String :=
  let default := match a.default with
    | some d => ["[default: " ++ (if d.any Text.isBlank then Text.quoted d else d) ++ "]"]
    | none => []
  let choices := a.choices
  default ++ (if choices.isEmpty then [] else ["[possible values: " ++ ", ".intercalate choices ++ "]"])

def Arg.describe (a : Arg) : String :=
  " ".intercalate ((if a.help.isEmpty then [] else [a.help]) ++ a.notes)

def column (entries : List (String × String)) : List String :=
  let width := entries.foldl (fun w e => max w e.1.length) 2
  entries.map fun (left, text) =>
    "  " ++ left ++ String.ofList (List.replicate (width + 2 - left.length) ' ') ++ text

def helpSection (heading : String) (entries : List (String × String)) : List (List String) :=
  if entries.isEmpty then [] else [(heading ++ ":") :: column entries]

namespace Command

def listedOptions (c : Command) : List Arg :=
  (c.args.filter (!·.positional)).mergeSort Arg.listedBefore

/-- The help text, line by line. -/
def help (c : Command) : List String :=
  let sections :=
    helpSection "Commands" c.subcommands ++
    helpSection "Arguments" (c.positionals.map fun a => (a.helpSpec, a.describe)) ++
    helpSection "Options" (c.listedOptions.map fun a => (a.helpSpec, a.describe))
  [c.about, "", "Usage: " ++ c.usage] ++
    (sections.foldl (fun acc s => acc ++ [""] ++ s) [])

end Command

end Args
end RadioLink
