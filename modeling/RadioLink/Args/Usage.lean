import RadioLink.Args.Grammar
/-! Usage lines. The full usage line of a command shows `[OPTIONS]` when it has options that
are neither required nor in a required group, then its required options, its required groups
and all its positional arguments. The usage line shown with a mistake names instead the
required arguments and the arguments that were used, so it reads like the command line that
was meant. -/
namespace RadioLink
namespace Args

def dedup (xs : List String) : List String :=
  xs.foldl (fun acc x => if acc.contains x then acc else acc ++ [x]) []

namespace Command

def needsOptionsTag (c : Command) : Bool :=
  c.args.any fun a =>
    !a.positional && a.long != some "help" && a.long != some "version" && !a.required &&
      (c.groupsOf a.id).isEmpty

/-- The argument part of a usage line: loose options, the named groups and every positional. -/
def usageArgs (c : Command) (extra : List String) : List String :=
  let named := c.required ++ extra
  let groups := dedup (named.filter fun id => (c.group? id).isSome)
  let members := groups.flatMap fun g => ((c.group? g).map (·.members)).getD []
  let opts := dedup (named.filterMap fun id => (c.find? id).bind fun a =>
    if a.positional || members.contains a.id then none else some a.spec)
  let pos := c.positionals.filterMap fun a =>
    if members.contains a.id then none else some (a.placeholder (named.contains a.id))
  opts ++ groups.filterMap (fun g => (c.group? g).map c.groupSpec) ++ pos

def line (c : Command) (tag : Bool) (parts : List String) : String :=
  " ".intercalate ((c.path :: (if tag then ["[OPTIONS]"] else [])) ++ parts ++
    (if c.subcommands.isEmpty then [] else ["<COMMAND>"]))

def usage (c : Command) : String := c.line c.needsOptionsTag (c.usageArgs [])

/-- The usage line after a mistake, from the arguments that were used; with none, the full one. -/
def usageWith (c : Command) (used : List String) : String :=
  if used.isEmpty then c.usage else c.line false (c.usageArgs used)

/-- How missing arguments are listed: options, then groups with no member given, then positionals. -/
def missingItems (c : Command) (given : String → Bool) (missing : List String) : List String :=
  let named := c.required ++ missing
  let groups := dedup (named.filter fun id =>
    match c.group? id with
    | some g => !g.members.any given
    | none => false)
  let members := groups.flatMap fun g => ((c.group? g).map (·.members)).getD []
  let unmet := fun (a : Arg) => !members.contains a.id && !given a.id
  let opts := dedup (named.filterMap fun id => (c.find? id).bind fun a =>
    if !a.positional && unmet a then some a.spec else none)
  let pos := c.positionals.filterMap fun a =>
    if named.contains a.id && unmet a then some (a.placeholder true) else none
  opts ++ groups.filterMap (fun g => (c.group? g).map c.groupSpec) ++ pos

end Command

end Args
end RadioLink
