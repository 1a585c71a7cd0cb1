import RadioLink.Args.Program
/-! The command line of the radio tool. Every subcommand that talks to a radio names it by a
serial port or by a TCP bridge, exactly one of the two; the output format and the logging
options may stand before or after the subcommand, the later one winning. -/
namespace RadioLink
namespace Cli

open Args

/-- How results are printed. -/
inductive Format where
  | json | table | pretty
  deriving DecidableEq, Repr, Inhabited

def Format.ofName? : String → Option Format
  | "json" => some .json
  | "table" => some .table
  | "pretty" => some .pretty
  | _ => none

/-- Where the radio is attached and how long to wait for it, as given. -/
structure LinkOptions where
  port : Option String
  baud : Nat
  tcp : Option String
  timeout : String
  deriving DecidableEq, Repr, Inhabited

structure ValueOptions where
  hex : Option String
  text : Option String
  deriving DecidableEq, Repr, Inhabited

/-- What the command line asks for. -/
inductive Invocation where
  | listen (link : LinkOptions) (frameTypes : Option (List String)) (count : Option Nat)
  | localAt (link : LinkOptions) (command : AtCommand) (value : ValueOptions) (queued : Bool)
  | remoteAt (link : LinkOptions) (address : Address64) (command : AtCommand)
      (value : ValueOptions) (noApply : Bool)
  | discover (link : LinkOptions) (wait : Option String)
  | version (extended : Bool)
  deriving Repr, Inhabited

structure CommandLine where
  format : Option Format
  invocation : Invocation
  deriving Repr, Inhabited

def sharedArgs : List Arg :=
  [{ id := "format", long := some "format", valueName := "FORMAT", help := "Output format",
     kind := .choice ["json", "table", "pretty"], order := 0 },
   { id := "log_format", long := some "log-format", valueName := "FORMAT",
     help := "Log output format (stderr)", kind := .choice ["text", "json"], default := some "text",
     order := 1 },
   { id := "log_level", long := some "log-level", valueName := "LEVEL",
     help := "Minimum log level (stderr)",
     kind := .choice ["off", "error", "warn", "info", "debug", "trace"], default := some "info",
     order := 2 }]

def helpArg : Arg :=
  { id := "help", long := some "help", short := some 'h', takes := .help, help := "Print help" }

def versionArg : Arg :=
  { id := "version", long := some "version", short := some 'V', takes := .version,
    help := "Print version" }

def linkArgs : List Arg :=
  [{ id := "port", long := some "port", short := some 'p', valueName := "PORT", order := 0,
     help := "Serial port the radio is attached to (e.g. /dev/ttyUSB0)" },
   { id := "baud", long := some "baud", short := some 'b', valueName := "BAUD", order := 1,
     help := "Serial line speed", kind := .ranged (Nat.pow 2 32 - 1), default := some "9600" },
   { id := "tcp", long := some "tcp", valueName := "TCP", order := 2, conflicts := ["port"],
     help := "TCP serial bridge instead of a local port (e.g. 192.168.1.20:2000)" },
   { id := "timeout", long := some "timeout", valueName := "TIMEOUT", order := 3,
     help := "Response timeout (e.g. 5s, 500ms)", default := some "5s" }]

def valueArgs : List Arg :=
  [{ id := "value", long := some "value", valueName := "VALUE", order := 4, conflicts := ["text"],
     help := "Value as hex bytes (e.g. 0x1A46, \"1a 46\", 3)" },
   { id := "text", long := some "text", valueName := "TEXT", order := 5,
     help := "Value as ASCII text (for NI)" }]

def subcommand (name about : String) (own : List Arg) (linked : Bool) : Command :=
  { path := "xbeelink " ++ name, name, about, args := own ++ sharedArgs ++ [helpArg],
    groups := if linked then [{ id := "link", members := ["port", "tcp"] }] else [] }

def commands : List Command :=
  [subcommand "listen" "Print every frame the radio sends until interrupted"
    (linkArgs ++
      [{ id := "frame_types", long := some "frame-types", valueName := "FRAME_TYPES", order := 4,
         takes := .each ',', help := "Only print these frame types (comma-separated hex, e.g. 0x92,0x95)" },
       { id := "count", long := some "count", valueName := "COUNT", order := 5, kind := .count,
         help := "Exit after printing N frames" }]) true,
   subcommand "at" "Query or set a parameter on the attached radio"
    (linkArgs ++
      [{ id := "command", positional := true, valueName := "COMMAND", kind := .command,
         required := true, help := "Two-letter command (e.g. HV, NI, D0)" }] ++ valueArgs ++
      [{ id := "queued", long := some "queued", takes := .flag, order := 6,
         help := "Queue the change until AC or WR instead of applying it" }]) true,
   subcommand "remote-at" "Query or set a parameter on another radio in the network"
    (linkArgs ++
      [{ id := "address", positional := true, valueName := "ADDRESS", kind := .address,
         required := true, help := "64-bit address of the target radio (e.g. 0013A200.4062AC98)" },
       { id := "command", positional := true, valueName := "COMMAND", kind := .command,
         required := true, help := "Two-letter command (e.g. D0)" }] ++ valueArgs ++
      [{ id := "no_apply", long := some "no-apply", takes := .flag, order := 6,
         help := "Leave the change pending on the remote radio" }]) true,
   subcommand "discover" "List the nodes that answer a network discovery"
    (linkArgs ++
      [{ id := "wait", long := some "wait", valueName := "WAIT", order := 4,
         help := "How long to collect answers. Default: the radio's NT setting" }]) true,
   subcommand "version" "Show version information"
    [{ id := "extended", long := some "extended", takes := .flag, order := 0,
       help := "Show extended build provenance" }] false]

/-- The program's grammar. -/
def program : Program :=
  { name := "xbeelink", version := "0.1.0", commands,
    top := { path := "xbeelink", name := "xbeelink", about := "XBee API-mode radio CLI",
             args := sharedArgs ++ [helpArg, versionArg],
             subcommands := commands.map (fun c => (c.name, c.about)) ++ [("help", helpAbout)] } }

def linkOf (found : List Found) : LinkOptions :=
  { port := textOf? found "port", baud := (numberOf? found "baud").getD 9600,
    tcp := textOf? found "tcp", timeout := (textOf? found "timeout").getD "5s" }

def valueOf (found : List Found) : ValueOptions :=
  { hex := textOf? found "value", text := textOf? found "text" }

def commandOf (found : List Found) : AtCommand :=
  match valueOf? found "command" with
  | some (.command c) => c
  | _ => default

def addressOf (found : List Found) : Address64 :=
  match valueOf? found "address" with
  | some (.address a) => a
  | _ => default

/-- What a command line that was read asks for. -/
def CommandLine.ofParsed (p : Parsed) : CommandLine :=
  let format := ((givenText? p.sub "format").orElse fun _ => givenText? p.top "format").bind
    Format.ofName?
  let s := p.sub
  let invocation := match p.command with
    | "listen" => .listen (linkOf s) (textsOf? s "frame_types") (numberOf? s "count")
    | "at" => .localAt (linkOf s) (commandOf s) (valueOf s) (isOn s "queued")
    | "remote-at" => .remoteAt (linkOf s) (addressOf s) (commandOf s) (valueOf s) (isOn s "no_apply")
    | "discover" => .discover (linkOf s) (textOf? s "wait")
    | _ => .version (isOn s "extended")
  { format, invocation }

end Cli
end RadioLink
