import RadioLink.Link.Peer
import RadioLink.Duration
import RadioLink.Args.Value
/-! The machine the tool runs on, as far as the tool can see it. One serial port, or one TCP
address of a serial bridge, may lead to a scripted radio; a few paths are devices that are no
terminal, or directories; every other path is missing. Beyond the radio's bridge the machine
has no network: a TCP connection to any other well-formed address fails as unreachable. A run
that lasts until the time limit is stopped there. -/
namespace RadioLink
namespace Cli

/-- A scripted radio behind a serial port: after `delay` it writes its unsolicited frames, then
answers the i-th request it reads with the i-th list of replies. -/
structure Device where
  replies : List (List Reply) := []
  unsolicited : List Reply := []
  delay : Duration := Duration.ofMillis 150
  deriving Repr, Inhabited

/-- The machine the tool runs on. -/
structure Host where
  radioPort : Option String := none
  radioAddress : Option String := none
  device : Device := {}
  /-- How long a run may last before it is stopped. -/
  limit : Duration := Duration.ofSecs 10
  epoch : Nat := 0
  deriving Repr, Inhabited

inductive OpenError where
  | notFound
  | notTerminal
  | directory
  deriving DecidableEq, Repr, Inhabited

namespace OpenError

def message : OpenError → String
  | .notFound => "No such file or directory"
  | .notTerminal => "Not a typewriter"
  | .directory => "Is a directory"

def kindText : OpenError → String
  | .notFound => "Io(NotFound)"
  | _ => "Unknown"

def debugText (e : OpenError) : String :=
  "Error \x7b kind: " ++ e.kindText ++ ", description: " ++ Text.quoted e.message ++ " \x7d"

end OpenError

inductive ConnectError where
  | unreachable
  | badAddress
  | badPort
  deriving DecidableEq, Repr, Inhabited

def ConnectError.message : ConnectError → String
  | .unreachable => "Network is unreachable (os error 101)"
  | .badAddress => "invalid socket address"
  | .badPort => "invalid port value"

def plainDevices : List String := ["/dev/null", "/dev/zero", "/dev/full", "/dev/random", "/dev/urandom"]

def standardDirectories : List String := ["/", "/dev", "/tmp", "/etc", "/root", "/proc", "/sys"]

namespace Host

/-- Opens a serial port: the radio's port opens, other paths fail by what they are. -/
def openPort (h : Host) (path : String) : Except OpenError Unit :=
  if h.radioPort == some path then .ok ()
  else if plainDevices.contains path then .error .notTerminal
  else if standardDirectories.contains path then .error .directory
  else .error .notFound

def connectError (addr : String) : ConnectError :=
  match (addr.splitOn ":").getLast? with
  | some port =>
    if (addr.splitOn ":").length < 2 then .badAddress
    else
      match Args.readUnsigned 65535 port with
      | .ok _ => .unreachable
      | .error _ => .badPort
  | none => .badAddress

/-- Connects to `host:port`: the radio's bridge answers, and any other connection fails. -/
def connect (h : Host) (addr : String) : Except ConnectError Unit :=
  if h.radioAddress = some addr then .ok () else .error (connectError addr)

end Host

end Cli
end RadioLink
