import RadioLink.Frame.Error
/-! Exit statuses of the command-line tool and the error it reports: a status and a message.
Each kind of failure maps to one status; the message is a context followed by the cause. -/
namespace RadioLink
namespace Cli

def exitSuccess : Nat := 0
def exitFailure : Nat := 1
def exitTransport : Nat := 3
def exitPermission : Nat := 50
def exitDataInvalid : Nat := 60
def exitUsage : Nat := 64
def exitTimeout : Nat := 124
def exitInternal : Nat := 125

/-- A failure of the tool: the status to exit with and the message to show. -/
structure Failure where
  code : Nat
  message : String
  deriving DecidableEq, Repr, Inhabited

def Failure.usage (message : String) : Failure := ⟨exitUsage, message⟩

def ioStatus : Frame.IoKind → Nat
  | .permissionDenied => exitPermission
  | .timedOut | .wouldBlock => exitTimeout
  | .notFound | .connectionRefused | .connectionReset | .brokenPipe => exitTransport
  | _ => exitInternal

def frameStatus : Frame.FrameError → Nat
  | .stream kind => ioStatus kind
  | .tooLarge .. => exitDataInvalid
  | .closed => exitTransport
  | _ => exitDataInvalid

def Failure.ofFrame (context : String) (e : Frame.FrameError) : Failure :=
  match e with
  | .stream kind => ⟨frameStatus e, context ++ ": " ++ kind.describe⟩
  | _ => ⟨frameStatus e, context ++ ": " ++ e.message⟩

end Cli
end RadioLink
