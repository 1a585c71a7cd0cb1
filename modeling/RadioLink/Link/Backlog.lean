import RadioLink.Response.Frame
/-! The backlog: a bounded queue of received responses, oldest first. When it is full the
oldest response makes room for the newest. Once the link is gone the backlog is closed: it
still hands out what it holds, but waiting on it ends at once. -/
namespace RadioLink

/-- A bounded queue of responses, oldest first. -/
structure Backlog where
  capacity : Nat
  frames : List Response := []
  closed : Bool := false
  capacity_pos : 0 < capacity
  deriving Repr

namespace Backlog

/-- An empty backlog of the given capacity; a capacity of zero is raised to one. -/
def new (capacity : Nat) : Backlog :=
  { capacity := max capacity 1, capacity_pos := Nat.lt_of_lt_of_le Nat.one_pos (Nat.le_max_right _ _) }

def size (b : Backlog) : Nat := b.frames.length

def isEmpty (b : Backlog) : Bool := b.frames.isEmpty

/-- Adds a response at the back; a full backlog evicts and returns its oldest. -/
def push (b : Backlog) (f : Response) : Option Response × Backlog :=
  if b.frames.length ≥ b.capacity then
    (b.frames.head?, { b with frames := b.frames.tail ++ [f] })
  else (none, { b with frames := b.frames ++ [f] })

def pop (b : Backlog) : Option Response × Backlog :=
  match b.frames with
  | [] => (none, b)
  | f :: rest => (some f, { b with frames := rest })

def clear (b : Backlog) : Nat × Backlog := (b.frames.length, { b with frames := [] })

/-- Takes responses up to the first that `stop` accepts; the flag says whether one did. -/
def takeUntil (stop : Response → Bool) : List Response → List Response × List Response × Bool
  | [] => ([], [], false)
  | f :: rest =>
    if stop f then ([f], rest, true)
    else
      let (taken, left, hit) := takeUntil stop rest
      (f :: taken, left, hit)

/-- Takes what is held up to the first response `stop` accepts; the flag says whether one did. -/
def collect (b : Backlog) (stop : Response → Bool) : List Response × Backlog × Bool :=
  let (taken, left, hit) := takeUntil stop b.frames
  (taken, { b with frames := left }, hit)

/-- The backlog closed: nothing will be added any more. -/
def close (b : Backlog) : Backlog := { b with closed := true }

def debugText (b : Backlog) : String :=
  "Backlog \x7b capacity: " ++ toString b.capacity ++ ", len: " ++ toString b.size ++ " \x7d"

end Backlog

end RadioLink
