import RadioLink.Link.Config
/-! The table of synchronous waits. Each wait is registered under the frame identifier its
response will carry, with a token handed out from a counter, so that two waits on the same
identifier at different times are told apart. The reader takes a wait off the table when a
frame with its identifier arrives; a caller drops its own registration when it returns, but
only while the entry still carries its token; closing the link releases every wait. -/
namespace RadioLink

/-- A registration of one wait: its frame identifier and the token that tells it from later ones. -/
structure Guard where
  id : FrameId
  token : Nat
  deriving DecidableEq, Repr, Inhabited

structure PendingTable where
  entries : List Guard := []
  nextToken : Nat := 0
  deriving Repr, Inhabited

namespace PendingTable

def tokenOf (t : PendingTable) (id : FrameId) : Option Nat :=
  (t.entries.find? (·.id == id)).map (·.token)

def size (t : PendingTable) : Nat := t.entries.length

/-- Registers a wait on `id` under the next token; refused on a down link or a taken `id`. -/
def register (t : PendingTable) (connected : Bool) (id : FrameId) :
    Except RadioError (Guard × PendingTable) :=
  if !connected then .error .notConnected
  else if (t.tokenOf id).isSome then .error (.frameIdInUse id)
  else
    let g : Guard := ⟨id, t.nextToken⟩
    .ok (g, { entries := t.entries ++ [g], nextToken := t.nextToken + 1 })

/-- Takes the wait on `id` off the table, for the frame that completes it. -/
def take (t : PendingTable) (id : FrameId) : Option Guard × PendingTable :=
  match t.entries.find? (·.id == id) with
  | some g => (some g, { t with entries := t.entries.filter (·.id != id) })
  | none => (none, t)

/-- Drops a registration; the entry under its identifier goes only if it still carries its token. -/
def drop (t : PendingTable) (g : Guard) : PendingTable :=
  if t.tokenOf g.id = some g.token then { t with entries := t.entries.filter (·.id != g.id) }
  else t

def clear (t : PendingTable) : PendingTable := { t with entries := [] }

end PendingTable

end RadioLink
