import RadioLink.FrameId
/-! A frame identifier allocator shared by callers that run at once. A caller's `next` reads the
last identifier handed out, computes the one after it, and tries to put that in its place with
a weak compare-exchange: the exchange takes effect only while the allocator still holds what the
caller read, and it may also fail for no reason. On a failure the caller takes the value the
allocator holds and tries again. Each read and each exchange is one atomic step, so every
interleaving of steps is a run. -/
namespace RadioLink
namespace SharedAllocator

inductive Phase where
  | idle
  | trying (prev : UInt8)
  | done (id : FrameId)
  deriving DecidableEq, Repr

/-- An allocator shared by `n` callers, each making one call of `next`. -/
structure World (n : Nat) where
  alloc : FrameIdAllocator := {}
  callers : Fin n → Phase := fun _ => .idle
  issued : List (Fin n × FrameId) := []

/-- One atomic step of a run. -/
inductive Event (n : Nat) where
  | load (c : Fin n)
  | exchange (c : Fin n) (spurious : Bool)
  deriving DecidableEq, Repr

namespace World

variable {n : Nat}

def setCaller (w : World n) (c : Fin n) (p : Phase) : World n :=
  { w with callers := fun d => if d = c then p else w.callers d }

def load (w : World n) (c : Fin n) : World n :=
  match w.callers c with
  | .idle => w.setCaller c (.trying w.alloc.last)
  | _ => w

/-- Caller `c` tries its exchange; a stale read or a spurious failure makes it retry. -/
def exchange (w : World n) (c : Fin n) (spurious : Bool) : World n :=
  match w.callers c with
  | .trying prev =>
    if w.alloc.last = prev ∧ spurious = false then
      let v := FrameId.following prev
      { w.setCaller c (.done ⟨v⟩) with alloc := ⟨v⟩, issued := w.issued ++ [(c,⟨v⟩)] }
    else w.setCaller c (.trying w.alloc.last)
  | _ => w

def step (w : World n) : Event n → World n
  | .load c => w.load c
  | .exchange c spurious => w.exchange c spurious

def run (w : World n) (evs : List (Event n)) : World n := evs.foldl step w

end World

end SharedAllocator
end RadioLink
