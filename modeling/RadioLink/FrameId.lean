import RadioLink.Bytes
/-! Frame identifiers. A request carries one byte that its response echoes, so that responses
can be matched to their requests; `0` asks for no response. Fresh identifiers run from 2 to
255 and then start over at 2, leaving 0 and the default 1 to requests built by hand. -/
namespace RadioLink

structure FrameId where
  value : UInt8
  deriving DecidableEq, Repr, Inhabited

namespace FrameId

/-- The identifier that asks for no response. -/
def none : FrameId := ⟨0⟩

def default : FrameId := ⟨1⟩

def first : FrameId := ⟨2⟩

def expectsResponse (i : FrameId) : Bool := i.value != 0

def display (i : FrameId) : String := "0x" ++ Bytes.byteUpper i.value

/-- The identifier after `prev`: the next one up, or `2` after 255 and after the reserved ones. -/
def following (prev : UInt8) : UInt8 :=
  if prev < 2 ∨ prev = 255 then 2 else prev + 1

theorem following_ne_zero (prev : UInt8) : following prev ≠ 0 := by
  unfold following
  split
  · decide
  · grind

end FrameId

/-- Hands out frame identifiers in turn; it remembers the last one handed out. -/
structure FrameIdAllocator where
  last : UInt8 := 255
  deriving DecidableEq, Repr, Inhabited

namespace FrameIdAllocator

/-- The next identifier, and the allocator after handing it out. -/
def next (a : FrameIdAllocator) : FrameId × FrameIdAllocator :=
  let v := FrameId.following a.last
  (⟨v⟩, ⟨v⟩)

def take : Nat → FrameIdAllocator → List FrameId × FrameIdAllocator
  | 0, a => ([], a)
  | n + 1, a =>
    let (i, a) := a.next
    let (is, a) := take n a
    (i :: is, a)

end FrameIdAllocator

end RadioLink
