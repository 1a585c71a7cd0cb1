/-! Similarity of two words by the Jaro measure, kept as an exact fraction. Two characters
match when they are equal and at most `max (|a|, |b|) / 2 - 1` positions apart, each character
of the second word matching at most once and the first word claiming its matches from left to
right. With `m` matches and `t` matched characters out of order (counted in pairs), the
similarity is `(m/|a| + m/|b| + (m - t)/m) / 3`. Suggestions for a mistyped word are the
candidates more than `7/10` similar to it, least similar first. -/
namespace RadioLink
namespace Text

/-- A similarity as a fraction `num / den`; the denominator is positive. -/
structure Similarity where
  num : Nat
  den : Nat
  deriving DecidableEq, Repr, Inhabited

namespace Similarity

def le (a b : Similarity) : Bool := a.num * b.den ≤ b.num * a.den

def above (a : Similarity) (num den : Nat) : Bool := a.num * den > num * a.den

end Similarity

/-- The first position from `lo` below `limit` where `b` holds `c` and no earlier match claimed it. -/
def firstFree (b : List Char) (claimed : List Bool) (c : Char) (lo limit : Nat) : Option Nat :=
  (List.range limit).find? fun j => lo ≤ j && b[j]? == some c && !(claimed[j]?.getD true)

def matchFlags (a b : List Char) : List Bool × List Bool :=
  let window := max a.length b.length / 2 - 1
  let step := fun (acc : List Bool × List Bool) (ic : Nat × Char) =>
    let (i, c) := ic
    match firstFree b acc.2 c (i - window) (min b.length (i + window + 1)) with
    | some j => (acc.1 ++ [true], acc.2.set j true)
    | none => (acc.1 ++ [false], acc.2)
  (a.zipIdx.map fun (c, i) => (i, c)).foldl step ([], List.replicate b.length false)

def flagged (cs : List Char) (flags : List Bool) : List Char :=
  (cs.zip flags).filterMap fun (c, f) => if f then some c else none

/-- The Jaro similarity of two words. -/
def jaro (a b : String) : Similarity :=
  let xs := a.toList
  let ys := b.toList
  if xs.isEmpty && ys.isEmpty then ⟨1, 1⟩
  else if xs.isEmpty || ys.isEmpty then ⟨0, 1⟩
  else
    let (fa, fb) := matchFlags xs ys
    let mx := flagged xs fa
    let my := flagged ys fb
    let m := mx.length
    if m = 0 then ⟨0, 1⟩
    else
      let t := ((mx.zip my).filter fun (x, y) => x != y).length / 2
      ⟨m * m * ys.length + m * m * xs.length + (m - t) * xs.length * ys.length,
        3 * xs.length * ys.length * m⟩

/-- The candidates more than `7/10` similar to `word`, least similar first, ties in order. -/
def similar (word : String) (candidates : List String) : List String :=
  let scored := (candidates.map fun c => (jaro word c, c)).filter fun p => p.1.above 7 10
  (scored.mergeSort fun p q => p.1.le q.1).map (·.2)

def mostSimilar? (word : String) (candidates : List String) : Option String :=
  (similar word candidates).getLast?

end Text
end RadioLink
