import RadioLink.Args.Value
import RadioLink.Args.Usage
/-! Reading a command line against a grammar, one word at a time: long and short options,
a lone `--` before positional values, and a subcommand's words read and checked before what
the top level left open. Defaults then fill in what was not given, and the arguments are
checked for conflicts, then for missing required ones. -/
namespace RadioLink
namespace Args

/-- What the parser found for an argument or a group. -/
structure Found where
  id : String
  values : List Value
  given : Bool := true
  deriving Repr, Inhabited

structure Pending where
  id : String
  raw : List String
  deriving Repr, Inhabited

/-- The parser's state within one command. -/
structure Scan where
  found : List Found := []
  pending : Option Pending := none
  awaiting : Bool := false
  place : Nat := 1
  valuesOnly : Bool := false
  deriving Repr, Inhabited

/-- Why reading a command line stopped early. -/
inductive Stop where
  | help (c : Command) (onError : Bool)
  | version
  | fail (d : Diagnostic)
  deriving Repr, Inhabited

structure Level where
  cmd : Command
  below : List Command := []
  deriving Repr, Inhabited

namespace Scan

def isGiven (s : Scan) (id : String) : Bool := s.found.any fun f => f.id == id && f.given

def givenIds (s : Scan) : List String := (s.found.filter (·.given)).map (·.id)

def add (s : Scan) (id : String) (values : List Value) : Scan :=
  if s.found.any (·.id == id) then
    { s with found := s.found.map fun f =>
        if f.id == id then { f with values := f.values ++ values, given := true } else f }
  else { s with found := s.found ++ [{ id, values }] }

def record (s : Scan) (c : Command) (a : Arg) (values : List Value) : Scan :=
  (c.groupsOf a.id).foldl (fun s g => s.add g.id [.text a.id]) (s.add a.id values)

def settled (s : Scan) : Scan := { s with pending := none, awaiting := false }

def push (s : Scan) (w : String) : Scan :=
  { s with pending := s.pending.map (fun p => { p with raw := p.raw ++ [w] }), awaiting := false }

def withDefaults (s : Scan) (c : Command) : Scan :=
  c.args.foldl (fun s a =>
    match a.default with
    | some d =>
      if s.found.any (·.id == a.id) then s
      else { s with found := s.found ++ [{ id := a.id, values := [((a.read d).toOption).getD (.text d)], given := false }] }
    | none => s) s

end Scan

def splitAt (d : Char) (w : String) : List String := w.splitOn d.toString

/-- The state after an argument takes `raw`: it needs a value, may not repeat, each value must read. -/
def take (c : Command) (a : Arg) (raw : List String) (s : Scan) : Except Stop Scan := do
  if a.takesValue && raw.isEmpty then throw (.fail (.badChoice "" a.spec a.choices none))
  let raw := match a.takes with
    | .each d => raw.flatMap (splitAt d)
    | _ => raw
  let read := fun (r : String) => (a.read r).mapError Stop.fail
  match a.takes with
  | .help => throw (.help c false)
  | .version => throw .version
  | .flag =>
    if s.isGiven a.id then throw (.fail (.repeated a.spec (c.usageWith [])))
    else pure (s.record c a [.on])
  | .single =>
    if s.isGiven a.id then throw (.fail (.repeated a.spec (c.usageWith [])))
    else pure (s.record c a (← raw.mapM read))
  | .each _ | .many => pure (s.record c a (← raw.mapM read))

def resolve (c : Command) (s : Scan) : Except Stop Scan :=
  match s.pending with
  | none => .ok s
  | some p =>
    match c.find? p.id with
    | some a => take c a p.raw s.settled
    | none => .ok s.settled

/-- Completes the pending argument where a mistake is reported anyway; a failure leaves it out. -/
def settle (c : Command) (s : Scan) : Scan :=
  match resolve c s with
  | .ok s => s
  | .error _ => s.settled

def react (c : Command) (a : Arg) (raw : List String) (s : Scan) : Except Stop Scan := do
  take c a raw (← resolve c s)

def expect (c : Command) (a : Arg) (s : Scan) : Except Stop Scan := do
  let s ← resolve c s
  pure { s with pending := some ⟨a.id, []⟩, awaiting := true }

def isLong (w : String) : Bool := w.startsWith "--" && w.length > 2

def isShort (w : String) : Bool := w.startsWith "-" && !w.startsWith "--" && w.length > 1

def splitName (body : String) : String × Option String :=
  match body.splitOn "=" with
  | [] => (body, none)
  | [n] => (n, none)
  | n :: rest => (n, some ("=".intercalate rest))

def valueTip (arg : String) : String :=
  "to pass '" ++ arg ++ "' as a value, use '-- " ++ arg ++ "'"

def firstLeast {α : Type} : List (Nat × α) → Option α
  | [] => none
  | (n, a) :: rest =>
    match firstLeastAux n a rest with
    | (_, best) => some best
where
  firstLeastAux (n : Nat) (a : α) : List (Nat × α) → Nat × α
    | [] => (n, a)
    | (m, b) :: rest => if m < n then firstLeastAux m b rest else firstLeastAux n a rest

namespace Level

def names (lv : Level) : List String := lv.cmd.subcommands.map (·.1)

/-- The mistake of an unknown long name, suggesting a similar option here or of a later subcommand. -/
def unknownLong (lv : Level) (s : Scan) (name : String) (later : List String) : Diagnostic :=
  let arg := "--" ++ name
  match Text.mostSimilar? name lv.cmd.longNames with
  | some cand =>
    let s := match lv.cmd.findLong? cand with
      | some a => s.add a.id []
      | none => s
    .unknown arg (some ("--" ++ cand)) [] (lv.cmd.usageWith s.givenIds)
  | none =>
    let hits := lv.below.filterMap fun sub => do
      let cand ← Text.mostSimilar? name sub.longNames
      let pos ← later.findIdx? (· == sub.name)
      pure (pos, "'" ++ sub.name ++ " --" ++ cand ++ "' exists")
    let tips := match firstLeast hits with
      | some tip => [tip]
      | none => if !s.valuesOnly && lv.cmd.hasPositionals then [valueTip arg] else []
    .unknown arg none tips (lv.cmd.usageWith s.givenIds)

def long (lv : Level) (s : Scan) (w : String) (later : List String) : Except Stop Scan :=
  let (name, attached) := splitName (String.ofList (w.toList.drop 2))
  match lv.cmd.findLong? name, attached with
  | some a, some v =>
    if a.takesValue then react lv.cmd a [v] s
    else
      let used := s.givenIds.filter fun id => !(((lv.cmd.find? id).map (·.required)).getD false)
      .error (.fail (.unexpected v a.spec (lv.cmd.usageWith (used ++ [a.id]))))
  | some a, none => if a.takesValue then expect lv.cmd a s else react lv.cmd a [] s
  | none, _ => .error (.fail (lv.unknownLong (settle lv.cmd s) name later))

/-- The state after a word of short names; an option takes the rest of the word as its value. -/
def short (lv : Level) (s : Scan) : List Char → Except Stop Scan
  | [] => .ok s
  | ch :: more =>
    match lv.cmd.findShort? ch with
    | some a =>
      if !a.takesValue then do short lv (← react lv.cmd a [] s) more
      else if more.isEmpty then expect lv.cmd a s
      else react lv.cmd a [String.ofList (match more with | '=' :: r => r | r => r)] s
    | none =>
      let arg := "-" ++ ch.toString
      let tips := if !s.valuesOnly && lv.cmd.hasPositionals then [valueTip arg] else []
      .error (.fail (.unknown arg none tips lv.cmd.usage))

def misplaced (lv : Level) (s : Scan) (w : String) : Diagnostic :=
  if s.valuesOnly && lv.names.contains w then .separated w lv.cmd.usage
  else if lv.names.isEmpty then .unknown w none [] lv.cmd.usage
  else .unrecognized w (Text.similar w lv.names) lv.cmd.usage

def positional (lv : Level) (s : Scan) (w : String) : Except Stop Scan :=
  match lv.cmd.positionalAt? s.place with
  | some a => do
    let s ← resolve lv.cmd s
    pure { s with pending := some ⟨a.id, [w]⟩, place := s.place + 1 }
  | none => .error (.fail (lv.misplaced s w))

/-- Reads words up to a subcommand's name, which is returned with the words after it. -/
def scan (lv : Level) : Scan → List String → Except Stop (Scan × Option (String × List String))
  | s, [] => .ok (s, none)
  | s, w :: ws =>
    if s.valuesOnly then do scan lv (← lv.positional s w) ws
    else if lv.names.contains w then .ok (s, some (w, ws))
    else if w == "--" then scan lv { s with valuesOnly := true } ws
    else if isLong w then do scan lv (← lv.long s w ws) ws
    else if isShort w then do scan lv (← lv.short s (w.toList.drop 1)) ws
    else if s.awaiting then scan lv (s.push w) ws
    else do scan lv (← lv.positional s w) ws

end Level

namespace Command

def conflictsWith (c : Command) (s : Scan) (id : String) : List String :=
  let mine := c.conflictsOf id
  s.givenIds.flatMap fun other =>
    if other == id then []
    else (if mine.contains other then [other] else []) ++
      (if (c.conflictsOf other).contains id then [other] else [])

/-- Fails on the first given argument that conflicts with another given one. -/
def checkConflicts (c : Command) (s : Scan) : Except Stop Unit :=
  let clash := s.givenIds.findSome? fun id =>
    let cs := c.conflictsWith s id
    if cs.isEmpty then none else some (id, cs)
  match clash with
  | none => .ok ()
  | some (id, cs) =>
    let others := (dedup cs).filterMap fun o => (c.find? o).map (·.spec)
    let used := s.givenIds.filter fun n => (c.find? n).isSome && !cs.contains n
    let arg := ((c.find? id).map (·.spec)).getD id
    .error (.fail (.conflict arg others (c.usageWith used)))

/-- Fails when a required argument or group is missing, naming the positionals before it too. -/
def checkRequired (c : Command) (s : Scan) : Except Stop Unit :=
  let missing := c.required.filter fun id =>
    match c.group? id with
    | some g => !g.members.any s.isGiven
    | none => !s.isGiven id
  let places := c.positionals.zipIdx.map fun (a, i) => (a.id, i + 1)
  let placeOf := fun (id : String) => ((places.find? (·.1 == id)).map (·.2)).getD 0
  let highest := missing.foldl (fun h id => max h (placeOf id)) 0
  let before := places.filterMap fun (id, i) =>
    if i < highest && !s.isGiven id then some id else none
  let missing := missing ++ before
  if missing.isEmpty then .ok ()
  else
    let used := (s.givenIds.filter fun n => (c.find? n).isSome) ++ missing
    .error (.fail (.missing (c.missingItems s.isGiven missing) (c.usageWith used)))

/-- Reads the words of a subcommand and checks them. -/
def parse (c : Command) (words : List String) : Except Stop (List Found) := do
  let (s, _) ← Level.scan { cmd := c } {} words
  let s := (← resolve c s).withDefaults c
  c.checkConflicts s
  c.checkRequired s
  pure s.found

end Command

end Args
end RadioLink
