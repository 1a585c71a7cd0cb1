/-! JSON values as the library writes them: objects keep their fields in the order they are
built, numbers are integers, and text is written compactly with the escapes of RFC 8259
(named escapes for the usual control characters, `\u00XX` for the others, everything else
as is). -/
namespace RadioLink

/-- A JSON value. Objects are association lists in insertion order. -/
inductive Json where
  | null
  | bool (b : Bool)
  | num (n : Int)
  | str (s : String)
  | arr (xs : List Json)
  | obj (kvs : List (String × Json))
  deriving Inhabited, Repr

namespace Json

@[inline] def nat (n : Nat) : Json := .num n

def opt {α : Type} (f : α → Json) : Option α → Json
  | none => .null
  | some a => f a

def hex4 (n : Nat) : String :=
  let d := fun (k : Nat) => Nat.digitChar ((n / Nat.pow 16 k) % 16)
  String.ofList [d 3, d 2, d 1, d 0]

def escapeChar (c : Char) : String :=
  if c = '"' then "\\\""
  else if c = '\\' then "\\\\"
  else if c = '\n' then "\\n"
  else if c = '\r' then "\\r"
  else if c = '\t' then "\\t"
  else if c.toNat = 8 then "\\b"
  else if c.toNat = 12 then "\\f"
  else if c.toNat < 32 then "\\u" ++ hex4 c.toNat
  else c.toString

def quote (s : String) : String :=
  "\"" ++ String.join (s.toList.map escapeChar) ++ "\""

mutual
/-- Compact JSON text: no blanks between tokens. -/
def render : Json → String
  | .null => "null"
  | .bool true => "true"
  | .bool false => "false"
  | .num n => toString n
  | .str s => quote s
  | .arr xs => "[" ++ renderItems xs ++ "]"
  | .obj kvs => "\x7b" ++ renderFields kvs ++ "\x7d"

def renderItems : List Json → String
  | [] => ""
  | [x] => render x
  | x :: xs => render x ++ "," ++ renderItems xs

def renderFields : List (String × Json) → String
  | [] => ""
  | [(k, v)] => quote k ++ ":" ++ render v
  | (k, v) :: kvs => quote k ++ ":" ++ render v ++ "," ++ renderFields kvs
end

mutual
/-- The value with every object's fields in ascending order of their keys. -/
def sortKeys : Json → Json
  | .arr xs => .arr (sortItems xs)
  | .obj kvs => .obj ((sortFields kvs).mergeSort fun a b => decide (a.1 ≤ b.1))
  | j => j

def sortItems : List Json → List Json
  | [] => []
  | x :: xs => sortKeys x :: sortItems xs

def sortFields : List (String × Json) → List (String × Json)
  | [] => []
  | (k, v) :: kvs => (k, sortKeys v) :: sortFields kvs
end

def field? (j : Json) (key : String) : Option Json :=
  match j with
  | .obj kvs => (kvs.find? (fun kv => kv.1 == key)).map Prod.snd
  | _ => none

/-- An object with `key` set to `v`: replaced in place when present, appended otherwise. -/
def setField (j : Json) (key : String) (v : Json) : Json :=
  match j with
  | .obj kvs =>
    if kvs.any (fun kv => kv.1 == key) then
      .obj (kvs.map fun kv => if kv.1 == key then (key, v) else kv)
    else .obj (kvs ++ [(key, v)])
  | other => other

def merge (a b : Json) : Json :=
  match a, b with
  | .obj xs, .obj ys => .obj (xs ++ ys)
  | .obj xs, _ => .obj xs
  | _, b => b

end Json

end RadioLink
