import RadioLink.Text.Quoted
import RadioLink.Text.Blank
/-! What goes wrong on a command line, and how it is told. A message starts with `error: `,
may go on with tips, each after a blank line, and with the usage line of the command, and
always ends by pointing at `--help`. Errors about a single value leave the usage line out. -/
namespace RadioLink
namespace Args

/-- A mistake on the command line. -/
inductive Diagnostic where
  | missing (items : List String) (usage : String)
  | conflict (arg : String) (others : List String) (usage : String)
  | repeated (arg : String) (usage : String)
  | unknown (arg : String) (similar : Option String) (tips : List String) (usage : String)
  | unrecognized (word : String) (similar : List String) (usage : String)
  | separated (word : String) (usage : String)
  | noSubcommand (program : String) (names : List String) (usage : String)
  | badChoice (value arg : String) (choices : List String) (similar : Option String)
  | invalid (value arg reason : String)
  | unexpected (value arg : String) (usage : String)
  deriving DecidableEq, Repr, Inhabited

namespace Diagnostic

def listed (s : String) : String := if s.any Text.isBlank then Text.quoted s else s

def valuesLine (heading : String) (values : List String) : List String :=
  if values.isEmpty then []
  else ["  [" ++ heading ++ ": " ++ ", ".intercalate (values.map listed) ++ "]"]

def q (s : String) : String := "'" ++ s ++ "'"

def head : Diagnostic → List String
  | .missing items _ =>
    "error: the following required arguments were not provided:" :: items.map ("  " ++ ·)
  | .conflict arg [other] _ => ["error: the argument " ++ q arg ++ " cannot be used with " ++ q other]
  | .conflict arg [] _ =>
    ["error: the argument " ++ q arg ++ " cannot be used with one or more of the other specified arguments"]
  | .conflict arg others _ =>
    ("error: the argument " ++ q arg ++ " cannot be used with:") :: others.map ("  " ++ ·)
  | .repeated arg _ => ["error: the argument " ++ q arg ++ " cannot be used multiple times"]
  | .unknown arg .. | .separated arg _ => ["error: unexpected argument " ++ q arg ++ " found"]
  | .unrecognized word .. => ["error: unrecognized subcommand " ++ q word]
  | .noSubcommand program names _ =>
    ("error: " ++ q program ++ " requires a subcommand but one was not provided") ::
      valuesLine "subcommands" names
  | .badChoice value arg choices _ =>
    (if value.isEmpty then "error: a value is required for " ++ q arg ++ " but none was supplied"
     else "error: invalid value " ++ q value ++ " for " ++ q arg) :: valuesLine "possible values" choices
  | .invalid value arg reason => ["error: invalid value " ++ q value ++ " for " ++ q arg ++ ": " ++ reason]
  | .unexpected value arg _ =>
    ["error: unexpected value " ++ q value ++ " for " ++ q arg ++ " found; no more were expected"]

def tips : Diagnostic → List String
  | .unknown _ (some s) more _ => ("  tip: a similar argument exists: " ++ q s) :: more.map ("  tip: " ++ ·)
  | .unknown _ none more _ => more.map ("  tip: " ++ ·)
  | .unrecognized _ [s] _ => ["  tip: a similar subcommand exists: " ++ q s]
  | .unrecognized _ [] _ => []
  | .unrecognized _ similar _ =>
    ["  tip: some similar subcommands exist: " ++ ", ".intercalate (similar.map q)]
  | .separated word _ =>
    ["  tip: subcommand " ++ q word ++ " exists; to use it, remove the " ++ q "--" ++ " before it"]
  | .badChoice _ _ _ (some s) => ["  tip: a similar value exists: " ++ q s]
  | _ => []

def usage? : Diagnostic → Option String
  | .missing _ u | .conflict _ _ u | .repeated _ u | .unknown _ _ _ u | .unrecognized _ _ u
  | .separated _ u | .noSubcommand _ _ u | .unexpected _ _ u => some u
  | .badChoice .. | .invalid .. => none

/-- The whole message, line by line. -/
def lines (d : Diagnostic) : List String :=
  let tipLines := d.tips
  d.head ++ (if tipLines.isEmpty then [] else "" :: tipLines) ++
    (match d.usage? with
     | some u => ["", "Usage: " ++ u]
     | none => []) ++
    ["", "For more information, try " ++ q "--help" ++ "."]

end Diagnostic

end Args
end RadioLink
