/-! Tables drawn with box characters: a heavy line under the header row, dashed lines between
rows and between columns, one space of padding on each side of a cell, and every column as wide
as its widest cell. The widths count characters. -/
namespace RadioLink
namespace Cli

structure Table where
  header : List String
  rows : List (List String)
  deriving DecidableEq, Repr, Inhabited

namespace Table

def widths (t : Table) : List Nat :=
  t.header.zipIdx.map fun (h, i) =>
    (t.rows.foldl (fun w r => max w ((r[i]?.getD "").length)) h.length) + 2

def rule (ws : List Nat) (left fill joint right : Char) : String :=
  left.toString ++ (joint.toString).intercalate (ws.map fun w => String.ofList (List.replicate w fill)) ++
    right.toString

def row (ws : List Nat) (cells : List String) : String :=
  "│" ++ "┆".intercalate (ws.zipIdx.map fun (w, i) =>
    let c := cells[i]?.getD ""
    " " ++ c ++ String.ofList (List.replicate (w - 1 - c.length) ' ')) ++ "│"

def lines (t : Table) : List String :=
  let ws := t.widths
  let body := (t.rows.map (row ws)).intersperse (rule ws '├' '╌' '┼' '┤')
  [rule ws '┌' '─' '┬' '┐', row ws t.header, rule ws '╞' '═' '╪' '╡'] ++ body ++
    [rule ws '└' '─' '┴' '┘']

end Table

end Cli
end RadioLink
