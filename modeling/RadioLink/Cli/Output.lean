import RadioLink.Cli.Summary
import RadioLink.Cli.Table
import RadioLink.Cli.CommandLine
/-! What the tool prints for a frame and for a list of discovered nodes, in each output format:
one JSON line, a table, or one line of words per item. -/
namespace RadioLink
namespace Cli

/-- A frame as JSON: type code and name, identifier, time of printing and the response. -/
def frameJson (r : Response) (timestamp : String) : Json :=
  .obj [("frame_type", .str ("0x" ++ Bytes.byteUpper r.frameType)),
    ("frame_type_name", .str (frameTypeName r.frameType)),
    ("frame_id", Json.opt (fun (i : FrameId) => .nat i.value.toNat) r.frameId?),
    ("timestamp", .str timestamp), ("response", r.toJson)]

def frameLines (format : Format) (timestamp : String) (r : Response) : List String :=
  match format with
  | .json => [(frameJson r timestamp).render]
  | .table =>
    Table.lines ⟨["TYPE", "FRAME ID", "DETAIL"],
      [[frameTypeName r.frameType, frameIdText r.frameId?, detail r]]⟩
  | .pretty =>
    ["type=0x" ++ Bytes.byteUpper r.frameType ++ " (" ++ frameTypeName r.frameType ++ ") id=" ++
      frameIdText r.frameId? ++ " " ++ detail r]

def nodeLines (format : Format) (nodes : List NodeDiscovery) : List String :=
  match format with
  | .json => [(Json.arr (nodes.map NodeDiscovery.toJson)).render]
  | .table =>
    Table.lines ⟨["ADDRESS64", "ADDRESS16", "IDENTIFIER", "TYPE", "PARENT"],
      nodes.map fun n => [n.address64.display, n.address16.display, n.identifier,
        n.deviceType.title, n.parent.display]⟩
  | .pretty =>
    nodes.map fun n => n.address64.display ++ " " ++ n.address16.display ++ " NI=" ++
      Text.quoted n.identifier ++ " " ++ n.deviceType.title

end Cli
end RadioLink
