import SprHomeAssistant.Plugin.Mac
import SprHomeAssistant.Plugin.Spr

/-! Presence as SPR's `/topology` endpoint reports it. -/

set_option autoImplicit false

namespace SprHomeAssistant.Plugin
open Go

structure TopoPresence where
  online : Bool
  connType : String
  iface : String
  signal : Int
  deriving DecidableEq

def topoPresence (node : TopoNode) : TopoPresence where
  online := node.online
  connType := node.connType
  iface := node.iface
  signal := match node.signal with
    | some signal => signal.rssi
    | none => 0

def addTopoNode (presence : Map TopoPresence) (node : TopoNode) : Map TopoPresence :=
  if node.kind ≠ "device" then presence
  else
    let mac := normalizeMAC node.mac
    if !isMAC mac then presence else presence.insert mac (topoPresence node)

/-- `fetchTopologyPresence`; `none` sends the caller to its own merge. -/
def fetchTopologyPresence (reply : Option TopoResponse) : Option (Map TopoPresence) :=
  match reply with
  | none => none
  | some topo =>
      if topo.nodes.items.isEmpty then none
      else some (topo.nodes.items.foldl addTopoNode ∅)

end SprHomeAssistant.Plugin
