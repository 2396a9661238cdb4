import FlowBlocks.Bytes
/-!
Terminal colours. A paint is a pair of codes: one that turns it on and one that turns it off.
-/
namespace FlowBlocks

structure Paint where
  on : String
  off : String := "0"

namespace Paint

def escape (code : String) : Bytes := [0x1B] ++ bytes "[" ++ bytes code ++ bytes "m"

/-- The text between the two codes, also where it is empty; or the bare text without colours. -/
def apply (p : Paint) (colored : Bool) (s : Bytes) : Bytes :=
  if colored then escape p.on ++ s ++ escape p.off else s

end Paint

end FlowBlocks
