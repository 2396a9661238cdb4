import FlowBlocks.Listing.Body
/-!
Writing bodies back as a listing: a `.body` line, one line per instruction, one per trap.
-/
namespace FlowBlocks

/-- A trap as a directive; `-` stands for the end of the body. -/
def Trap.print (t : Trap) : Bytes :=
  bytes ".trap " ++ t.first ++ bytes " " ++ (if t.past.isEmpty then bytes "-" else t.past) ++
    bytes " " ++ t.handler

namespace Body

def printLines (b : Body) : List Bytes :=
  (bytes ".body " ++ b.name) :: b.instrs.map Instr.render ++ b.traps.map Trap.print

/-- The bodies as one listing, every line ended by a line feed. -/
def printAll (bs : List Body) : Bytes :=
  (bs.flatMap printLines).flatMap (· ++ [10])

end Body

end FlowBlocks
