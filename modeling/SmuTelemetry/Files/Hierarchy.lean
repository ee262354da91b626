import SmuTelemetry.Files.Tree

/-!
What every file tree starts with: the top directories of the usual file hierarchy, and the
three devices whose answers do not depend on a machine.
-/

namespace SmuTelemetry.FileTree

set_option autoImplicit false

def topDirectories : List String :=
  ["bin", "boot", "dev", "etc", "home", "lib", "media", "mnt", "opt", "proc", "root", "run",
    "sbin", "srv", "sys", "tmp", "usr", "var"]

def standardDevices : List (String × Device) :=
  [("null", .null), ("zero", .zero), ("full", .full)]

/-- A tree with the top directories and the devices, and nothing else. -/
def standard : FileTree :=
  let directories := topDirectories.map fun name => Change.makeDirectory ("/" ++ name)
  let devices := standardDevices.map fun entry => Change.linkDevice ("/dev/" ++ entry.1) entry.2
  (directories ++ devices).foldl apply {}

end SmuTelemetry.FileTree
