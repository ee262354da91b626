import SmuTelemetry.Files.Access

/-!
Model-specific registers. A register is the eight bytes at its own number in the
register file.
-/

namespace SmuTelemetry.Msr

set_option autoImplicit false

def read (tree : FileTree) (path : String) (register : UInt32) : Except Fault UInt64 :=
  match tree.openRead path with
  | .error fault => .error fault
  | .ok handle => match handle.readAt tree register.toNat 8 with
    | .error error => .error (.os error)
    | .ok bytes =>
        if bytes.length = 8 then .ok (UInt64.ofNat bytes.littleEndian)
        else
          let number := hexDigits 8 register.toNat
          .error (.custom .unexpectedEof s!"short read of MSR 0x{number}")

def read? (tree : FileTree) (path : String) (register : UInt32) : Option UInt64 :=
  (read tree path register).toOption

end SmuTelemetry.Msr
