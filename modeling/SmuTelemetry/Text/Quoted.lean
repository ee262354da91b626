import SmuTelemetry.Text.Invisible

/-!
Quoted text in messages. Double quotes, backslashes and the common controls have short
escapes, characters without a visible form are shown by their code point, and all else
stands for itself.
-/

namespace SmuTelemetry.Text

set_option autoImplicit false

def escape (c : Char) : List Char :=
  if c = Char.ofNat 0 then ['\\', '0']
  else if c = '\t' then ['\\', 't']
  else if c = '\r' then ['\\', 'r']
  else if c = '\n' then ['\\', 'n']
  else if c = '"' ∨ c = '\\' then ['\\', c]
  else if isInvisible c then "\\u\x7b".toList ++ Nat.toDigits 16 c.toNat ++ ['\x7d']
  else [c]

def quote (text : String) : String :=
  String.ofList ('"' :: text.toList.flatMap escape ++ ['"'])

end SmuTelemetry.Text
