/-!
Blank characters and the text between them. Blank is the Unicode property
White_Space, so no-break spaces, the line separators and the ideographic space count
beside the ASCII blanks.
-/

namespace SmuTelemetry.Text

set_option autoImplicit false

def isBlank (c : Char) : Bool :=
  let code := c.toNat
  decide (9 ≤ code ∧ code ≤ 13) || code == 0x20 || code == 0x85 || code == 0xA0 ||
    code == 0x1680 || decide (0x2000 ≤ code ∧ code ≤ 0x200A) || code == 0x2028 ||
    code == 0x2029 || code == 0x202F || code == 0x205F || code == 0x3000

def trim (text : List Char) : List Char :=
  ((text.dropWhile isBlank).reverse.dropWhile isBlank).reverse

/-- The pieces between single separators; there is one more piece than separators. -/
def splitOn (separator : Char) : List Char → List (List Char)
  | [] => [[]]
  | c :: rest =>
      if c = separator then [] :: splitOn separator rest
      else match splitOn separator rest with
        | [] => [[c]]
        | piece :: pieces => (c :: piece) :: pieces

def splitOnce (separator : Char) : List Char → Option (List Char × List Char)
  | [] => none
  | c :: rest =>
      if c = separator then some ([], rest)
      else (splitOnce separator rest).map fun (before, after) => (c :: before, after)

def words (text : List Char) : List (List Char) :=
  let pending := text.foldr
    (fun c (state : List Char × List (List Char)) =>
      if isBlank c then
        if state.1.isEmpty then state else ([], state.1 :: state.2)
      else (c :: state.1, state.2))
    ([], [])
  if pending.1.isEmpty then pending.2 else pending.1 :: pending.2

/-- The lines of a text; a line feed ends a line, and so does the pair of carriage return
and line feed. -/
def lines (text : List Char) : List (List Char) :=
  let pieces := splitOn '\n' text
  let ended := pieces.dropLast.map fun line =>
    if line.getLast? = some '\r' then line.dropLast else line
  let last := pieces.getLast?.getD []
  if last.isEmpty then ended else ended ++ [last]

def after? (word : List Char) (text : List Char) : Option (List Char) :=
  if word.isPrefixOf text then some (text.drop word.length) else none

end SmuTelemetry.Text
