import RankFormula.Yaml.Cursor

/-!
# Loading configuration files

A file is loaded in chunks, each as many whole characters as fit, and a chunk is
loaded when a character of it is needed. Only characters that are loaded have to be
allowed, so what stands far behind the first document can be anything.
-/

namespace RankFormula
namespace Yaml

/-- Whether a character may stand in a file. -/
def isAllowedChar (c : Char) : Bool :=
  c = '\t' || c = '\n' || c = '\r' || (decide (0x20 ≤ c.toNat) && decide (c.toNat ≤ 0x7e)) ||
    c.toNat = 0x85 || (decide (0xa0 ≤ c.toNat) && c.toNat != 0xfffe && c.toNat != 0xffff)

/-- The number of bytes in a chunk. -/
def chunkBytes : Nat := 512

/-- The characters that are loaded when a number of them is needed and there is room
for some bytes in the chunk at hand. -/
def loadedWithin : Nat → Nat → List Char → List Char
  | _, _, [] => []
  | room, needed, c :: rest =>
    if c.utf8Size ≤ room then c :: loadedWithin (room - c.utf8Size) (needed - 1) rest
    else if needed = 0 then []
    else c :: loadedWithin (chunkBytes - c.utf8Size) (needed - 1) rest

/-- The characters of a file that are loaded when a number of them is needed. The first
chunk is always loaded. -/
def loaded (needed : Nat) (text : List Char) : List Char := loadedWithin chunkBytes needed text

/-- The number of characters of a file behind a number of characters with unified breaks. -/
def writtenCount : Nat → List Char → Nat
  | 0, _ => 0
  | _, [] => 0
  | n + 1, '\r' :: '\n' :: rest => writtenCount n rest + 2
  | n + 1, _ :: rest => writtenCount n rest + 1

/-- Whether all characters are allowed that are loaded to read a file up to a place. The
character at the place is needed to see that something ends there. -/
def isLoadable (text : List Char) (place : Cursor) : Bool :=
  let marks := if text.head? = some byteOrderMark then 1 else 0
  (loaded (marks + writtenCount place.index (text.drop marks) + 1) text).all isAllowedChar

end Yaml
end RankFormula
