
-- White space, and the trimming of text by it.
-- A character is blank when it has the Unicode property `White_Space`. The functions work on lists of
-- characters; `trim` is the one on strings.
namespace Entitlement.Text

def isBlank (c : Char) : Bool :=
  let n := c.toNat
  (9 ≤ n && n ≤ 13) || n == 0x20 || n == 0x85 || n == 0xA0 || n == 0x1680
    || (0x2000 ≤ n && n ≤ 0x200A) || n == 0x2028 || n == 0x2029 || n == 0x202F || n == 0x205F
    || n == 0x3000

-- The blanks of ASCII that separate words in command output: the vertical tab is not one.
def isAsciiBlank (b : UInt8) : Bool :=
  b == 0x20 || b == 0x09 || b == 0x0A || b == 0x0C || b == 0x0D

def dropBlanks (cs : List Char) : List Char := cs.dropWhile isBlank

def dropEnd (p : Char → Bool) (cs : List Char) : List Char := (cs.reverse.dropWhile p).reverse

def trimmed (cs : List Char) : List Char := dropEnd isBlank (dropBlanks cs)

def trim (s : String) : String := String.ofList (trimmed s.toList)

def isBlankText (s : String) : Bool := s.toList.all isBlank

end Entitlement.Text
