/-! White space in the sense of the Unicode property, and trimming by it. Header values and
lists of versions are trimmed with this class, which is wider than the blanks of a JSON text. -/

namespace BoxOffice.Text

/-- The characters with the Unicode property White_Space. -/
def isBlank (c : Char) : Bool :=
  let n := c.toNat
  (9 ≤ n && n ≤ 13) || n == 0x20 || n == 0x85 || n == 0xA0 || n == 0x1680 ||
    (0x2000 ≤ n && n ≤ 0x200A) || n == 0x2028 || n == 0x2029 || n == 0x202F || n == 0x205F ||
    n == 0x3000

/-- Drop from both ends the characters that `p` holds of. -/
def trimBy (p : Char → Bool) (cs : List Char) : List Char :=
  ((cs.dropWhile p).reverse.dropWhile p).reverse

def trim (cs : List Char) : List Char := trimBy isBlank cs

@[simp] theorem trim_nil : trim [] = [] := rfl

/-- Lower an ASCII letter; every other character stays. -/
def lowerAscii (cs : List Char) : List Char := cs.map Char.toLower

end BoxOffice.Text
