/-!
The characters that count as blank around a name or a number: the separators of Unicode, the
controls that move on within a text, and the mark that texts may begin with.
-/

namespace KeyPrecedence.Text

def blanks : List Nat :=
  [0x9, 0xa, 0xb, 0xc, 0xd, 0x20, 0xa0, 0x1680, 0x2000, 0x2001, 0x2002, 0x2003, 0x2004, 0x2005,
    0x2006, 0x2007, 0x2008, 0x2009, 0x200a, 0x2028, 0x2029, 0x202f, 0x205f, 0x3000, 0xfeff]

def isBlank (c : Char) : Bool := blanks.contains c.toNat

/-- The text without the blanks in front of it. -/
def trimLeft (cs : List Char) : List Char := cs.dropWhile isBlank

/-- The text without the blanks around it. -/
def trim (cs : List Char) : List Char := (trimLeft (trimLeft cs).reverse).reverse

end KeyPrecedence.Text
