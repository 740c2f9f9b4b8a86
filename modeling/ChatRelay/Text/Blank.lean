/-!
# Blank characters

The characters with the Unicode property `White_Space`, and the text between the first and the
last character that is not one of them.
-/
namespace ChatRelay.Text

/-- The property `White_Space`, all of its 25 characters. -/
def isBlank (c : Char) : Bool :=
  let n := c.toNat
  (9 ≤ n && n ≤ 13) || n = 0x20 || n = 0x85 || n = 0xA0 || n = 0x1680
    || (0x2000 ≤ n && n ≤ 0x200A) || n = 0x2028 || n = 0x2029 || n = 0x202F
    || n = 0x205F || n = 0x3000

/-- The characters without the blank ones at both ends. -/
def trimChars (cs : List Char) : List Char :=
  ((cs.dropWhile isBlank).reverse.dropWhile isBlank).reverse

def trim (s : String) : String := String.ofList (trimChars s.toList)

/-- No character, or blank ones only. -/
def isAllBlank (s : String) : Bool := s.toList.all isBlank

/-- The letters `A` to `Z` in lower case, all else as it is. -/
def asciiLower (s : String) : String := String.ofList (s.toList.map Char.toLower)

/-- Whether the first list stands in the second without a gap. -/
def occursIn (needle : List Char) : List Char → Bool
  | [] => needle.isEmpty
  | c :: cs => needle.isPrefixOf (c :: cs) || occursIn needle cs

def join (separator : String) (texts : List String) : String :=
  String.ofList (separator.toList.intercalate (texts.map String.toList))

end ChatRelay.Text
