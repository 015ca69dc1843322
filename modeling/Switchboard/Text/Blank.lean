/-! White space in the Unicode sense, and text with it removed from the ends. -/

namespace Switchboard.Text

/-- The characters with the Unicode property White_Space. -/
def isBlank (c : Char) : Bool :=
  let code := c.toNat
  (0x09 ≤ code && code ≤ 0x0D) || code == 0x20 || code == 0x85 || code == 0xA0 ||
    code == 0x1680 || (0x2000 ≤ code && code ≤ 0x200A) || code == 0x2028 || code == 0x2029 ||
    code == 0x202F || code == 0x205F || code == 0x3000

def skipBlanks (text : List Char) : List Char :=
  text.dropWhile isBlank

theorem length_skipBlanks_le (text : List Char) : (skipBlanks text).length ≤ text.length :=
  (List.dropWhile_sublist isBlank).length_le

def trimmed (text : List Char) : List Char :=
  (skipBlanks (skipBlanks text).reverse).reverse

theorem length_trimmed_le (text : List Char) : (trimmed text).length ≤ text.length := by
  have outer := length_skipBlanks_le (skipBlanks text).reverse
  have inner := length_skipBlanks_le text
  simp only [trimmed, List.length_reverse] at outer ⊢
  omega

def trim (text : String) : String :=
  String.ofList (trimmed text.toList)

end Switchboard.Text
