/-
Blanks and comma separated text.  A comma separates items, blanks around an
item do not belong to it.
-/

namespace AuditFields.Text

/-- Whether a character is white space in the sense of the Unicode property
`White_Space`. -/
def isBlank (c : Char) : Bool :=
  let n := c.toNat
  (9 ≤ n && n ≤ 13) || n == 0x20 || n == 0x85 || n == 0xA0 || n == 0x1680 ||
    (0x2000 ≤ n && n ≤ 0x200A) || n == 0x2028 || n == 0x2029 || n == 0x202F ||
    n == 0x205F || n == 0x3000

/-- The text without the blanks at its start. -/
def trimStart (cs : List Char) : List Char :=
  cs.dropWhile isBlank

/-- The text without the blanks at either end. -/
def trim (cs : List Char) : List Char :=
  (trimStart (trimStart cs).reverse).reverse

/-- The pieces between commas.  There is one more piece than commas. -/
def splitCommas : List Char → List (List Char)
  | [] => [[]]
  | c :: rest =>
      if c = ',' then [] :: splitCommas rest
      else
        match splitCommas rest with
        | [] => [[c]]
        | piece :: pieces => (c :: piece) :: pieces

/-- The text without the blanks at either end, as a string. -/
def trimmed (s : String) : String :=
  String.ofList (trim s.toList)

/-- The items of a comma separated text: trimmed, and without the pieces that
hold nothing else. -/
def commaItems (s : String) : List String :=
  ((splitCommas s.toList).map fun piece => String.ofList (trim piece)).filter
    fun item => item ≠ ""

end AuditFields.Text
