/-! Text operations of the services' standard libraries, on characters. -/

namespace BuildLens.Text

/-- `char::is_whitespace`: the characters with the Unicode `White_Space` property. -/
def isWhitespace (c : Char) : Bool :=
  let code := c.toNat
  (9 ≤ code && code ≤ 13) || code == 0x20 || code == 0x85 || code == 0xa0 || code == 0x1680 ||
    (0x2000 ≤ code && code ≤ 0x200a) || code == 0x2028 || code == 0x2029 || code == 0x202f ||
    code == 0x205f || code == 0x3000

/-- `str::trim_matches` for a set of characters. -/
def trimMatches (drops : Char → Bool) (text : List Char) : List Char :=
  ((text.dropWhile drops).reverse.dropWhile drops).reverse

/-- `str::trim`. -/
def trim (text : String) : String :=
  String.ofList (trimMatches isWhitespace text.toList)

/-- `str::strip_prefix`. -/
def stripPrefix (head text : String) : Option String :=
  if head.toList.isPrefixOf text.toList then some (String.ofList (text.toList.drop head.toList.length))
  else none

/-- `str::split_once`. -/
def splitOnce (separator : Char) (text : List Char) : Option (List Char × List Char) :=
  match text.span (· != separator) with
  | (head, _ :: rest) => some (head, rest)
  | (_, []) => none

end BuildLens.Text
