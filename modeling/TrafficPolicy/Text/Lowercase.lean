import TrafficPolicy.Text.CaseTable

/-!
# Lowercase text

`Text.lowercase` maps a text to lowercase by the Unicode rules, which depend on the neighbours in
one place: a capital sigma that ends a word becomes `ς`, any other `σ`. `Text.asciiLowercase`
touches the letters `A` to `Z` alone and is what names of hosts are compared by.
-/

namespace TrafficPolicy.Text

/-- The lowercase form of a character that does not depend on its neighbours. It is one character
for all but the dotted capital I. -/
def lowercaseChar (c : Char) : List Char :=
  if c.toNat < 0x80 then [c.toLower]
  else if c = '\u0130' then ['i', '\u0307']
  else [(lowercaseRuns.findSome? (·.image? c.toNat)).elim c Char.ofNat]

/-- Whether the characters, those that are case-ignorable skipped, start with one that carries
case. -/
def startsCased (cs : List Char) : Bool :=
  match cs.dropWhile fun c => inRanges caseIgnorableRanges c.toNat with
  | [] => false
  | c :: _ => inRanges casedRanges c.toNat

/-- Lowercases characters; `before` holds the ones already passed, the nearest first. -/
def lowercaseAfter (before : List Char) : List Char → List Char
  | [] => []
  | c :: rest =>
    let image :=
      if c = 'Σ' then
        if startsCased before && !startsCased rest then ['ς'] else ['σ']
      else lowercaseChar c
    image ++ lowercaseAfter (c :: before) rest

/-- A text in lowercase. -/
def lowercase (text : String) : String :=
  String.ofList (lowercaseAfter [] text.toList)

/-- A text with the letters `A` to `Z` in lowercase. -/
def asciiLowercase (text : String) : String :=
  text.map Char.toLower

end TrafficPolicy.Text
