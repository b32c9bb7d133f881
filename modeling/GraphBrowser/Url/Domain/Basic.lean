import GraphBrowser.Text.Basic
import GraphBrowser.Text.Direction
import GraphBrowser.Text.Joining
import GraphBrowser.Text.Normal.Basic
import GraphBrowser.Url.Domain.Table
import GraphBrowser.Url.Punycode

namespace GraphBrowser.Url.Domain

def shift? (n : Nat) : Option Nat :=
  (shifted.find? fun (low, high, _) => low ≤ n && n ≤ high).map
    fun (low, _, target) => target + (n - low)

def alternate? (n : Nat) : Option Nat :=
  if alternating.any fun (low, high) => low ≤ n && n ≤ high && (n - low) % 2 == 0 then
    some (n + 1)
  else
    none

def runValue? (runs : List (Nat × List α)) (n : Nat) : Option α :=
  runs.findSome? fun (first, entries) => if first ≤ n then entries[n - first]? else none

def foldCode (n : Nat) : List Nat :=
  match shift? n <|> alternate? n <|> runValue? listed n with
  | some m => [m]
  | none => (runValue? spelled n).getD [n]

def fold? (c : Char) : Option (List Char) :=
  if c.toNat < 0x80 then some [c.toLower]
  else if Text.inRanges disallowed c.toNat then none
  else if Text.inRanges ignored c.toNat then some []
  else some ((foldCode c.toNat).map Char.ofNat)

def folded? (name : List Char) : Option (List Char) := do
  return Text.normalForm (← name.mapM fold?).flatten

def isFolded (name : List Char) : Bool :=
  name.all (fun c => fold? c != some []) && folded? name == some name

def isJoiner (c : Char) : Bool := c = '\u200c' || c = '\u200d'

def vowelKiller : Nat := 9

def firstOpaque? (cs : List Char) : Option Text.Joining :=
  ((cs.map Text.joining).dropWhile (· = .transparent)).head?

/-- Whether a joiner has a meaning between the characters before it, last one first, and those after
it: behind a sign that kills a vowel or, if it keeps letters apart, between letters that would
join. -/
def joinerFits (c : Char) (before after : List Char) : Bool :=
  match before with
  | [] => false
  | b :: _ =>
    Text.combiningClass b == vowelKiller ||
      (c = '\u200c' && (firstOpaque? before).any Text.Joining.joinsNext &&
        (firstOpaque? after).any Text.Joining.joinsPrevious)

def joinersFit (before : List Char) : List Char → Bool
  | [] => true
  | c :: cs => (!isJoiner c || joinerFits c before cs) && joinersFit (c :: before) cs

def isAscii (cs : List Char) : Bool := cs.all fun c => c.toNat < 0x80

def maxLabel : Nat := 1000

/-- Whether a label may stand in a domain: it does not begin with a mark, its joiners have a
meaning, and it is not too long to be encoded. -/
def isLabel (label : List Char) : Bool :=
  !(label.head?.any Text.isMark) && joinersFit [] label &&
    (isAscii label || label.length ≤ maxLabel)

def marker : List Char := ['x', 'n', '-', '-']

def maxEncoded : Nat := 2000

def unmarked? (label : List Char) : Option (List Char) :=
  if marker.isPrefixOf label then some (label.drop marker.length) else none

def labelToAscii (label : List Char) : List Char :=
  if isAscii label then label else marker ++ Punycode.encode label

open Text (Direction)

def runsRight : Direction → Bool
  | .right | .arabicLetter | .arabicNumber => true
  | _ => false

def isCommon : Direction → Bool
  | .europeanNumber | .numberSeparator | .commonSeparator | .numberTerminator => true
  | .neutral | .boundary | .mark => true
  | _ => false

def fitsLeft (d : Direction) : Bool := d = .left || isCommon d

def fitsRight (d : Direction) : Bool := runsRight d || isCommon d

def lastBase? (ds : List Direction) : Option Direction :=
  (ds.reverse.dropWhile (· = .mark)).head?

/-- Whether a label is shown as it is read. It begins with a letter and ends with a letter or a
number, marks aside, and a label from right to left does not mix numbers of both kinds. -/
def keepsOrder (ds : List Direction) : Bool :=
  match ds.head? with
  | none => true
  | some .left =>
    ds.all fitsLeft && (lastBase? ds).any fun d => d = .left || d = .europeanNumber
  | some first =>
    (first = .right || first = .arabicLetter) && ds.all fitsRight &&
      ((lastBase? ds).any fun d => runsRight d || d = .europeanNumber) &&
      !(ds.contains .europeanNumber && ds.contains .arabicNumber)

def allKeepOrder (labels : List (List Char)) : Bool :=
  let directions := labels.map fun label => label.map Text.direction
  !(directions.any fun ds => ds.any runsRight) || directions.all keepsOrder

def isForbidden (c : Char) : Bool :=
  c.toNat ≤ 0x20 || c.toNat == 0x7f || "%#/:<>?@[\\]^|".toList.contains c

def isEncoded (code : List Char) : Bool :=
  isAscii code && code.getLast?.any (· ≠ '-') && code.length ≤ maxEncoded

def isDecoded (label : List Char) : Bool :=
  isFolded label && label.all fun c => c ≠ '.' && !isForbidden c

def decodeLabel? (code : List Char) : Option (List Char) :=
  if isEncoded code then (Punycode.decode? code).filter isDecoded else none

def readLabel? (text : List Char) : Option (List Char) :=
  (match unmarked? text with
    | some code => decodeLabel? code
    | none => some text).filter isLabel

def toAscii? (domain : List Char) : Option (List Char) := do
  let name ← folded? domain
  if name.any isForbidden then
    none
  else
    let labels ← (Text.pieces '.' name).mapM readLabel?
    if allKeepOrder labels then some (['.'].intercalate (labels.map labelToAscii)) else none

end GraphBrowser.Url.Domain
