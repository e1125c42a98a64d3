import Promotion.DomainName.Composition
import Promotion.DomainName.Context
import Promotion.DomainName.Direction
import Promotion.DomainName.Letter
import Promotion.DomainName.Punycode
import Promotion.DomainName.Small

/-! Domain names: labels with points between them. A label with other characters than ASCII is
written in ASCII behind a mark of its own. -/
namespace Promotion.DomainName

/-- Whether hyphens stand where they may: not at the ends, and not as third and fourth character. -/
def hyphensFit (label : List Nat) : Bool :=
  label.head? != some 0x2d && label.getLast? != some 0x2d && (label.drop 2).take 2 != [0x2d, 0x2d]

/-- Whether a text is a label as it stands. -/
def isLabel (label : List Nat) : Bool :=
  !label.isEmpty && composed label == label && hyphensFit label &&
    !(label.head?.map isMark).getD false && label.all isLetter && fitAll [] label &&
    readsOneWay label

/-- The mark in front of a label that is written in ASCII. -/
def asciiMark : List Char := "xn--".toList

def maxLabel : Nat := 63

/-- The greatest length of a name, not counting a point at its end. -/
def maxName : Nat := 253

/-- Whether a text behind the mark stands for a label. -/
def isMarked (cs : List Char) : Bool :=
  !cs.isEmpty && cs.getLast? != some '-' && ((Punycode.decode? cs).map isLabel).getD false

/-- The ASCII form of a label. -/
def labelText? (label : List Nat) : Option (List Char) :=
  let cs := label.map Char.ofNat
  let isValid :=
    if label.all (· < 0x80) && asciiMark.isPrefixOf cs then isMarked (cs.drop asciiMark.length)
    else isLabel label
  let text := if label.all (· < 0x80) then cs else asciiMark ++ Punycode.encode label
  if isValid && text.length ≤ maxLabel then some text else none

/-- The four characters that stand between labels. -/
def isPoint (n : Nat) : Bool := n == 0x2e || n == 0x3002 || n == 0xff0e || n == 0xff61

/-- The labels of a name. -/
def labels : List Nat → List (List Nat)
  | [] => [[]]
  | n :: rest =>
    match labels rest with
    | [] => [[n]]
    | label :: more => if isPoint n then [] :: label :: more else (n :: label) :: more

/-- The ASCII form of a name in any letters. One point at its end is kept. -/
def text? (name : List Char) : Option (List Char) := do
  let name := small (name.map Char.toNat)
  let parts := labels name
  let isClosed := parts.getLast? == some []
  if maxName + 1 < name.length then none
  else
    let texts ← (if isClosed then parts.dropLast else parts).mapM labelText?
    let text := List.intercalate ['.'] texts
    if texts.isEmpty || maxName < text.length then none
    else some (if isClosed then text ++ ['.'] else text)

end Promotion.DomainName
