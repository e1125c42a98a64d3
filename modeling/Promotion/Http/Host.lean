import Promotion.DomainName.Label
import Promotion.Http.Percent
import Promotion.Text.Letter

/-! Hosts: names, four numbers with points between them, and addresses in brackets. -/
namespace Promotion.Http.Host

/-- The pieces of a text between the characters that satisfy a test. -/
def pieces (p : Char → Bool) : List Char → List (List Char)
  | [] => [[]]
  | c :: cs =>
    match pieces p cs with
    | [] => [[c]]
    | piece :: rest => if p c then [] :: piece :: rest else (c :: piece) :: rest

def isFigure (c : Char) : Bool := '0' ≤ c && c ≤ '9'

/-- Whether a host is four runs of digits with points between them. -/
def resemblesNumbers (host : List Char) : Bool :=
  let runs := pieces (· == '.') host
  runs.length = 4 && runs.all fun run => !run.isEmpty && run.all isFigure

/-- A number below 256 without zeros in front. -/
def isOctet (run : List Char) : Bool :=
  1 ≤ run.length && run.length ≤ 3 && (run.length = 1 || run.head? != some '0') &&
    match Text.ofDigits? run with
    | some n => n ≤ 255
    | none => false

/-- Whether a host is four numbers below 256 with points between them. -/
def isNumbers (host : List Char) : Bool :=
  let octets := pieces (· == '.') host
  octets.length = 4 && octets.all isOctet

/-- Up to four hexadecimal digits. -/
def isGroup (run : List Char) : Bool :=
  1 ≤ run.length && run.length ≤ 4 && run.all fun c => (Text.hexValue? c).isSome

/-- The groups of an address of eight; four numbers at the end are two groups. -/
def groups? (address : List Char) : Option (List (List Char)) :=
  let runs := pieces (· == ':') address
  match runs.getLast? with
  | some last =>
    if last.contains '.' then
      if isNumbers last then some (runs.dropLast ++ [['0'], ['0']]) else none
    else some runs
  | none => some runs

/-- Whether groups are eight, or fewer with one gap where zeros are left out. A gap is an empty
group inside; at either end it takes another one. -/
def isEight (runs : List (List Char)) : Bool :=
  let inner := runs.tail.dropLast
  let gaps := (inner.filter List.isEmpty).length
  let ends (run : Option (List Char)) (next : Option (List Char)) : Bool :=
    run != some [] || next == some []
  3 ≤ runs.length && runs.length ≤ 9 && runs.all (fun run => run.isEmpty || isGroup run) &&
    (if gaps = 0 then runs.length = 8 && !runs.any List.isEmpty
    else gaps = 1 && (runs.filter fun run => !run.isEmpty).length ≤ 7 &&
      ends runs.head? runs.tail.head? && ends runs.getLast? runs.dropLast.getLast?)

/-- Whether a text is an address of eight groups, with a zone behind a percent sign if any. -/
def isAddress (text : List Char) : Bool :=
  let zoneGood : Bool := match pieces (· == '%') text with
    | [_] => true
    | [_, zone] => !zone.isEmpty
    | _ => false
  zoneGood &&
    match groups? (text.takeWhile (· != '%')) with
    | some runs => isEight runs
    | none => false

/-- What stands in a name as it is: besides letters and digits all visible characters but `#/:<>?@`,
square brackets and the circumflex. -/
def nameSafe (c : Char) : Bool :=
  isVisible c && !(c == '#' || c == '/' || c == ':' || c == '<' || c == '>' || c == '?' ||
    c == '@' || c == '[' || c == ']' || c == '^')

/-- A name in small letters, also in the escapes. -/
def nameText (name : List Char) : List Char :=
  (percentEncode nameSafe (name.map Text.small)).map Text.small

/-- The written form of a host. Addresses stay as they are, and names are in small letters and in
ASCII. -/
def text? (host : List Char) : Option (List Char) :=
  if resemblesNumbers host then (if isNumbers host then some host else none)
  else if host.head? = some '[' ∧ host.getLast? = some ']' then
    if isAddress host.tail.dropLast then some host else none
  else if host.all fun c => decide (c.toNat < 0x80) then some (nameText host)
  else DomainName.text? host

end Promotion.Http.Host
