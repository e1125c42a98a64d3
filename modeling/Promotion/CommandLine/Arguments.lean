import Promotion.Calendar.Week
import Promotion.CommandLine.PathName
import Promotion.Json.Basic
import Promotion.Text.Quoted

/-! The arguments of the command line. Options may be shortened as long as no other one starts
alike; a value follows its option or stands behind an equals sign; behind `--` everything is taken
as it is. -/
namespace Promotion

inductive Switch where
  | help
  | name
  | salience
  | notStackable
  | inactive
  | validFrom
  | validUntil
  | tree
  | submit
  | verbose
  deriving DecidableEq, Repr

/-- The salience is a whole number where it was given, and what stands for it otherwise may be any
value but a text. -/
structure Arguments where
  graphFile : String
  name : String
  salience : Json
  stackable : Bool
  active : Bool
  validFrom : Option Date
  validUntil : Option Date
  tree : Bool
  submit : Bool
  verbose : Bool
  /-- The options that were given two dashes as their value, which leaves them with none. -/
  emptied : List Switch
  deriving DecidableEq

namespace Switch

/-- The spellings of the options, in the order in which they are told. -/
def spellings : List (String × Switch) :=
  [("-h", .help), ("--help", .help), ("--name", .name), ("--salience", .salience),
    ("--not-stackable", .notStackable), ("--inactive", .inactive), ("--valid-from", .validFrom),
    ("--valid-until", .validUntil), ("--tree", .tree), ("--submit", .submit),
    ("--verbose", .verbose), ("-v", .verbose)]

def ofSpelling? (s : String) : Option Switch :=
  (spellings.find? fun entry => entry.1 == s).map (·.2)

def takesValue : Switch → Bool
  | .name => true
  | .salience => true
  | .validFrom => true
  | .validUntil => true
  | _ => false

/-- All spellings of an option. -/
def label (s : Switch) : String :=
  String.intercalate "/" ((spellings.filter fun entry => entry.2 = s).map (·.1))

end Switch

/-- Why arguments are not taken. Asking for help is one reason. -/
inductive ArgumentFault where
  | help
  | ambiguous (given : String) (matching : List String)
  | valueMissing (switch : Switch)
  | valueIgnored (switch : Switch) (value : String)
  | notWhole (switch : Switch) (value : String)
  | notDay (switch : Switch) (value : String)
  | graphFileMissing
  | unrecognized (words : List String)
  deriving DecidableEq, Repr

namespace ArgumentFault

def ofSwitch (switch : Switch) (text : String) : String := s!"argument {switch.label}: {text}"

def message : ArgumentFault → String
  | .help => ""
  | .ambiguous given matching =>
    s!"ambiguous option: {given} could match " ++ String.intercalate ", " matching
  | .valueMissing switch => ofSwitch switch "expected one argument"
  | .valueIgnored switch value =>
    ofSwitch switch s!"ignored explicit argument {Text.quoted value}"
  | .notWhole switch value => ofSwitch switch s!"invalid int value: {Text.quoted value}"
  | .notDay switch value => ofSwitch switch s!"invalid fromisoformat value: {Text.quoted value}"
  | .graphFileMissing => "the following arguments are required: graph_file"
  | .unrecognized words => "unrecognized arguments: " ++ String.intercalate " " words

end ArgumentFault

/-- What an argument is, taken on its own: a plain word, the `--` behind which all words are plain,
an option with the value it carries behind an equals sign or behind its letter, or a word that looks
like an option but is none. -/
inductive Word where
  | plain (text : String)
  | dashes
  | option (switch : Switch) (spelling : String) (value : Option String)
  | unknown (text : String)
  deriving DecidableEq, Repr

namespace Word

def text : Word → String
  | .plain text => text
  | .dashes => "--"
  | .option _ spelling _ => spelling
  | .unknown text => text

/-- A number below zero: figures, or figures with a point among them. One line end may follow. -/
def isNegativeNumber (cs : List Char) : Bool :=
  match cs with
  | '-' :: cs =>
    let cs := if cs.getLast? = some '\n' then cs.dropLast else cs
    let isFigure (c : Char) : Bool := (Text.decimalValue? c).isSome
    match cs.dropWhile isFigure with
    | [] => !cs.isEmpty
    | '.' :: rest => !rest.isEmpty && rest.all isFigure
    | _ => false
  | _ => false

/-- A text before and behind its first equals sign. -/
def cutEquals (s : String) : String × Option String :=
  let cs := s.toList
  match cs.dropWhile (· != '=') with
  | [] => (s, none)
  | _ :: rest => (String.ofList (cs.takeWhile (· != '=')), some (String.ofList rest))

/-- The options that a word may stand for: a long one may be shortened, a short one may have its
value right behind it. -/
def candidates (s : String) : List Word :=
  if "--".toList.isPrefixOf s.toList then
    let (start, value) := cutEquals s
    (Switch.spellings.filter fun entry => start.toList.isPrefixOf entry.1.toList).map
      fun entry => .option entry.2 entry.1 value
  else
    let short := String.ofList (s.toList.take 2)
    Switch.spellings.filterMap fun entry =>
      if entry.1 == short then
        some (.option entry.2 entry.1 (some (String.ofList (s.toList.drop 2))))
      else if s.toList.isPrefixOf entry.1.toList then some (.option entry.2 entry.1 none)
      else none

/-- What a word is that starts with a dash and has more behind it. -/
def ofDashed (s : String) : Except ArgumentFault Word :=
  match Switch.ofSpelling? s, cutEquals s with
  | some switch, _ => .ok (.option switch s none)
  | none, (start, value) =>
    match value.bind fun _ => Switch.ofSpelling? start with
    | some switch => .ok (.option switch start value)
    | none =>
      match candidates s with
      | [word] => .ok word
      | [] =>
        if isNegativeNumber s.toList || s.toList.contains ' ' then .ok (.plain s)
        else .ok (.unknown s)
      | words => .error (.ambiguous s (words.map text))

/-- What a word is, taken on its own. -/
def ofText (s : String) : Except ArgumentFault Word :=
  match s.toList with
  | '-' :: _ :: _ => ofDashed s
  | _ => .ok (.plain s)

/-- What all words are. -/
def ofTexts : List String → Except ArgumentFault (List Word)
  | [] => .ok []
  | s :: rest =>
    if s = "--" then .ok (.dashes :: rest.map .plain)
    else do
      let word ← ofText s
      let words ← ofTexts rest
      pure (word :: words)

end Word

namespace Arguments

/-- What is known of the arguments so far. -/
structure Draft where
  arguments : Arguments
  hasFile : Bool
  hasSalience : Bool
  extra : List String

/-- The options that stand together behind one dash: the value of a short option is taken for more
letters. -/
def cluster (switch : Switch) : (value : List Char) → Except ArgumentFault (List Switch)
  | [] => .error (.valueIgnored switch "")
  | c :: rest =>
    match Switch.ofSpelling? (String.ofList ['-', c]), rest with
    | none, _ => .error (.valueIgnored switch (String.ofList (c :: rest)))
    | some other, [] => .ok [switch, other]
    | some other, rest => (cluster other rest).map fun more => switch :: more

/-- The options that a word without a value of its own stands for. -/
def flagsOf (switch : Switch) (spelling : String) :
    Option String → Except ArgumentFault (List Switch)
  | none => .ok [switch]
  | some text =>
    if "--".toList.isPrefixOf spelling.toList then .error (.valueIgnored switch text)
    else cluster switch text.toList

/-- Takes an option that has no value. -/
def setFlag (a : Arguments) : Switch → Except ArgumentFault Arguments
  | .help => .error .help
  | .notStackable => .ok { a with stackable := false }
  | .inactive => .ok { a with active := false }
  | .tree => .ok { a with tree := true }
  | .submit => .ok { a with submit := true }
  | .verbose => .ok { a with verbose := true }
  | _ => .ok a

def readDay (switch : Switch) (value : String) : Except ArgumentFault Date :=
  match Calendar.readDayArgument value with
  | some date => .ok date
  | none => .error (.notDay switch value)

def readSalience (value : String) : Except ArgumentFault Json :=
  match Number.readArgument value with
  | .ok n => .ok (.int n)
  | .error _ => .error (.notWhole .salience value)

/-- Takes an option with its value. -/
def setValue (a : Arguments) (switch : Switch) (value : String) :
    Except ArgumentFault Arguments := do
  match switch with
  | .name => return { a with name := value }
  | .salience => return { a with salience := ← readSalience value }
  | .validFrom => return { a with validFrom := some (← readDay switch value) }
  | .validUntil => return { a with validUntil := some (← readDay switch value) }
  | _ => return a

/-- Takes an option with its value. Two dashes are dropped, and leave it with none. -/
def takeValue (d : Draft) (switch : Switch) (value : String) : Except ArgumentFault Draft := do
  let others := d.arguments.emptied.filter (· != switch)
  let a ← if value = "--" then pure { d.arguments with emptied := switch :: others } else
    setValue { d.arguments with emptied := others } switch value
  return { d with arguments := a, hasSalience := d.hasSalience || switch = .salience }

/-- Takes the name of the graph file from a run of plain words, if it is still missing. -/
def takeFile (d : Draft) (words : List Word) : Draft × List Word :=
  if d.hasFile then (d, words)
  else
    let withFile (text : String) : Draft :=
      { d with arguments := { d.arguments with graphFile := PathName.short text }, hasFile := true }
    match words with
    | .dashes :: .plain text :: rest => (withFile text, rest)
    | .plain text :: .dashes :: rest => (withFile text, rest)
    | .plain text :: rest => (withFile text, rest)
    | words => (d, words)

/-- Takes a run of plain words; those that are left over are told of in the end. -/
def takeRun (d : Draft) (words : List Word) : Draft :=
  let (d, left) := takeFile d words
  { d with extra := d.extra ++ left.map Word.text }

/-- Takes words one after the other; `run` holds the plain words since the last option. -/
def take (d : Draft) (run : List Word) : List Word → Except ArgumentFault Draft
  | [] => .ok (takeRun d run)
  | .unknown text :: rest =>
    let d := takeRun d run
    take { d with extra := d.extra ++ [text] } [] rest
  | .option switch spelling value :: rest =>
    let d := takeRun d run
    if switch.takesValue then
      match value, rest with
      | some value, rest => do
        let d ← takeValue d switch value
        take d [] rest
      | none, .plain value :: rest => do
        let d ← takeValue d switch value
        take d [] rest
      | none, _ => .error (.valueMissing switch)
    else do
      let switches ← flagsOf switch spelling value
      let a ← switches.foldlM setFlag d.arguments
      take { d with arguments := a } [] rest
  | word :: rest => take d (run ++ [word]) rest

/-- The arguments before any word was taken. -/
def initial (salience : Json) : Arguments :=
  ⟨"", "", salience, true, true, none, none, false, false, false, []⟩

/-- Reads a salience that stands for one that was not given, if it is a text. -/
def settle (d : Draft) : Except ArgumentFault Draft :=
  match d.hasSalience, d.arguments.salience with
  | false, .str value =>
    (readSalience value).map fun salience => { d with arguments := { d.arguments with salience } }
  | _, _ => .ok d

/-- Reads the words of a command line; the salience is for when none is given. -/
def read (salience : Json) (texts : List String) : Except ArgumentFault Arguments := do
  let words ← Word.ofTexts texts
  let d ← take ⟨initial salience, false, false, []⟩ [] words
  let d ← settle d
  if !d.hasFile then throw .graphFileMissing
  if d.extra.isEmpty then pure d.arguments else throw (.unrecognized d.extra)

end Arguments
end Promotion
