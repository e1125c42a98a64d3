import Promotion.Json.Writer
import Promotion.Text.Quoted

/-! Values inside messages: quoted texts, and words for null and the truth values. -/
namespace Promotion.Json

mutual
/-- A value as messages show it. -/
def shownChars : Json → List Char
  | .null => "None".toList
  | .bool true => "True".toList
  | .bool false => "False".toList
  | .int n => intText n
  | .float x => x.text
  | .str s => (Text.quoted s).toList
  | .arr [] => ['[', ']']
  | .arr (x :: xs) => '[' :: (shownChars x ++ shownItems xs)
  | .obj [] => ['\x7b', '\x7d']
  | .obj ((k, x) :: xs) =>
    '\x7b' :: ((Text.quoted k).toList ++ [':', ' '] ++ shownChars x ++ shownFields xs)

def shownItems : List Json → List Char
  | [] => [']']
  | x :: xs => ',' :: ' ' :: (shownChars x ++ shownItems xs)

def shownFields : List (String × Json) → List Char
  | [] => ['\x7d']
  | (k, x) :: xs =>
    ',' :: ' ' :: ((Text.quoted k).toList ++ [':', ' '] ++ shownChars x ++ shownFields xs)
end

def shown (x : Json) : String := String.ofList (shownChars x)

/-- A value set into running text: a text stands as it is, anything else as it is shown. -/
def plain : Json → String
  | .str s => s
  | x => x.shown

@[simp] theorem plain_str (s : String) : plain (.str s) = s := rfl

end Promotion.Json
