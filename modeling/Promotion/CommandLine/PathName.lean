/-! Names of files: their short form, in which no part is idle. -/
namespace Promotion.PathName

/-- The parts of a name between slashes; those that lead nowhere are left out. -/
def parts (cs : List Char) : List (List Char) :=
  (split [] cs).filter fun part => part != [] && part != ['.']
where
  /-- The pieces between slashes, behind a piece that was begun. -/
  split (begun : List Char) : List Char → List (List Char)
    | [] => [begun]
    | c :: cs => if c = '/' then begun :: split [] cs else split (begun ++ [c]) cs

/-- The slashes that a name starts with, as far as they count: two are kept, more stand for one. -/
def root (cs : List Char) : List Char :=
  match cs.takeWhile (· == '/') with
  | [] => []
  | ['/', '/'] => ['/', '/']
  | _ => ['/']

/-- The short form of a name. -/
def short (s : String) : String :=
  let cs := s.toList
  match root cs, parts cs with
  | [], [] => "."
  | root, parts => String.ofList (root ++ List.intercalate ['/'] parts)

end Promotion.PathName
