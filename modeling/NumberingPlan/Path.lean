import NumberingPlan.Text.Split

/-! Paths of files, cut at their slashes. Empty parts and single dots say nothing and are left
out. -/

namespace NumberingPlan

structure Path where
  root : String := ""
  parts : List String := []
  deriving DecidableEq, Repr

namespace Path

def isRooted (path : Path) : Bool := !path.root.isEmpty

/-- Two slashes at the beginning are a root of their own; more than two are one. -/
def rootOf (text : List Char) : String :=
  match (text.takeWhile (· == '/')).length with
  | 0 => ""
  | 2 => "//"
  | _ => "/"

def ofText (text : String) : Path :=
  { root := rootOf text.toList
    parts := ((Text.split '/' text.toList).map String.ofList).filter
      (fun part => !part.isEmpty && part != ".") }

/-- The path as it is written; one without parts is the directory itself. -/
def text (path : Path) : String :=
  if !path.isRooted && path.parts.isEmpty then "."
  else path.root ++ "/".intercalate path.parts

/-- Undoes a step up by leaving out the part before it, the last part first. Above the root there
is nothing. -/
def collapseOnto (rooted : Bool) : List String → List String → List String
  | above, [] => above.reverse
  | above, part :: rest =>
    if part == ".." then
      match above with
      | [] => collapseOnto rooted (if rooted then [] else [".."]) rest
      | last :: below =>
        if last == ".." then collapseOnto rooted (".." :: above) rest
        else collapseOnto rooted below rest
    else collapseOnto rooted (part :: above) rest

/-- The one path of a place, from the working directory on. -/
def resolve (working path : Path) : Path :=
  if path.isRooted then { root := "/", parts := collapseOnto true [] path.parts }
  else
    { root := working.root
      parts := collapseOnto working.isRooted [] (working.parts ++ path.parts) }

end Path

end NumberingPlan
