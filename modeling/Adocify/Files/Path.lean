import Adocify.Text.Basic

/-! Paths of files and directories. -/

namespace Adocify

/-- The names on the way, outermost first. Repeated slashes and names that stay where they are leave
no trace. A path from the root begins with an empty name, any other leads from the working directory. -/
abbrev Path := List Text

namespace Path

def ofText (text : Text) : Path :=
  let names := (Text.splitOn '/' text).filter fun name => !name.isEmpty && name != ['.']
  if text.head? = some '/' then [] :: names else names

def toText : Path → Text
  | [] => ['.']
  | [[]] => ['/']
  | names => Text.join ['/'] names

def parent (path : Path) : Path := path.dropLast

def name (path : Path) : Text := path.getLast?.getD []

/-- A NUL stands in a name, where every name ends for the operating system. -/
def isBroken (path : Path) : Bool := path.any fun name => name.contains '\x00'

/-- The last dot and what follows it, unless the dot is the first or the last character. -/
def suffixOf (name : Text) : Text :=
  match name.reverse.takeWhile (· != '.') with
  | [] => []
  | reversed =>
    let start := name.length - reversed.length - 1
    if 0 < start && reversed.length < name.length then '.' :: reversed.reverse else []

def withSuffix (suffix : Text) (path : Path) : Path :=
  let name := path.name
  path.parent ++ [name.take (name.length - (suffixOf name).length) ++ suffix]

/-- The path with every step upwards undone together with the name before it. -/
def normalized (path : Path) : Path :=
  path.foldl (fun names name => if name = "..".toList && !names.isEmpty then names.dropLast else names ++ [name]) []

end Path

end Adocify
