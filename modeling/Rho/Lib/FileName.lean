import Mathlib.Data.String.Basic

/-!
# Names of files

What programs read off the names in a path: the extension of a file, the name in lower case, and the relative path as one text. A name
is a text, as the file systems of macOS keep names.
-/

namespace FileName

def toAsciiLowercase (text : String) : String := String.ofList (text.toList.map Char.toLower)

/-- What follows the last dot of a file's name, unless that is all of it. -/
def extension (name : String) : Option String :=
  match name.toList.reverse.dropWhile (· ≠ '.') with
  | [] | [_] => none
  | _ => some (String.ofList (name.toList.reverse.takeWhile (· ≠ '.')).reverse)

/-- The names joined by slashes, with backslashes read as slashes. -/
def slashed (names : List String) : String :=
  String.ofList (("/".intercalate names).toList.map (fun c => if c = '\\' then '/' else c))

end FileName
