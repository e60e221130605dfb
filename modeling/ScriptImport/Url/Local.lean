/-
# Paths of local files

A URL with segments and without a foreign host names a local file: the path is the segments with their
escapes undone.
-/

import ScriptImport.Url.Read

namespace ScriptImport
namespace Url

/-- Whether a path ends in a drive letter, which needs a slash behind it. -/
def endsInDrive (bytes : List UInt8) : Bool :=
  match bytes.reverse with
  | d :: c :: _ :: _ =>
    (d = 0x3a || d = 0x7c) && ((0x41 ≤ c && c ≤ 0x5a) || (0x61 ≤ c && c ≤ 0x7a))
  | _ => false

/-- The bytes of the path of a local file. -/
def localPath? (u : Url) : Option (List UInt8) :=
  match u.path with
  | .text _ => none
  | .segments parts =>
    let host := (u.server.map (·.host)).getD ""
    if host = "" ∨ host = "localhost" then
      let bytes := parts.flatMap fun part => 0x2f :: unescape part.toList
      some (if endsInDrive bytes then bytes ++ [0x2f] else bytes)
    else none

end Url
end ScriptImport
