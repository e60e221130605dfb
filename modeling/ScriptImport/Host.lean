/-
# The machine that scripts run on
-/

import ScriptImport.Dict

namespace ScriptImport

/-- What scripts can learn about the machine. -/
structure Host where
  home : Option String
  temporary : String
  directory : Option String
  environment : Dict String
  processId : Nat
  platform : String
  architecture : String
  deriving DecidableEq

end ScriptImport
