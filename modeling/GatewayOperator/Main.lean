/-
This file is the program that writes the definition of the gateway resource.
-/

import GatewayOperator.Definition.Manifest

open GatewayOperator

/-- Writes the definition into its file. -/
def main : IO Unit := do
  IO.FS.createDirAll Definition.directory
  IO.print Definition.announcement
  IO.FS.writeFile (Definition.directory ++ "/" ++ Definition.fileName) Definition.manifest
  IO.print Definition.conclusion
