import StyleUsage.Command.Line
import StyleUsage.Proofs.Command.Checking
import StyleUsage.Proofs.Files.Loading

/-!
# How commands end

A command ends orderly if nothing escapes from it, its exit code is one of its own, and it tells
what has gone wrong if something has. What escapes are faults that nobody has thought of: patterns
that are at fault in an unusual way, paths with a NUL, markup that its reader rejects, patterns and
stylesheets for which there is no room, and, from one of the two commands only, file patterns that
are all empty.
-/

namespace StyleUsage.Command

open Session

section
variable {tree : Files.Tree} {program name parameters : String} {arguments : List String}
  {e : Escape} {r : Result} {request : CheckRequest}

/-! ## Commands that do not begin -/

end

end StyleUsage.Command
