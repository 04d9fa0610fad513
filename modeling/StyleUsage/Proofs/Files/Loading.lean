import StyleUsage.Command.Result
import StyleUsage.Proofs.Lists.Attempts
import StyleUsage.Proofs.Session.Conclusion

/-!
# Failures to load markup

A collection over files of a tree fails if a file cannot be read, if the reader of markup rejects
one, or if a NUL or want of room gets in the way of finding the files.
-/

namespace StyleUsage.Files

open Session Usage.Accumulator

section
variable {tree : Tree} {patterns : List String} {maxWorkers : Int} {failure : Failure}

end

end StyleUsage.Files

namespace StyleUsage.Session

open Usage.Accumulator

end StyleUsage.Session

namespace StyleUsage.Command

open Session Usage.Accumulator

end StyleUsage.Command
