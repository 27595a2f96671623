import VulkanBindings.Wrapper.Body
import VulkanBindings.Wrapper.Signature
import VulkanBindings.Wrapper.Standard

/-!
# The overloads of a command

A command has a standard and an enhanced overload.  Programs may leave the
enhanced overloads out.  Where the parameters of both would be the same, the
standard overload only stands in for the enhanced one.
-/

namespace VulkanBindings.Wrapper

open Analysis (Analyzed)
open Registry (Spec)

/-- The signature lines of the enhanced overload of a command. -/
def signatureLines (spec : Spec) (analyzed : Analyzed) (functionName indent : String) :
    Except Failure (List String) := do
  pure ((← signatureOf spec analyzed functionName).lines indent)

/-- The enhanced overload of a command. -/
def enhancedLines (spec : Spec) (analyzed : Analyzed) (className functionName indent : String) :
    Except Failure (List String) := do
  let signature ← signatureLines spec analyzed functionName indent
  let body ← bodyLines spec.wrapped analyzed className functionName indent
  pure (guarded analyzed.command.guard (signature ++ body))

/-- The standard overload, which the enhanced one replaces if the command has no
pointers. -/
def gatedStandardLines (spec : Spec) (analyzed : Analyzed) (functionName indent : String) :
    List String :=
  let standard := standardLines spec.wrapped analyzed.name functionName indent analyzed.command
  if analyzed.roles.hasPointers then standard
  else [s!"#ifdef {Switch.disableEnhanced}"] ++ standard ++
    [s!"#endif /*!{Switch.disableEnhanced}*/"]

/-- Both overloads of a command. -/
def overloadLines (spec : Spec) (analyzed : Analyzed) (className functionName indent : String) :
    Except Failure (List String) := do
  let enhanced ← enhancedLines spec analyzed className functionName indent
  pure (gatedStandardLines spec analyzed functionName indent ++
    ["", s!"#ifndef {Switch.disableEnhanced}"] ++ enhanced ++
    [s!"#endif /*{Switch.disableEnhanced}*/"])

/-- The free functions of a command; methods are written with their handle. -/
def freeFunctionLines (spec : Spec) (analyzed : Analyzed) : Except Failure (List String) :=
  if analyzed.command.isMethod then .ok []
  else overloadLines spec analyzed "" analyzed.name "  "

end VulkanBindings.Wrapper
