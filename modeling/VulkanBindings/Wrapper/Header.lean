import VulkanBindings.Wrapper.Entities
import VulkanBindings.Wrapper.Fragment.Classes
import VulkanBindings.Wrapper.Fragment.Preamble
import VulkanBindings.Wrapper.Fragment.Results

/-!
# The header

One header holds all bindings: the license and a banner, the preamble, the
helper classes, the result codes and what is done with them, and then all
entities in their order.
-/

namespace VulkanBindings.Wrapper

open Registry (resultEnum)

/-- What a header says about itself. -/
structure HeaderConfig where
  /-- The macro that keeps a header from being included twice. -/
  includeGuard : String
  /-- The version of the registry, and of the native header that it goes with. -/
  version : String
  /-- The name of the registry's file. -/
  source : String

namespace HeaderConfig

/-- The source of a header, with its version. -/
def sourceLabel (config : HeaderConfig) : String :=
  s!"{config.source} ({Registry.Fault.versionDefine} {config.version})"

end HeaderConfig

/-- The macro that guards a header unless another one is chosen. -/
def defaultIncludeGuard : String := "VK_CPP_H_"

/-- The name of a registry's file unless another one is given. -/
def defaultSource : String := "vk.xml"

/-- The line above and below a banner. -/
def bannerBorder : String := "// x-------------------------------------------x //"

/-- The banner of a header, which needs a version. -/
def bannerLines (config : HeaderConfig) : Except Text.Fault (List String) :=
  if config.version.isEmpty then
    .error .versionEmpty
  else
    .ok
      [bannerBorder,
       "// | Vulkan C++ bindings",
       "// | Generated by vkcpp-gen",
       s!"// | Source: {config.sourceLabel}",
       bannerBorder]

/-- The lines of a text, without newlines at its end. -/
def blockLines (text : String) : List String :=
  Text.fields '\n' (String.ofList (Text.Chars.trimEndBy (· == '\n') text.toList))

/-- The line that refuses a native header of another version. -/
def versionCheckLine (config : HeaderConfig) : String :=
  s!"static_assert( {Registry.Fault.versionDefine} == {config.version} , " ++
    "\"Wrong VK_HEADER_VERSION!\" );"

/-- The lines that open the namespace of the bindings. -/
def namespaceStart : List String := ["namespace vk", "\x7b"]

/-- The line that closes the namespace of the bindings. -/
def namespaceEnd : String := "\x7d // namespace vk"

/-- What stands in a header before the namespace of the bindings. -/
def preambleLines (config : HeaderConfig) (license typesafeCheck : String) :
    Except Text.Fault (List String) := do
  let banner ← bannerLines config
  pure (blockLines license ++ [""] ++ banner ++
    ["",
     s!"#ifndef {config.includeGuard}",
     s!"#define {config.includeGuard}",
     ""] ++
    Fragment.includes ++ ["", versionCheckLine config, ""] ++
    Fragment.typesafeComment ++
    [typesafeCheck, s!"#define {Switch.typesafeConversion} 1", "#endif", ""] ++
    Fragment.unrestrictedUnions ++ [""])

/-- What stands in a header between the preamble and the entities. -/
def supportLines (results : Registry.Enumeration) : List String :=
  namespaceStart ++ Fragment.flags ++ [""] ++ Fragment.optional ++ Fragment.arrayProxy ++ [""] ++
    enumLines resultEnum results ++ [""] ++
    enumToStringLines resultEnum results ++ [""] ++
    Fragment.exceptions ++ [namespaceEnd, ""] ++
    Fragment.isErrorCode ++ [""] ++
    namespaceStart ++ Fragment.resultValue ++ [""] ++ Fragment.createResultValue ++ [""]

/-- The text of a header: its lines, each ended by a newline. -/
def headerText (config : HeaderConfig) (context : Context) : Except Failure String := do
  let results ← context.enum resultEnum
  let preamble ← preambleLines config context.spec.license context.spec.typesafeCheck
  let types ← typeLines context
  let toStrings ← allToStringLines context
  let lines := preamble ++ supportLines results ++ types ++ toStrings ++
    [namespaceEnd, "", "#endif"]
  pure ("\n".intercalate lines ++ "\n")

/-- What the header of a registry says about itself. -/
def configOf (spec : Registry.Spec) (includeGuard source : String) : HeaderConfig :=
  ⟨includeGuard, spec.version, source⟩

/-- The header of a registry. -/
def compile (root : Xml.Node) (includeGuard source : String) : Except Failure String := do
  let context ← prepare root
  headerText (configOf context.spec includeGuard source) context

end VulkanBindings.Wrapper
