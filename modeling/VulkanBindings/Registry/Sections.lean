import VulkanBindings.Registry.Commands
import VulkanBindings.Registry.Enums
import VulkanBindings.Registry.Extensions
import VulkanBindings.Registry.Types

/-!
# The whole registry

The sections of a registry may come in any order.  They are read in a fixed
order of kinds, so that each finds what it builds on, and in document order
within a kind.  `Spec.ofRegistry` is the result of reading all of them, and
`Spec.validate` checks what the bindings cannot do without.
-/

namespace VulkanBindings.Registry

open Xml (Node)

/-- The kinds of sections that are read. -/
inductive Section where
  | comment
  | tags
  | types
  | enums
  | commands
  | extensions
  deriving DecidableEq

namespace Section

/-- The kinds in the order in which they are read: tags before the enums whose
start they end, handles before their methods, and all that an extension guards
before the extension. -/
def all : List Section :=
  [comment, tags, types, enums, commands, extensions]

/-- The tag of a kind of section. -/
def tag : Section → String
  | comment => "comment"
  | tags => "tags"
  | types => "types"
  | enums => "enums"
  | commands => "commands"
  | extensions => "extensions"

/-- The kind of section with the given tag. -/
def ofTag? (tag : String) : Option Section :=
  all.find? (·.tag == tag)

end Section

/-- The tags of sections that are passed over. -/
def ignoredSections : List String := ["feature", "vendorids"]

/-- The rule under the license in the comment of a registry. -/
def licenseEnd : String := "\n\n-----"

/-- The line below the license in the bindings. -/
def generatedNote : String :=
  "// This header is generated from the Khronos Vulkan XML API Registry."

/-- The license as comment lines, with a note below them. -/
def licenseLines (license : String) : List String :=
  let text := String.ofList (Text.Chars.trimBy (· == '\n') license.toList)
  (Text.fields '\n' text).map (fun line => Text.trimEnd ("// " ++ line)) ++ ["", generatedNote]

/-- Reads the comment of a registry. -/
def readComment (node : Node) (spec : Spec) : Except Fault Spec :=
  match Text.cut? licenseEnd node.text with
  | some (license, _) => .ok { spec with license := "\n".intercalate (licenseLines license) }
  | none => .error .commentWithoutRule

/-- Reads the tags section. -/
def readTags (node : Node) (spec : Spec) : Except Fault Spec :=
  node.children.foldlM
    (fun spec child => do
      if child.tag == "tag" then
        pure { spec with tags := spec.tags.insert (← requireAttribute child "name") }
      else
        throw (unexpectedChild node child))
    spec

/-- Reads a section of the given kind. -/
def Section.read (kind : Section) (node : Node) (spec : Spec) : Except Failure Spec :=
  match kind with
  | .comment => readComment node spec
  | .tags => readTags node spec
  | .types => readTypes node spec
  | .enums => readEnums node spec
  | .commands => readCommands node spec
  | .extensions => readExtensions node spec

/-- The sections of a registry that are read, each with its kind, in document
order.  An unknown section is refused. -/
def sectionsOf (root : Node) : Except Fault (List (Section × Node)) :=
  let sections := root.children.filter fun child => !ignoredSections.contains child.tag
  sections.mapM fun child =>
    match Section.ofTag? child.tag with
    | some kind => .ok (kind, child)
    | none => .error (.unknownSection child.tag)

/-- The sections in the order in which they are read. -/
def readingOrder (sections : List (Section × Node)) : List (Section × Node) :=
  Section.all.flatMap fun kind => sections.filter (·.1 == kind)

/-- The root element, if it is that of a registry. -/
def requireRegistry (root : Node) : Except Fault Node :=
  if root.tag == "registry" then .ok root else .error (.notARegistry root.tag)

namespace Spec

/-- What a registry says. -/
def ofRegistry (root : Node) : Except Failure Spec := do
  let sections ← sectionsOf root
  if (sections.filter (·.1 == .comment)).length > 1 then
    throw (.registry .repeatedComment)
  (readingOrder sections).foldlM (fun spec (kind, node) => kind.read node spec) initial

/-- Refuses a spec without result codes, without a version or without the
condition for handles. -/
def validate (spec : Spec) : Except Fault Unit :=
  if !spec.enums.contains resultEnum then .error .noResultEnum
  else if spec.version.isEmpty then .error .noHeaderVersion
  else if spec.typesafeCheck.isEmpty then .error .noHandleDefine
  else .ok ()

/-- The names that count as written before the first entity. -/
def builtinNames : NameSet := NameSet.ofList [flagsStorage]

/-- The entities in an order in which each follows what it needs. -/
def ordered (spec : Spec) : Except Deadlock (List Entity) :=
  (Order.positions builtinNames (spec.entities.map Entity.toItem)).map
    fun positions => positions.filterMap (spec.entities[·]?)

end Spec

end VulkanBindings.Registry
