import VulkanBindings.Failure
import VulkanBindings.Naming.Affix
import VulkanBindings.Naming.Case

/-!
# Native names and their counterparts

How the names of types, commands, parameters, enumerators and extensions of
the native interface become names of the bindings.
-/

namespace VulkanBindings.Naming

/-- The start of every native type name. -/
def typeStart : String := "Vk"

/-- The start of every native command name. -/
def commandStart : String := "vk"

/-- The first letter of every enumerator of the bindings. -/
def enumeratorMark : String := "e"

/-- The start of every native result code. -/
def resultStart : String := "VK_"

/-- The name of a type without the mark of the interface. -/
def typeName (name : String) : String :=
  withoutStart typeStart name

/-- The name of a command without the mark of the interface:
`vkCreateInstance` is `createInstance`. -/
def commandName (name : String) : String :=
  lowerFirst (withoutStart commandStart name)

/-- The native name of a command: `createInstance` is `vkCreateInstance`. -/
def nativeCommand (name : String) : String :=
  commandStart ++ upperFirst name

/-- The name of a parameter without its pointer marker: `pCreateInfo` is
`createInfo`, and `ppEnabled` is `pEnabled`. -/
def reduced (name : String) : String :=
  match name.toList with
  | 'p' :: c :: rest =>
    if Text.isUpper c || c == 'p' then String.ofList (Text.lower c ++ rest) else name
  | _ => name

/-- The enumerator of a native result code, its vendor tag kept. -/
def successCode (tags : NameSet) (code : String) : Except Text.Fault String := do
  let tag := tagOf tags code
  let stem ← between resultStart tag code
  pure (enumeratorMark ++ camelCase stem ++ tag)

/-- The tag of the vendor in an extension's name: its second word of at least
three. -/
def extensionTag (name : String) : Except Registry.Fault String :=
  match Text.fields '_' name with
  | _ :: tag :: _ :: _ => if tag.isEmpty then .error (.extensionWithoutTag name) else .ok tag
  | _ => .error (.extensionWithoutTag name)

/-- The name of the enum of bits behind a type of flags. -/
def flagBits (name : String) : Except Registry.Fault String :=
  match Text.cutLast? "Flags" name with
  | some (before, rest) => .ok (before ++ "FlagBits" ++ rest)
  | none => .error (.bitmaskWithoutFlags name)

end VulkanBindings.Naming
