import VulkanBindings.NameSet
import VulkanBindings.Text.Fault

/-!
# Starts, endings and vendor tags of names

Native names carry the mark of the interface at their start and, when they
come from an extension, the tag of its vendor at their end.
-/

namespace VulkanBindings.Naming

/-- The name without `start`, when it begins so. -/
def withoutStart (start name : String) : String :=
  match Text.Chars.after? start.toList name.toList with
  | some rest => String.ofList rest
  | none => name

/-- The name without `start`, cut off at the last `marker` in what remains; an
empty marker cuts nothing off. -/
def between (start marker name : String) : Except Text.Fault String :=
  let rest := withoutStart start name
  if marker.isEmpty then
    .ok rest
  else
    match Text.cutLast? marker rest with
    | some (before, _) => .ok before
    | none => .error (.markerAbsent name marker)

/-- The first tag, in sorted order, that the name ends with, or the empty text.
The empty tag ends every name. -/
def tagOf (tags : NameSet) (name : String) : String :=
  (tags.names.find? (Text.endsWith · name)).getD ""

/-- The first tag, in sorted order, that stands before the underscore at the end
of the start of a group of enumerators, or the empty text. -/
def tagOfStart (tags : NameSet) (start : String) : String :=
  (tags.names.find? fun tag => Text.endsWith (tag ++ "_") start).getD ""

end VulkanBindings.Naming
