import VulkanBindings.Registry.Enumeration
import VulkanBindings.Wrapper.Lines

/-!
# Enums, flags and scalar types

The scoped enum of every native enum, the type of sets of its bits for every
type of flags, the alias of every scalar type, and the functions that turn
enumerators and sets of bits into text.
-/

namespace VulkanBindings.Wrapper

open Registry (Enumeration Enumerator)

/-- The lines of an enum's members; all but the last end with a comma. -/
def enumeratorLines : List Enumerator → List String
  | [] => []
  | [last] => [s!"    {last.name} = {last.value}"]
  | first :: rest => s!"    {first.name} = {first.value}," :: enumeratorLines rest

/-- The definition of an enum. -/
def enumLines (name : String) (enumeration : Enumeration) : List String :=
  guarded enumeration.guard <|
    [s!"  enum class {name}", "  \x7b"] ++ enumeratorLines enumeration.members ++ ["  \x7d;"]

/-- The function that turns a value without enumerators into a fixed text. -/
def constantToString (name text : String) : List String :=
  [s!"  inline std::string to_string({name})",
   "  \x7b",
   "    return \"" ++ text ++ "\";",
   "  \x7d"]

/-- The function that turns an enumerator into its name. -/
def enumToStringLines (name : String) (enumeration : Enumeration) : List String :=
  guarded enumeration.guard <|
    if enumeration.members.isEmpty then
      constantToString name "(void)"
    else
      [s!"  inline std::string to_string({name} value)",
       "  \x7b",
       "    switch (value)",
       "    \x7b"] ++
      enumeration.members.map (fun member =>
        s!"    case {name}::{member.name}: return \"{member.shown}\";") ++
      ["    default: return \"invalid\";",
       "    \x7d",
       "  \x7d"]

/-- The definition of a type of flags over an enum of bits. -/
def flagsLines (name guard bits : String) : List String :=
  guarded guard
    [s!"  using {name} = Flags<{bits}, Vk{name}>;",
     "",
     s!"  inline {name} operator|( {bits} bit0, {bits} bit1 )",
     "  \x7b",
     s!"    return {name}( bit0 ) | bit1;",
     "  \x7d"]

/-- The function that turns a set of bits into the list of their names. -/
def flagsToStringLines (name guard bits : String) (enumeration : Enumeration) : List String :=
  guarded guard <|
    if enumeration.members.isEmpty then
      constantToString name "\x7b\x7d"
    else
      [s!"  inline std::string to_string({name} value)",
       "  \x7b",
       "    if (!value) return \"\x7b\x7d\";",
       "    std::string result;"] ++
      enumeration.members.map (fun member =>
        s!"    if (value & {bits}::{member.name}) result += \"{member.shown} | \";") ++
      ["    return \"\x7b\" + result.substr(0, result.size() - 3) + \"\x7d\";",
       "  \x7d"]

/-- The alias of a scalar type. -/
def scalarLines (name guard underlying : String) : List String :=
  guarded guard [s!"  using {name} = {underlying};"]

end VulkanBindings.Wrapper
