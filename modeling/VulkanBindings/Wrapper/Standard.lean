import VulkanBindings.Wrapper.NativeCall

/-!
# The standard overload

The overload that has the native signature, with wrapped types in place of
native ones.
-/

namespace VulkanBindings.Wrapper

open Registry (Command Member)

/-- The statement that calls the native command and returns what it returns. -/
def standardStatement (wrapped : NameSet) (name : String) (command : Command) : String :=
  let call := (standardCall wrapped name command).text
  if command.returnsVoid then s!"{call};"
  else if command.returnType ∈ wrapped then
    s!"return static_cast<{command.returnType}>( {call} );"
  else s!"return {call};"

/-- The line that declares the standard overload. -/
def standardHeader (functionName indent : String) (command : Command) : String :=
  let specifier := if command.isMethod then "" else "inline "
  let parameters := parenthesized ((ownArguments command).map Member.declaration)
  let qualifier := if command.isMethod then " const" else ""
  s!"{indent}{specifier}{command.returnType} {functionName}{parameters}{qualifier}"

/-- The standard overload of a command. -/
def standardLines (wrapped : NameSet) (name functionName indent : String) (command : Command) :
    List String :=
  guarded command.guard
    [standardHeader functionName indent command,
     indent ++ openBrace,
     s!"{indent}  {standardStatement wrapped name command}",
     indent ++ closeBrace]

end VulkanBindings.Wrapper
