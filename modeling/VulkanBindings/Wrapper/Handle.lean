import VulkanBindings.Wrapper.Overloads

/-!
# Handle classes

The class of a handle holds the native handle, converts to and from it, and has
a method for each command whose first parameter is the handle.
-/

namespace VulkanBindings.Wrapper

open Registry (Command Handle)

/-- The lines of a handle class before its methods. -/
def handleHeadLines (name : String) : List String :=
  let field := Naming.lowerFirst name
  [s!"  class {name}",
   "  \x7b",
   "  public:",
   s!"    {name}()",
   s!"      : m_{field}(VK_NULL_HANDLE)",
   "    \x7b\x7d",
   "",
   s!"#if defined({Switch.typesafeConversion})",
   s!"    {name}(Vk{name} {field})",
   s!"       : m_{field}({field})",
   "    \x7b\x7d",
   "",
   s!"    {name}& operator=(Vk{name} {field})",
   "    \x7b",
   s!"      m_{field} = {field};",
   "      return *this;",
   "    \x7d",
   "#endif",
   ""]

/-- The lines of a handle class after its methods. -/
def handleTailLines (name : String) : List String :=
  let field := Naming.lowerFirst name
  [s!"#if !defined({Switch.typesafeConversion})",
   "    explicit",
   "#endif",
   s!"    operator Vk{name}() const",
   "    \x7b",
   s!"      return m_{field};",
   "    \x7d",
   "",
   "    explicit operator bool() const",
   "    \x7b",
   s!"      return m_{field} != VK_NULL_HANDLE;",
   "    \x7d",
   "",
   "    bool operator!() const",
   "    \x7b",
   s!"      return m_{field} == VK_NULL_HANDLE;",
   "    \x7d",
   "",
   "  private:",
   s!"    Vk{name} m_{field};",
   "  \x7d;",
   s!"  static_assert( sizeof( {name} ) == sizeof( Vk{name} ), " ++
     "\"handle and wrapper have different size!\" );"]

/-- The lines of one method of a handle class, with the blank line after it. -/
def methodLines (context : Context) (handleName commandName : String) :
    Except Failure (List String) := do
  let analyzed ← context.command commandName
  let functionName := Command.wrapperName commandName analyzed.command
  let lines ← overloadLines context.spec analyzed handleName functionName "    "
  pure (lines ++ [""])

/-- The class of a handle. -/
def handleLines (context : Context) (name : String) (handle : Handle) :
    Except Failure (List String) := do
  let methods ← handle.commands.mapM (methodLines context name)
  pure (guarded handle.guard (handleHeadLines name ++ methods.flatten ++ handleTailLines name))

end VulkanBindings.Wrapper
