import VulkanBindings.Naming.Native

/-!
# Lines of source text

The bindings are lists of lines.  A guard wraps lines into a conditional that
names it at both ends.  `Switch` has the macros by which a program that uses the
bindings chooses how they are compiled.
-/

namespace VulkanBindings.Wrapper

/-! ## Macros -/

namespace Switch

/-- Leaves the enhanced overloads out. -/
def disableEnhanced : String := "VKCPP_DISABLE_ENHANCED_MODE"

/-- Allows conversions between native handles and their wrappers. -/
def typesafeConversion : String := "VKCPP_TYPESAFE_CONVERSION"

/-- Says that unions may have members with constructors. -/
def unrestrictedUnions : String := "VKCPP_HAS_UNRESTRICTED_UNIONS"

/-- Replaces exceptions by assertions. -/
def noExceptions : String := "VKCPP_NO_EXCEPTIONS"

end Switch

/-! ## Lines and texts -/

/-- The lines under a macro that decides whether they are compiled. -/
def guarded (guard : String) (lines : List String) : List String :=
  if guard.isEmpty then lines
  else s!"#ifdef {guard}" :: lines ++ [s!"#endif /*{guard}*/"]

theorem mem_guarded {guard line : String} {lines : List String} (h : line ∈ lines) :
    line ∈ guarded guard lines := by
  unfold guarded
  split
  · exact h
  · exact List.mem_append_left _ (List.mem_cons_of_mem _ h)

theorem infix_guarded (guard : String) (lines : List String) : lines <:+: guarded guard lines := by
  unfold guarded
  split
  · exact List.infix_rfl
  · exact ⟨[s!"#ifdef {guard}"], [s!"#endif /*{guard}*/"], rfl⟩

/-- A list of parameters or values between parentheses. -/
def parenthesized (parts : List String) : String :=
  if parts.isEmpty then "()" else "( " ++ ", ".intercalate parts ++ " )"

/-- The opening brace of a block. -/
def openBrace : String := "\x7b"

/-- The closing brace of a block. -/
def closeBrace : String := "\x7d"

/-- A text between braces. -/
def braced (text : String) : String :=
  openBrace ++ " " ++ text ++ " " ++ closeBrace

/-- The field of a handle class that holds the native handle. -/
def handleField (handle : String) : String :=
  "m_" ++ Naming.lowerFirst handle

/-- A brackets' worth of array size, or nothing. -/
def brackets (arraySize : String) : String :=
  if arraySize.isEmpty then "" else s!"[{arraySize}]"

end VulkanBindings.Wrapper
