import VulkanBindings.Text.Quoted

/-!
# Text that cannot be used

What is wrong with a text that a computation cannot work on, and the message
for each case.
-/

namespace VulkanBindings.Text

/-- A reason why a computation on text has no result. -/
inductive Fault where
  /-- The text was to be cut at a marker that it does not hold. -/
  | markerAbsent (text marker : String)
  /-- A list of type arguments has no comma that ends the first of them. -/
  | commaAbsent
  /-- A run of digits holds one without a place value. -/
  | notANumber (digits : String)
  /-- A number begins with more digits than are read. -/
  | tooManyDigits (count : Nat)
  /-- The banner of a header needs the version it was made for. -/
  | versionEmpty
  /-- A report about a registry names a code outside the fixed list. -/
  | unknownRegistryCode (code : String)
  /-- A report about an option names a code outside the fixed list. -/
  | unknownConfigCode (code : String)
  deriving DecidableEq

namespace Fault

/-- The most characters of a quoted number that a message shows. -/
def shownDigits : Nat := 200

/-- The most digits of a number that is read. -/
def digitLimit : Nat := 4300

/-- The message for a fault. -/
def message : Fault → String
  | markerAbsent text marker => s!"{quoted text} does not contain {quoted marker}"
  | commaAbsent => "substring not found"
  | notANumber digits =>
    "invalid literal for int() with base 10: " ++
      String.ofList ((quoted digits).toList.take shownDigits)
  | tooManyDigits count =>
    s!"Exceeds the limit ({digitLimit} digits) for integer string conversion: " ++
      s!"value has {count} digits; use sys.set_int_max_str_digits() to increase the limit"
  | versionEmpty => "header_version must not be empty"
  | unknownRegistryCode code => s!"Unknown registry error code: {code}"
  | unknownConfigCode code => s!"Unknown config error code: {code}"

end Fault

end VulkanBindings.Text
