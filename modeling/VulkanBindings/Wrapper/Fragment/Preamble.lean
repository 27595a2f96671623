import VulkanBindings.Wrapper.Lines

/-!
# The start of a header

What stands before the namespace of the bindings: the includes, and the checks
of what the compiler and the platform allow.
-/

namespace VulkanBindings.Wrapper.Fragment

/-- The includes of a header. -/
def includes : List String :=
  ["#include <algorithm>",
   "#include <array>",
   "#include <cassert>",
   "#include <cstddef>",
   "#include <cstdint>",
   "#include <cstring>",
   "#include <initializer_list>",
   "#include <stdexcept>",
   "#include <string>",
   "#include <system_error>",
   "#include <type_traits>",
   "#include <vulkan/vulkan.h>",
   s!"#ifndef {Switch.disableEnhanced}",
   "# include <memory>",
   "# include <vector>",
   s!"#endif /*{Switch.disableEnhanced}*/"]

/-- The comment above the condition for handles. -/
def typesafeComment : List String :=
  ["// 32-bit vulkan is not typesafe for handles, so don't allow copy constructors on " ++
     "this platform by default.",
   s!"// To enable this feature on 32-bit platforms please define {Switch.typesafeConversion}"]

/-- The check whether unions may have members with constructors. -/
def unrestrictedUnions : List String :=
  [s!"#if !defined({Switch.unrestrictedUnions})",
   "# if defined(__clang__)",
   "#  if __has_feature(cxx_unrestricted_unions)",
   s!"#   define {Switch.unrestrictedUnions}",
   "#  endif",
   "# elif defined(__GNUC__)",
   "#  define VKCPP_GCC_VERSION (__GNUC__ * 10000 + __GNUC_MINOR__ * 100 + __GNUC_PATCHLEVEL__)",
   "#  if 40600 <= VKCPP_GCC_VERSION",
   s!"#   define {Switch.unrestrictedUnions}",
   "#  endif",
   "# elif defined(_MSC_VER)",
   "#  if 1900 <= _MSC_VER",
   s!"#   define {Switch.unrestrictedUnions}",
   "#  endif",
   "# endif",
   "#endif"]

end VulkanBindings.Wrapper.Fragment
