import VulkanBindings.Wrapper.Lines

/-!
# Helper classes

The class templates that the bindings take and return values through: sets of
bits, values that may be absent, and views of arrays.
-/

namespace VulkanBindings.Wrapper.Fragment

/-- The class of sets of bits. -/
def flags : List String :=
  ["  template <typename BitType, typename MaskType = uint32_t>",
   "  class Flags",
   "  \x7b",
   "  public:",
   "    Flags()",
   "      : m_mask(0)",
   "    \x7b",
   "    \x7d",
   "",
   "    Flags(BitType bit)",
   "      : m_mask(static_cast<MaskType>(bit))",
   "    \x7b",
   "    \x7d",
   "",
   "    Flags(Flags const& rhs)",
   "      : m_mask(rhs.m_mask)",
   "    \x7b",
   "    \x7d",
   "",
   "    Flags & operator=(Flags const& rhs)",
   "    \x7b",
   "      m_mask = rhs.m_mask;",
   "      return *this;",
   "    \x7d",
   "",
   "    Flags & operator|=(Flags const& rhs)",
   "    \x7b",
   "      m_mask |= rhs.m_mask;",
   "      return *this;",
   "    \x7d",
   "",
   "    Flags & operator&=(Flags const& rhs)",
   "    \x7b",
   "      m_mask &= rhs.m_mask;",
   "      return *this;",
   "    \x7d",
   "",
   "    Flags & operator^=(Flags const& rhs)",
   "    \x7b",
   "      m_mask ^= rhs.m_mask;",
   "      return *this;",
   "    \x7d",
   "",
   "    Flags operator|(Flags const& rhs) const",
   "    \x7b",
   "      Flags result(*this);",
   "      result |= rhs;",
   "      return result;",
   "    \x7d",
   "",
   "    Flags operator&(Flags const& rhs) const",
   "    \x7b",
   "      Flags result(*this);",
   "      result &= rhs;",
   "      return result;",
   "    \x7d",
   "",
   "    Flags operator^(Flags const& rhs) const",
   "    \x7b",
   "      Flags result(*this);",
   "      result ^= rhs;",
   "      return result;",
   "    \x7d",
   "",
   "    bool operator!() const",
   "    \x7b",
   "      return !m_mask;",
   "    \x7d",
   "",
   "    bool operator==(Flags const& rhs) const",
   "    \x7b",
   "      return m_mask == rhs.m_mask;",
   "    \x7d",
   "",
   "    bool operator!=(Flags const& rhs) const",
   "    \x7b",
   "      return m_mask != rhs.m_mask;",
   "    \x7d",
   "",
   "    explicit operator bool() const",
   "    \x7b",
   "      return !!m_mask;",
   "    \x7d",
   "",
   "    explicit operator MaskType() const",
   "    \x7b",
   "        return m_mask;",
   "    \x7d",
   "",
   "  private:",
   "    MaskType  m_mask;",
   "  \x7d;",
   "",
   "  template <typename BitType, typename MaskType>",
   "  Flags<BitType, MaskType> operator|(BitType bit, Flags<BitType, MaskType> const& flags)",
   "  \x7b",
   "    return flags | bit;",
   "  \x7d",
   "",
   "  template <typename BitType, typename MaskType>",
   "  Flags<BitType, MaskType> operator&(BitType bit, Flags<BitType, MaskType> const& flags)",
   "  \x7b",
   "    return flags & bit;",
   "  \x7d",
   "",
   "  template <typename BitType, typename MaskType>",
   "  Flags<BitType, MaskType> operator^(BitType bit, Flags<BitType, MaskType> const& flags)",
   "  \x7b",
   "    return flags ^ bit;",
   "  \x7d"]

/-- The class of values that may be absent. -/
def optional : List String :=
  ["  template <typename RefType>",
   "  class Optional",
   "  \x7b",
   "  public:",
   "    Optional(RefType & reference) \x7b m_ptr = &reference; \x7d",
   "    Optional(std::nullptr_t) \x7b m_ptr = nullptr; \x7d",
   "",
   "    operator RefType*() const \x7b return m_ptr; \x7d",
   "    RefType const* operator->() const \x7b return m_ptr; \x7d",
   "    explicit operator bool() const \x7b return !!m_ptr; \x7d",
   "",
   "  private:",
   "    RefType *m_ptr;",
   "  \x7d;"]

/-- The class of views of arrays. -/
def arrayProxy : List String :=
  ["",
   s!"#ifndef {Switch.disableEnhanced}",
   "  template <typename T>",
   "  class ArrayProxy",
   "  \x7b",
   "  public:",
   "    ArrayProxy(std::nullptr_t)",
   "      : m_count(0)",
   "      , m_ptr(nullptr)",
   "    \x7b\x7d",
   "",
   "    ArrayProxy(T & ptr)",
   "      : m_count(1)",
   "      , m_ptr(&ptr)",
   "    \x7b\x7d",
   "",
   "    ArrayProxy(uint32_t count, T * ptr)",
   "      : m_count(count)",
   "      , m_ptr(ptr)",
   "    \x7b\x7d",
   "",
   "    template <size_t N>",
   "    ArrayProxy(std::array<typename std::remove_const<T>::type, N> & data)",
   "      : m_count(N)",
   "      , m_ptr(data.data())",
   "    \x7b\x7d",
   "",
   "    template <size_t N>",
   "    ArrayProxy(std::array<typename std::remove_const<T>::type, N> const& data)",
   "      : m_count(N)",
   "      , m_ptr(data.data())",
   "    \x7b\x7d",
   "",
   "    template <class Allocator = std::allocator<typename std::remove_const<T>::type>>",
   "    ArrayProxy(std::vector<typename std::remove_const<T>::type, Allocator> & data)",
   "      : m_count(static_cast<uint32_t>(data.size()))",
   "      , m_ptr(data.data())",
   "    \x7b\x7d",
   "",
   "    template <class Allocator = std::allocator<typename std::remove_const<T>::type>>",
   "    ArrayProxy(std::vector<typename std::remove_const<T>::type, Allocator> const& data)",
   "      : m_count(static_cast<uint32_t>(data.size()))",
   "      , m_ptr(data.data())",
   "    \x7b\x7d",
   "",
   "    ArrayProxy(std::initializer_list<T> const& data)",
   "      : m_count(static_cast<uint32_t>(data.end() - data.begin()))",
   "      , m_ptr(data.begin())",
   "    \x7b\x7d",
   "",
   "    const T * begin() const",
   "    \x7b",
   "      return m_ptr;",
   "    \x7d",
   "",
   "    const T * end() const",
   "    \x7b",
   "      return m_ptr + m_count;",
   "    \x7d",
   "",
   "    const T & front() const",
   "    \x7b",
   "      assert(m_count && m_ptr);",
   "      return *m_ptr;",
   "    \x7d",
   "",
   "    const T & back() const",
   "    \x7b",
   "      assert(m_count && m_ptr);",
   "      return *(m_ptr + m_count - 1);",
   "    \x7d",
   "",
   "    bool empty() const",
   "    \x7b",
   "      return (m_count == 0);",
   "    \x7d",
   "",
   "    uint32_t size() const",
   "    \x7b",
   "      return m_count;",
   "    \x7d",
   "",
   "    T * data() const",
   "    \x7b",
   "      return m_ptr;",
   "    \x7d",
   "",
   "  private:",
   "    uint32_t  m_count;",
   "    T *       m_ptr;",
   "  \x7d;",
   "#endif"]

end VulkanBindings.Wrapper.Fragment
