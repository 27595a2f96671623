import VulkanBindings.Wrapper.Signature

/-!
# Results and exceptions

What the bindings do with result codes: the error category and the exceptions
made from them, and the functions that throw an exception or return a value.
-/

namespace VulkanBindings.Wrapper

open Registry (resultEnum voidType)

/-- A function that turns a result code into what a wrapper returns. -/
structure AnswerFunction where
  /-- Whether it is given a value to return. -/
  takesValue : Bool
  /-- Whether it is given the result codes that are no failure. -/
  takesCodes : Bool

namespace AnswerFunction

/-- What the function returns, if its value is of the given type. -/
def result (function : AnswerFunction) (type : String) : DeclaredType :=
  match function.takesValue, function.takesCodes with
  | false, false => .unlessFailed voidType
  | true, false => .unlessFailed type
  | false, true => .plain resultEnum
  | true, true => .withResult type

/-- What stands in front of the declared result. -/
def specifiers (function : AnswerFunction) : String :=
  if function.takesValue && !function.takesCodes then "  inline typename " else "  inline "

/-- The parameters, as they are declared. -/
def parameters (function : AnswerFunction) : List String :=
  ["Result result"] ++ (if function.takesValue then ["T & data"] else []) ++
    ["char const * message"] ++
    (if function.takesCodes then ["std::initializer_list<Result> successCodes"] else [])

/-- The line that declares the function. -/
def declarationLine (function : AnswerFunction) : String :=
  function.specifiers ++ (function.result "T").text ++ " createResultValue" ++
    parenthesized function.parameters

end AnswerFunction

namespace Fragment

/-- The error category of result codes and the exception with it. -/
def exceptions : List String :=
  ["  class ErrorCategoryImpl : public std::error_category",
   "  \x7b",
   "    public:",
   "    virtual const char* name() const noexcept override \x7b return \"vk::Result\"; \x7d",
   "    virtual std::string message(int ev) const override " ++
     "\x7b return to_string(static_cast<Result>(ev)); \x7d",
   "  \x7d;",
   "",
   "  inline const std::error_category& errorCategory()",
   "  \x7b",
   "    static ErrorCategoryImpl instance;",
   "    return instance;",
   "  \x7d",
   "",
   "  inline std::error_code make_error_code(Result e)",
   "  \x7b",
   "    return std::error_code(static_cast<int>(e), errorCategory());",
   "  \x7d",
   "",
   "  inline std::error_condition make_error_condition(Result e)",
   "  \x7b",
   "    return std::error_condition(static_cast<int>(e), errorCategory());",
   "  \x7d"]

/-- The declaration that result codes are error codes. -/
def isErrorCode : List String :=
  ["namespace std",
   "\x7b",
   "  template <>",
   "  struct is_error_code_enum<vk::Result> : public true_type",
   "  \x7b\x7d;",
   "\x7d"]

/-- The classes of values with a result code. -/
def resultValue : List String :=
  ["  template <typename T>",
   "  struct ResultValue",
   "  \x7b",
   "    ResultValue( Result r, T & v )",
   "      : result( r )",
   "      , value( v )",
   "    \x7b\x7d",
   "",
   "    Result  result;",
   "    T       value;",
   "  \x7d;",
   "",
   "  template <typename T>",
   "  struct ResultValueType",
   "  \x7b",
   s!"#ifdef {Switch.noExceptions}",
   "    typedef ResultValue<T>  type;",
   "#else",
   "    typedef T              type;",
   "#endif",
   "  \x7d;",
   "",
   "  template <>",
   "  struct ResultValueType<void>",
   "  \x7b",
   s!"#ifdef {Switch.noExceptions}",
   "    typedef Result type;",
   "#else",
   "    typedef void   type;",
   "#endif",
   "  \x7d;"]

/-- The functions that answer with a value or an exception. -/
def createResultValue : List String :=
  [AnswerFunction.declarationLine ⟨false, false⟩,
   "  \x7b",
   s!"#ifdef {Switch.noExceptions}",
   "    assert( result == Result::eSuccess );",
   "    return result;",
   "#else",
   "    if ( result != Result::eSuccess )",
   "    \x7b",
   "      throw std::system_error( result, message );",
   "    \x7d",
   "#endif",
   "  \x7d",
   "",
   "  template <typename T>",
   AnswerFunction.declarationLine ⟨true, false⟩,
   "  \x7b",
   s!"#ifdef {Switch.noExceptions}",
   "    assert( result == Result::eSuccess );",
   "    return ResultValue<T>( result, data );",
   "#else",
   "    if ( result != Result::eSuccess )",
   "    \x7b",
   "      throw std::system_error( result, message );",
   "    \x7d",
   "    return data;",
   "#endif",
   "  \x7d",
   "",
   AnswerFunction.declarationLine ⟨false, true⟩,
   "  \x7b",
   s!"#ifdef {Switch.noExceptions}",
   "    assert( std::find( successCodes.begin(), successCodes.end(), result ) != " ++
     "successCodes.end() );",
   "#else",
   "    if ( std::find( successCodes.begin(), successCodes.end(), result ) == " ++
     "successCodes.end() )",
   "    \x7b",
   "      throw std::system_error( result, message );",
   "    \x7d",
   "#endif",
   "    return result;",
   "  \x7d",
   "",
   "  template <typename T>",
   AnswerFunction.declarationLine ⟨true, true⟩,
   "  \x7b",
   s!"#ifdef {Switch.noExceptions}",
   "    assert( std::find( successCodes.begin(), successCodes.end(), result ) != " ++
     "successCodes.end() );",
   "#else",
   "    if ( std::find( successCodes.begin(), successCodes.end(), result ) == " ++
     "successCodes.end() )",
   "    \x7b",
   "      throw std::system_error( result, message );",
   "    \x7d",
   "#endif",
   "    return ResultValue<T>( result, data );",
   "  \x7d"]

end Fragment

end VulkanBindings.Wrapper
