import VulkanBindings.CommandLine.Config
import VulkanBindings.Text.Number
import VulkanBindings.Wrapper.Header

/-!
# Options

The arguments of the program are options with values.  An option may be
abbreviated as long as no other begins so, its value is the next argument or
stands after an equals sign, and of several values of one option the last
holds.  An argument that looks like an option is no value, unless it is a
negative number or holds a blank.  Nothing but options is accepted.

Readers of arguments differ in what a separator after an equals sign is, and in
what may stand behind the letter of help; an `ArgumentRule` tells which one is
followed.
-/

namespace VulkanBindings.CommandLine

open Files (Path)

/-- The options of the program. -/
inductive OptionKind where
  | help
  | setting (setting : Setting)
  deriving DecidableEq

/-- The spellings of all options. -/
def spellings : List (String × OptionKind) :=
  [("-h", .help), ("--help", .help), ("--vk-xml", .setting .registry),
   ("--output", .setting .output), ("--include-guard", .setting .includeGuard)]

/-- An argument, as far as it can be told by itself. -/
inductive Word where
  /-- An option, perhaps with a value of its own. -/
  | option (kind : OptionKind) (value : Option String)
  /-- The letter of help with more behind it, perhaps after an equals sign. -/
  | letters (assigned : Bool) (more : List Char)
  /-- An argument that looks like an option, but is none. -/
  | unknown
  /-- An argument that can be a value. -/
  | plain (text : String)
  /-- The mark after which nothing is an option. -/
  | separator

/-- Whether a text is a run of decimal digits of any script. -/
def isDecimal (text : List Char) : Bool :=
  text.all fun c => (Text.digitValue? c).isSome

/-- Whether a text is a negative number, whole or with a point before its last
digits. -/
def isNegativeNumber (text : List Char) : Bool :=
  match withoutNewline text with
  | '-' :: number =>
    match Text.Chars.cut? ['.'] number with
    | none => !number.isEmpty && isDecimal number
    | some (whole, fraction) => isDecimal whole && !fraction.isEmpty && isDecimal fraction
  | _ => false

/-- The option that a text before an equals sign spells out, with what follows
the sign as its value. -/
def assigned? (argument : String) : Option Word := do
  let (spelling, value) ← Text.cut? "=" argument
  if spelling == "-h" then
    pure (.letters true value.toList)
  else
    let kind ← spellings.lookup spelling
    pure (.option kind (some value))

/-- The options that an argument with two dashes abbreviates. -/
def longCandidates (argument : String) : List Word :=
  let (start, value) := match Text.cut? "=" argument with
    | some (start, value) => (start, some value)
    | none => (argument, none)
  (spellings.filter fun (spelling, _) => Text.beginsWith start spelling).map
    fun (_, kind) => .option kind value

/-- What an argument with one dash stands for: its first letter may be that of
help, the only option of one letter. -/
def shortCandidates (argument : String) : List Word :=
  match Text.Chars.after? ['-', 'h'] argument.toList with
  | some more => [.letters false more]
  | none => []

/-- What an argument that begins with a dash is when it spells no option out, or
`none` if it abbreviates several. -/
def abbreviated? (argument : String) : Option Word :=
  let candidates :=
    match argument.toList with
    | '-' :: '-' :: _ => longCandidates argument
    | _ => shortCandidates argument
  match candidates with
  | [candidate] => some candidate
  | _ :: _ :: _ => none
  | [] =>
    if isNegativeNumber argument.toList || argument.toList.contains ' ' then
      some (.plain argument)
    else
      some .unknown

/-- What an argument is by itself, or `none` if it abbreviates several options. -/
def word? (argument : String) : Option Word :=
  if !Text.beginsWith "-" argument || argument == "-" then
    some (.plain argument)
  else
    match spellings.lookup argument with
    | some kind => some (.option kind none)
    | none =>
      match assigned? argument with
      | some word => some word
      | none => abbreviated? argument

/-- The argument that separates options from what is none. -/
def separator : String := "--"

/-- What the arguments are by themselves; after a separator nothing is an
option. -/
def words? : List String → Option (List Word)
  | [] => some []
  | argument :: rest =>
    if argument == separator then
      some (.separator :: rest.map .plain)
    else do
      let word ← word? argument
      pure (word :: (← words? rest))

/-- What the arguments ask for. -/
inductive Request where
  | run (settings : Settings)
  | help
  /-- The arguments are not understood. -/
  | misuse

/-- Where the registry is unless another place is given. -/
def defaultRegistry : String := "Vulkan-Docs/src/spec/vk.xml"

/-- Where the header goes unless another place is given. -/
def defaultOutput : String := "vulkan/vk_cpp.hpp"

namespace Settings

/-- The settings of a run that is told nothing. -/
def initial : Settings :=
  { registry := some (Path.ofText defaultRegistry)
    output := some (Path.ofText defaultOutput)
    includeGuard := some Wrapper.defaultIncludeGuard }

/-- The settings with a value in place of another. -/
def give (settings : Settings) (setting : Setting) (value : Option String) : Settings :=
  match setting with
  | .registry => { settings with registry := value.map Path.ofText }
  | .output => { settings with output := value.map Path.ofText }
  | .includeGuard => { settings with includeGuard := value }

end Settings

/-- How arguments are read where their readers differ. -/
structure ArgumentRule where
  /-- The value of a setting that a text after an equals sign gives. -/
  value? : (text : String) → Option String
  /-- Whether help is given in spite of what stands behind its letter. -/
  givesHelp : (assigned : Bool) → (more : List Char) → Bool

namespace ArgumentRule

/-- The earlier rule: a separator after an equals sign leaves a setting without a value,
and the letter of help may only be repeated. -/
def earlier : ArgumentRule where
  value? text := if text == separator then none else some text
  givesHelp _ more := !more.isEmpty && more.all (· == 'h')

/-- Whether help is given as letters are read one by one: the first that is none of its own
is not minded, unless it is a dash or, after another letter, an equals sign. -/
def startsHelp : (more : List Char) → Bool
  | [] | '-' :: _ | 'h' :: '=' :: _ => false
  | ['h'] => true
  | 'h' :: more => startsHelp more
  | _ => true

/-- The later rule: every text after an equals sign is a value, and the letter of help may
have others behind it. -/
def later : ArgumentRule where
  value? := some
  givesHelp assigned more := !assigned && startsHelp more

end ArgumentRule

section Request

variable (rule : ArgumentRule)

/-- What words ask for, in place of `settings`.  `strays` tells whether there was
something that is no option; help is given all the same. -/
def requestOf (strays : Bool) (settings : Settings) : List Word → Request
  | [] => if strays then .misuse else .run settings
  | .letters assigned more :: _ => if rule.givesHelp assigned more then .help else .misuse
  | .option .help none :: _ => .help
  | .option .help (some _) :: _ => .misuse
  | .option (.setting setting) (some text) :: rest =>
    requestOf strays (settings.give setting (rule.value? text)) rest
  | .option (.setting setting) none :: .plain value :: rest =>
    requestOf strays (settings.give setting (some value)) rest
  | .option .. :: _ => .misuse
  | _ :: rest => requestOf true settings rest

/-- What the arguments of the program ask for. -/
def request (arguments : List String) : Request :=
  match words? arguments with
  | some words => requestOf rule false .initial words
  | none => .misuse

end Request

end VulkanBindings.CommandLine
