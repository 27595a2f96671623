import VulkanBindings.Naming.Native

/-!
# Enums

An enum and the names of its enumerators.  The native name of an enumerator is
its value in the bindings; its own name is derived from the native one by
`Enumeration.nameOf`.  `Enumeration.add` makes a new enum, and `Enumeration.append`
works on one that is kept as state and survives a failure.
-/

namespace VulkanBindings.Registry

open Naming (between camelCase enumeratorMark)

/-- An enumerator of the bindings and its native value. -/
structure Enumerator where
  name : String
  value : String
  deriving DecidableEq

namespace Enumerator

/-- The name without the mark of an enumerator, as it is shown. -/
def shown (enumerator : Enumerator) : String :=
  String.ofList (enumerator.name.toList.drop 1)

end Enumerator

/-- An enum. -/
structure Enumeration where
  isBitmask : Bool
  /-- What the native names of all enumerators begin with. -/
  stem : String
  /-- Where the names of bits end. -/
  ending : String
  members : List Enumerator
  /-- The macro under which the enum exists, or nothing. -/
  guard : String
  deriving DecidableEq

namespace Enumeration

/-- An enum without members. -/
def bare (isBitmask : Bool) (stem ending : String) : Enumeration :=
  ⟨isBitmask, stem, ending, [], ""⟩

/-- The name of a bit, cut off at its ending. -/
def cutEnding (enumeration : Enumeration) (name : String) : String :=
  if enumeration.isBitmask && !enumeration.ending.isEmpty then
    match Text.cut? enumeration.ending name with
    | some (before, _) => before
    | none => name
  else
    name

/-- The name of the enumerator with the given native name.  The stem of the enum
and the vendor tag are left out, and the tag is put back at the end on demand. -/
def nameOf (enumeration : Enumeration) (rawName tag : String) (appendTag : Bool) :
    Except Failure String := do
  if !tag.isEmpty && !Text.occurs tag rawName then
    throw (.registry (.tagAbsent rawName tag))
  let words ← between enumeration.stem tag rawName
  let name := enumeration.cutEnding (enumeratorMark ++ camelCase words)
  pure (if appendTag then name ++ tag else name)

/-- The enum with one more enumerator. -/
def add (enumeration : Enumeration) (rawName tag : String) (appendTag : Bool) :
    Except Failure Enumeration := do
  let name ← enumeration.nameOf rawName tag appendTag
  pure { enumeration with members := enumeration.members ++ [⟨name, rawName⟩] }

end Enumeration

/-! ## Enums that are kept as state -/

/-- An enumerator that an enum is asked to take in. -/
structure Addition where
  rawName : String
  tag : String
  /-- Whether the tag is put back at the end of the name. -/
  appendTag : Bool

namespace Enumeration

/-- Appends an enumerator to the enum that is kept as state. -/
def append (addition : Addition) : ExceptT Failure (StateM Enumeration) Enumerator := do
  let enumeration ← get
  let name ← ExceptT.mk
    (pure (enumeration.nameOf addition.rawName addition.tag addition.appendTag))
  let enumerator : Enumerator := ⟨name, addition.rawName⟩
  modify fun enumeration => { enumeration with members := enumeration.members ++ [enumerator] }
  pure enumerator

/-- Appends enumerators one after the other and goes on after a failure.  Each of them
has its own answer. -/
def appendAll (additions : List Addition) :
    StateM Enumeration (List (Except Failure Enumerator)) :=
  additions.mapM fun addition => (append addition).run

end Enumeration

end VulkanBindings.Registry
