import VulkanBindings.Xml.DocumentType

/-!
# Definitions

What the declarations of a document type define: the texts of entities and the
attributes that elements may have without having them written.  Of two
declarations of one thing the first holds.  Where declarations are kept
elsewhere and the document does not say that it stands alone, an entity that is
not declared may well be declared there; and from a reference to an entity of
declarations on, what follows is no longer known to hold and is not followed.
-/

namespace VulkanBindings.Xml

open Text (Chars.fields)

/-- The declared entities and their texts, where these are not kept elsewhere. -/
abbrev Entities := List (String × Option (List Char))

/-- The entities that pieces of text refer to. -/
def entitiesIn (pieces : List Piece) : List String :=
  pieces.filterMap fun
    | .entity name => some name
    | _ => none

/-- A declared attribute of the elements with a name. -/
structure DeclaredAttribute where
  element : Name
  name : Name
  /-- Whether every blank of a value counts, and not the words alone. -/
  isText : Bool
  /-- The value in an element in which none is written. -/
  default : Option (List Char)

namespace DeclaredAttribute

/-- A value of the attribute, by what counts of it. -/
def settled (isText : Bool) (value : List Char) : List Char :=
  if isText then value
  else [' '].intercalate ((Chars.fields ' ' value).filter fun word => !word.isEmpty)

end DeclaredAttribute

/-- What declarations define. -/
structure Definitions where
  entities : Entities
  attributes : List DeclaredAttribute
  /-- Whether other entities may be declared elsewhere. -/
  isPartial : Bool
  /-- Whether further declarations are followed. -/
  isFollowed : Bool
  /-- The entities that written defaults of attributes refer to. -/
  drawn : List String

namespace Definitions

/-- The characters of the value of an attribute.  References are followed at most
`depth` deep.  An entity that may be declared elsewhere stands for nothing. -/
def textOf? (definitions : Definitions) : (depth : Nat) → List Piece → Option (List Char)
  | 0, _ => none
  | depth + 1, pieces => do
    let parts ← pieces.mapM fun
      | .literal c | .given c => some [c]
      | .entity name =>
        match definitions.entities.lookup name with
        | some (some text) => do definitions.textOf? depth (← attributeValue? .common text)
        | some none => none
        | none => if definitions.isPartial then some [] else none
    pure parts.flatten

/-- How deep references are followed; entities that go deeper refer to themselves. -/
def depth (definitions : Definitions) : Nat :=
  definitions.entities.length + 1

/-- The attribute of an element, if it is declared. -/
def attribute? (definitions : Definitions) (element name : Name) : Option DeclaredAttribute :=
  definitions.attributes.find? fun declared => declared.element == element && declared.name == name

/-- The attributes of an element: the written ones, and after them the others
that have a default. -/
def attributesOf (definitions : Definitions) (element : Name)
    (written : List (Name × List Char)) : List (Name × List Char) :=
  let settled := written.map fun (name, value) =>
    (name, DeclaredAttribute.settled ((definitions.attribute? element name).all (·.isText)) value)
  let others := definitions.attributes.filter fun declared =>
    declared.element == element && !written.any (·.1 == declared.name)
  settled ++ others.filterMap fun declared => declared.default.map (declared.name, ·)

/-- The definitions with an entity, unless it is defined already. -/
def withEntity (definitions : Definitions) (name : String) (text : Option (List Char)) :
    Definitions :=
  if (fixedEntity? name).isSome || (definitions.entities.lookup name).isSome then definitions
  else { definitions with entities := definitions.entities ++ [(name, text)] }

/-- The definitions with an attribute, unless it is defined already. -/
def withAttribute (definitions : Definitions) (declared : DeclaredAttribute) : Definitions :=
  if (definitions.attribute? declared.element declared.name).isSome then definitions
  else { definitions with attributes := definitions.attributes ++ [declared] }

/-- Follows one more declaration. -/
def step (rule : NameRule) (standsAlone : Bool) (definitions : Definitions) (declared : Declared) :
    Option Definitions :=
  if definitions.isFollowed then
    match declared with
    | .entity name text => do
      pure (definitions.withEntity name (← text.mapM (entityText? rule)))
    | .parameter text => (entityText? rule text).map fun _ => definitions
    | .reference =>
      some { definitions with isPartial := !standsAlone, isFollowed := standsAlone }
    | .attribute element name isText written => do
      let written ← written.mapM (attributeValue? rule)
      let value ← written.mapM (definitions.textOf? definitions.depth)
      let default := value.map (DeclaredAttribute.settled isText)
      let drawn := definitions.drawn ++ entitiesIn (written.getD [])
      pure { definitions.withAttribute ⟨element, name, isText, default⟩ with drawn := drawn }
  else
    some definitions

end Definitions

/-- What a document type defines, in a document that says that it stands alone or
does not. -/
def DocumentType.definitions? (rule : NameRule) (standsAlone : Bool) (type : DocumentType) :
    Option Definitions :=
  type.declared.foldlM (Definitions.step rule standsAlone)
    { entities := [], attributes := [], isPartial := type.isPartial && !standsAlone,
      isFollowed := true, drawn := [] }

end VulkanBindings.Xml
