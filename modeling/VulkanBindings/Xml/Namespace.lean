import VulkanBindings.Xml.Name

/-!
# Namespaces

A scope before a colon stands for a namespace, which an attribute of the
element or of one around it declares.  Names are expanded to the namespace in
braces followed by the name itself; an attribute without a scope, and an
element without a scope where no namespace is the default, keep their names.
-/

namespace VulkanBindings.Xml

/-- The namespaces that scopes stand for, innermost declaration first; no scope
stands for the default namespace. -/
abbrev Scopes := List (Option String × String)

/-- The scope that declares others. -/
def declaringScope : String := "xmlns"

/-- The scope that needs no declaration. -/
def fixedScope : String := "xml"

/-- An address, which serves as the name of a namespace. -/
def address (scheme host path : String) : String :=
  s!"{scheme}://{host}/{path}"

/-- The namespace of the fixed scope. -/
def fixedNamespace : String := address "http" "www.w3.org" "XML/1998/namespace"

/-- The namespace of the attributes that declare namespaces. -/
def declaringNamespace : String := address "http" "www.w3.org" "2000/xmlns/"

/-- The scopes of a document before its first element. -/
def Scopes.initial : Scopes := [(some fixedScope, fixedNamespace)]

/-- The scope that an attribute declares, when it declares one. -/
def declared? (name : Name) : Option (Option String) :=
  if name = ⟨none, declaringScope⟩ then some none
  else if name.scope = some declaringScope then some (some name.base)
  else none

/-- Whether a scope may stand for a namespace: the fixed pair belongs together,
the declaring scope and its namespace are never declared, only the default may
be empty, and a closing brace would hide the end of the namespace. -/
def isDeclarable (scope : Option String) (space : String) : Bool :=
  !(space.isEmpty && scope.isSome) && scope != some declaringScope &&
    (scope == some fixedScope) == (space == fixedNamespace) &&
    space != declaringNamespace && !space.toList.contains '\x7d'

/-- A name in a namespace; the empty namespace is none. -/
def expandedIn (space base : String) : String :=
  if space.isEmpty then base else "\x7b" ++ space ++ "\x7d" ++ base

/-- The expanded name of an element. -/
def elementName? (scopes : Scopes) (name : Name) : Option String :=
  match name.scope, scopes.lookup name.scope with
  | _, some space => some (expandedIn space name.base)
  | none, none => some name.base
  | some _, none => none

/-- The expanded name of an attribute. -/
def attributeName? (scopes : Scopes) (name : Name) : Option String :=
  match name.scope with
  | none => some name.base
  | some scope => (scopes.lookup (some scope)).map (expandedIn · name.base)

/-- The scopes inside an element with the given attributes. -/
def Scopes.inside? (scopes : Scopes) (attributes : List (Name × String)) : Option Scopes :=
  attributes.foldlM
    (fun scopes (name, space) =>
      match declared? name with
      | none => some scopes
      | some scope => if isDeclarable scope space then some ((scope, space) :: scopes) else none)
    scopes

/-- The expanded names and values of the attributes that declare nothing. -/
def expandedAttributes? (scopes : Scopes) (attributes : List (Name × String)) :
    Option (List (String × String)) := do
  let kept := attributes.filter fun (name, _) => (declared? name).isNone
  let expanded ← kept.mapM fun (name, value) => do pure (← attributeName? scopes name, value)
  if (attributes.map (·.1)).Nodup ∧ (expanded.map (·.1)).Nodup then some expanded else none

end VulkanBindings.Xml
