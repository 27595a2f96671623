import VulkanBindings.Proofs.Naming.RoundTrip
import VulkanBindings.Proofs.Outcome
import VulkanBindings.Proofs.Text.Search
import VulkanBindings.Registry.Member

/-!
# The grammar of members

`Grammar` says which contents declare a member, and which parts they give it, without saying
how they are read.  Reading takes one part after the other off the content, and each step
takes off what the grammar has there: an optional word (`takeWord_eq_ok`,
`takeWord_of_isWord`), an element (`takeElement_eq_ok_iff`) or a name with its array size
(`splitName_eq_ok`, `splitName_of_nameAndSize`).  Put together, these say that a content can
be read exactly if it follows the grammar, and that it then gives these parts
(`exists_grammar`, `Grammar.ofTokens_eq`).
-/

namespace VulkanBindings.Registry

open Text (trim)
open Xml (Content Node)

/-! ## Contents that declare a member -/

/-- An optional run of text, which is the given word between white space. -/
inductive IsWord : Option String → List Content → Prop where
  | absent : IsWord none []
  | present {word run : String} (h : trim run = word) : IsWord (some word) [.text run]

/-- The name of a type in the bindings, which is its native name without a leading `Vk`. -/
inductive IsBase (native : String) : String → Prop where
  | marked {base : String} (h : native = "Vk" ++ base) : IsBase native base
  | unmarked (h : ¬ ['V', 'k'] <+: native.toList) : IsBase native native

/-- What may follow a name that has no brackets of its own, with the array size that it
gives. -/
inductive SizeAfter : List Content → String → Prop where
  | nothing : SizeAfter [] ""
  | literal {run size : String} (h : trim run = "[" ++ size ++ "]") : SizeAfter [.text run] size
  | constant {opening closing : String} {size : Node} (hopening : trim opening = "[")
      (htag : size.tag = "enum") (hclosing : trim closing = "]") :
      SizeAfter [.text opening, size.toContent, .text closing] size.text

/-- Whether the text of a name ends with brackets. -/
def HasBrackets (text : String) : Prop :=
  '[' ∈ text.toList ∧ [']'] <:+ text.toList

/-- The name and the array size that the text of a name and what follows it give. -/
inductive NameAndSize (text : String) : List Content → String → String → Prop where
  | inside {name size : String} (hname : '[' ∉ name.toList)
      (htext : text = name ++ "[" ++ size ++ "]") : NameAndSize text [] name size
  | after {tail : List Content} {size : String} (hplain : ¬ HasBrackets text)
      (hsize : SizeAfter tail size) : NameAndSize text tail text size

/-- What the content of a member says. -/
structure Parts where
  qualifier : Option Qualifier
  baseType : String
  pointers : Option Pointers
  name : String
  arraySize : String

/-- The type as it is declared. -/
def Parts.type (parts : Parts) : String :=
  (parts.qualifier.map (·.text ++ " ")).getD "" ++ parts.baseType ++
    (parts.pointers.map Pointers.text).getD ""

/-- The contents, comments left aside, that declare a member with these parts. -/
inductive Grammar : List Content → Parts → Prop where
  | intro {parts : Parts} {qualified starred tail : List Content} {type name : Node}
      (hqualified : IsWord (parts.qualifier.map Qualifier.text) qualified)
      (htype : type.tag = "type") (htypeText : type.text ≠ "")
      (hbase : IsBase type.text parts.baseType)
      (hstarred : IsWord (parts.pointers.map Pointers.text) starred)
      (hname : name.tag = "name") (hnameText : name.text ≠ "")
      (hsize : NameAndSize name.text tail parts.name parts.arraySize) :
      Grammar (qualified ++ type.toContent :: (starred ++ name.toContent :: tail)) parts

/-! ## Words -/

theorem Content.eq_toContent {token : Content} {node : Node} (h : token.node? = some node) :
    token = node.toContent := by
  cases token with
  | text run => cases h
  | element tag attributes content =>
    obtain rfl := Option.some.inj h
    rfl

theorem Qualifier.ofText?_eq_some (text : String) (qualifier : Qualifier) :
    ofText? text = some qualifier ↔ text = qualifier.text := by
  constructor
  · intro h
    unfold ofText? at h
    have hfound := List.find?_some h
    exact (beq_iff_eq.1 hfound).symm
  · rintro rfl
    cases qualifier <;> decide

theorem Pointers.ofText?_eq_some (text : String) (pointers : Pointers) :
    ofText? text = some pointers ↔ text = pointers.text := by
  constructor
  · intro h
    unfold ofText? at h
    have hfound := List.find?_some h
    exact (beq_iff_eq.1 hfound).symm
  · rintro rfl
    cases pointers <;> decide

theorem isBase_iff {native base : String} :
    IsBase native base ↔ base = Naming.typeName native := by
  have hunmarked : ¬ ['V', 'k'] <+: native.toList → Naming.typeName native = native := by
    intro h
    have hnone : Text.Chars.after? ['V', 'k'] native.toList = none := by
      rw [← Option.not_isSome_iff_eq_none, Text.Chars.isSome_after?_iff]
      exact h
    have hstart : Naming.typeStart.toList = ['V', 'k'] := rfl
    rw [Naming.typeName, Naming.withoutStart, hstart, hnone]
  constructor
  · intro h
    cases h with
    | marked h => rw [h]; exact (Naming.withoutStart_append "Vk" base).symm
    | unmarked h => exact (hunmarked h).symm
  · rintro rfl
    by_cases h : ['V', 'k'] <+: native.toList
    · obtain ⟨rest, hrest⟩ := h
      have hnative : native = "Vk" ++ String.ofList rest := by
        rw [← String.toList_inj, ← hrest]
        simp
      refine .marked (hnative.trans ?_)
      rw [hnative]
      exact congrArg _ (Naming.withoutStart_append "Vk" _).symm
    · rw [hunmarked h]
      exact .unmarked h

namespace Member

variable {tokens rest tail : List Content} {text name size tag : String}

/-! ## One step of reading -/

section Words

variable {α : Type} {ofText? : String → Option α} {toText : α → String}
  {fault : String → MemberFault} {word : Option α}

/-- Takes a word off the tokens, of those that a text may stand for. -/
def takeWord (ofText? : String → Option α) (fault : String → MemberFault) :
    List Content → Except MemberFault (Option α × List Content)
  | .text run :: rest =>
    match ofText? (trim run) with
    | some word => .ok (some word, rest)
    | none => .error (fault (trim run))
  | tokens => .ok (none, tokens)

theorem takeWord_eq_ok (htexts : ∀ text word, ofText? text = some word ↔ text = toText word)
    (h : takeWord ofText? fault tokens = .ok (word, rest)) :
    ∃ part, tokens = part ++ rest ∧ IsWord (word.map toText) part := by
  unfold takeWord at h
  split at h
  · rename_i run after
    split at h
    · rename_i found hfound
      obtain ⟨rfl, rfl⟩ := Prod.mk.inj (Except.ok.inj h)
      exact ⟨[.text run], rfl, .present ((htexts _ _).1 hfound)⟩
    · cases h
  · obtain ⟨rfl, rfl⟩ := Prod.mk.inj (Except.ok.inj h)
    exact ⟨[], rfl, .absent⟩

/-- A word is taken off in front of an element. -/
theorem takeWord_of_isWord (htexts : ∀ text word, ofText? text = some word ↔ text = toText word)
    {part : List Content} (h : IsWord (word.map toText) part) (node : Node) :
    takeWord ofText? fault (part ++ node.toContent :: rest) =
      .ok (word, node.toContent :: rest) := by
  cases word with
  | none =>
    cases h
    rfl
  | some word =>
    cases h with
    | present hrun =>
      have hfound := (htexts _ _).2 hrun
      simp [takeWord, hfound]

theorem takeQualifier_eq : takeQualifier = takeWord Qualifier.ofText? .unexpectedQualifier := by
  funext tokens
  cases tokens with
  | nil => rfl
  | cons token rest =>
    cases token with
    | element tag attributes content => rfl
    | text run =>
      unfold takeQualifier takeWord
      dsimp only
      cases Qualifier.ofText? (trim run) <;> rfl

theorem takePointers_eq : takePointers = takeWord Pointers.ofText? .unexpectedSuffix := by
  funext tokens
  cases tokens with
  | nil => rfl
  | cons token rest =>
    cases token with
    | element tag attributes content => rfl
    | text run =>
      unfold takePointers takeWord
      dsimp only
      cases Pointers.ofText? (trim run) <;> rfl

end Words

theorem takeElement_eq_ok_iff : takeElement tag tokens = .ok (text, rest) ↔
    ∃ node : Node, tokens = node.toContent :: rest ∧ node.tag = tag ∧ node.text = text ∧
      text ≠ "" := by
  constructor
  · intro h
    cases tokens with
    | nil => cases h
    | cons token after =>
      unfold takeElement at h
      dsimp only at h
      split at h
      · rename_i node hnode
        split at h
        · rename_i hfits
          obtain ⟨rfl, rfl⟩ := Prod.mk.inj (Except.ok.inj h)
          simp only [Bool.and_eq_true, beq_iff_eq, Bool.not_eq_true', ← Bool.not_eq_true,
            String.isEmpty_iff] at hfits
          exact ⟨node, by rw [Content.eq_toContent hnode], hfits.1, rfl, hfits.2⟩
        · cases h
      · cases h
  · rintro ⟨node, rfl, rfl, rfl, htext⟩
    simp [takeElement, htext]

/-! ## Array sizes -/

/-- A text between two different characters. -/
theorem between_iff {first last : Char} (hne : first ≠ last) {chars : List Char} :
    ([first] <+: chars ∧ [last] <:+ chars) ↔ ∃ middle, chars = first :: middle ++ [last] := by
  constructor
  · rintro ⟨⟨rest, rfl⟩, before, hends⟩
    cases before with
    | nil =>
      obtain ⟨heq, -⟩ := List.cons.inj hends
      exact absurd heq.symm hne
    | cons c before =>
      obtain ⟨rfl, hrest⟩ := List.cons.inj hends
      have hrest : before ++ [last] = rest := hrest
      exact ⟨before, by rw [← hrest]; rfl⟩
  · rintro ⟨middle, rfl⟩
    exact ⟨⟨middle ++ [last], rfl⟩, ⟨first :: middle, rfl⟩⟩

theorem eq_bracketed_iff {run : String} :
    run = "[" ++ size ++ "]" ↔ run.toList = '[' :: size.toList ++ [']'] := by
  rw [← String.toList_inj, String.toList_append, String.toList_append]
  exact Iff.rfl

theorem inner_bracketed (size : String) : inner ("[" ++ size ++ "]") = size := by
  have hchars := eq_bracketed_iff.1 (rfl : "[" ++ size ++ "]" = _)
  rw [inner, hchars, List.cons_append, List.drop_one, List.tail_cons, List.dropLast_concat,
    String.ofList_toList]

/-- A run of text in brackets is one that begins and ends with them. -/
theorem exists_bracketed_iff {run : String} : (∃ size, run = "[" ++ size ++ "]") ↔
    Text.beginsWith "[" run = true ∧ Text.endsWith "]" run = true := by
  rw [Text.beginsWith_iff, Text.endsWith_iff]
  refine Iff.trans ?_ (between_iff (by decide : '[' ≠ ']')).symm
  simp only [eq_bracketed_iff]
  constructor
  · rintro ⟨size, hsize⟩
    exact ⟨size.toList, hsize⟩
  · rintro ⟨middle, hmiddle⟩
    exact ⟨String.ofList middle, by rw [String.toList_ofList, hmiddle]⟩

theorem bracketed_ne (size : String) : "[" ++ size ++ "]" ≠ "[" := by
  intro h
  have hlength := congrArg String.length h
  have hopen : "[".length = 1 := rfl
  have hclose : "]".length = 1 := rfl
  simp only [String.length_append] at hlength
  omega

theorem arraySizeOf_eq_ok_iff : arraySizeOf tail = .ok size ↔ SizeAfter tail size := by
  constructor
  · intro h
    unfold arraySizeOf at h
    split at h
    · obtain rfl := Except.ok.inj h
      exact .nothing
    · rename_i run after
      dsimp only at h
      split at h
      · rename_i hopening
        split at h
        · rename_i token closing
          split at h
          · rename_i node hnode
            split at h
            · rename_i hfits
              obtain rfl := Except.ok.inj h
              simp only [Bool.and_eq_true, beq_iff_eq] at hopening hfits
              rw [Content.eq_toContent hnode]
              exact .constant hopening hfits.1 hfits.2
            · cases h
          · cases h
        · cases h
      · split at h
        · rename_i hfits
          obtain rfl := Except.ok.inj h
          simp only [Bool.and_eq_true, List.isEmpty_iff] at hfits
          obtain ⟨⟨rfl, hbegins⟩, hends⟩ := hfits
          obtain ⟨size, hsize⟩ := exists_bracketed_iff.2 ⟨hbegins, hends⟩
          rw [hsize, inner_bracketed]
          exact .literal hsize
        · cases h
    · cases h
  · intro h
    cases h with
    | nothing => rfl
    | @literal run size hrun =>
      obtain ⟨hbegins, hends⟩ := exists_bracketed_iff.1 ⟨size, rfl⟩
      simp [arraySizeOf, hrun, bracketed_ne, hbegins, hends, inner_bracketed]
    | constant hopening htag hclosing => simp [arraySizeOf, hopening, htag, hclosing]

/-! ## Names -/

theorem cut?_bracket {before after : String} : Text.cut? "[" text = some (before, after) ↔
    text = before ++ "[" ++ after ∧ '[' ∉ before.toList := by
  have hmarker : "[" = String.singleton '[' := by decide
  rw [hmarker, Text.cut?_singleton_eq_some]

/-- What follows the first bracket of a name that ends with a bracket. -/
theorem exists_size {before after : String}
    (hends : Text.endsWith "]" (before ++ "[" ++ after) = true) :
    ∃ size, after = size ++ "]" ∧ String.ofList after.toList.dropLast = size := by
  rw [Text.endsWith_iff] at hends
  obtain ⟨start, hstart⟩ := hends
  have hchars : start ++ [']'] = before.toList ++ '[' :: after.toList := by
    simpa using hstart
  rcases List.eq_nil_or_concat after.toList with hnil | ⟨chars, last, hafter⟩
  · rw [hnil] at hchars
    have hlast := (List.append_inj' hchars rfl).2
    cases hlast
  · rw [List.concat_eq_append] at hafter
    have hlast : [']'] = [last] := by
      rw [hafter, ← List.cons_append, ← List.append_assoc] at hchars
      exact (List.append_inj' hchars rfl).2
    obtain rfl : ']' = last := List.singleton_inj.1 hlast
    refine ⟨String.ofList chars, ?_, ?_⟩
    · rw [← String.toList_inj, hafter, String.toList_append, String.toList_ofList]
      rfl
    · rw [hafter, List.dropLast_concat]

theorem splitName_eq_ok (h : splitName text tail = .ok (name, size)) :
    NameAndSize text tail name size := by
  have hafter : (arraySizeOf tail).map (text, ·) = .ok (name, size) → ¬ HasBrackets text →
      NameAndSize text tail name size := by
    intro hmap hplain
    cases hsize : arraySizeOf tail with
    | error fault =>
      rw [hsize] at hmap
      cases hmap
    | ok found =>
      rw [hsize] at hmap
      obtain ⟨rfl, rfl⟩ := Prod.mk.inj (Except.ok.inj hmap)
      exact .after hplain (arraySizeOf_eq_ok_iff.1 hsize)
  unfold splitName at h
  split at h
  · rename_i before after hcut
    obtain ⟨rfl, hbefore⟩ := cut?_bracket.1 hcut
    split at h
    · rename_i hends
      split at h
      · rename_i hnothing
        obtain rfl := List.isEmpty_iff.1 hnothing
        obtain ⟨inside, rfl, hinside⟩ := exists_size hends
        obtain ⟨rfl, rfl⟩ := Prod.mk.inj (Except.ok.inj h)
        rw [hinside]
        exact .inside hbefore (String.append_assoc ..).symm
      · cases h
    · rename_i hends
      exact hafter h fun hbrackets => hends (Text.endsWith_iff.2 hbrackets.2)
  · rename_i hnone
    refine hafter h fun hbrackets => ?_
    have hoccurs : Text.occurs "[" text = true :=
      Text.occurs_iff.2 ((List.singleton_infix_iff _ _).2 hbrackets.1)
    obtain ⟨parts, hparts⟩ := Option.isSome_iff_exists.1 hoccurs
    rw [Text.cut?, hparts] at hnone
    cases hnone

theorem splitName_of_nameAndSize (h : NameAndSize text tail name size) :
    splitName text tail = .ok (name, size) := by
  cases h with
  | inside hname htext =>
    have hcut := cut?_bracket.2 ⟨htext.trans (String.append_assoc ..), hname⟩
    have hends : Text.endsWith "]" text = true := by
      rw [Text.endsWith_iff, htext, String.toList_append]
      exact List.suffix_append _ _
    simp [splitName, hcut, hends]
  | after hplain hsize =>
    have hfound := arraySizeOf_eq_ok_iff.2 hsize
    unfold splitName
    split
    · rename_i before after hcut
      obtain ⟨rfl, hbefore⟩ := cut?_bracket.1 hcut
      rw [if_neg, hfound]
      · rfl
      · intro hends
        refine hplain ⟨?_, Text.endsWith_iff.1 hends⟩
        simp
    · rw [hfound]
      rfl

end Member

/-! ## Whole members -/

/-- The member with these parts that an element declares, with what its attributes say. -/
def Parts.member (parts : Parts) (node : Node) : Member :=
  { type := parts.type
    name := parts.name
    baseType := parts.baseType
    arraySize := parts.arraySize
    length := (node.attribute? "len").getD ""
    optional := decide (node.attribute? "optional" = some "true") }

theorem declaredType_eq (parts : Parts) :
    declaredType parts.qualifier parts.baseType parts.pointers = parts.type := by
  obtain ⟨qualifier, baseType, pointers, name, arraySize⟩ := parts
  cases qualifier <;> cases pointers <;> simp [declaredType, Parts.type]

section Tokens

variable {tokens : List Content} {member : Member}

/-- A content that can be read follows the grammar. -/
theorem exists_grammar (h : Member.ofTokens tokens = .ok member) :
    ∃ parts, Grammar tokens parts ∧ member = ⟨parts.type, parts.name, parts.baseType,
      parts.arraySize, "", false⟩ := by
  unfold Member.ofTokens at h
  rw [Member.takeQualifier_eq, Member.takePointers_eq] at h
  obtain ⟨⟨qualifier, afterQualifier⟩, hqualifier, h⟩ := bind_eq_ok_iff.1 h
  obtain ⟨⟨typeText, afterType⟩, htype, h⟩ := bind_eq_ok_iff.1 h
  obtain ⟨⟨pointers, afterPointers⟩, hpointers, h⟩ := bind_eq_ok_iff.1 h
  obtain ⟨⟨nameText, tail⟩, hname, h⟩ := bind_eq_ok_iff.1 h
  obtain ⟨⟨name, arraySize⟩, hsize, h⟩ := bind_eq_ok_iff.1 h
  obtain rfl := Except.ok.inj h
  obtain ⟨qualified, rfl, hqualified⟩ :=
    Member.takeWord_eq_ok Qualifier.ofText?_eq_some hqualifier
  obtain ⟨typeNode, rfl, htypeTag, rfl, htypeText⟩ := Member.takeElement_eq_ok_iff.1 htype
  obtain ⟨starred, rfl, hstarred⟩ :=
    Member.takeWord_eq_ok Pointers.ofText?_eq_some hpointers
  obtain ⟨nameNode, rfl, hnameTag, rfl, hnameText⟩ := Member.takeElement_eq_ok_iff.1 hname
  refine ⟨⟨qualifier, Naming.typeName typeNode.text, pointers, name, arraySize⟩, ?_, ?_⟩
  · exact .intro hqualified htypeTag htypeText (isBase_iff.2 rfl) hstarred hnameTag hnameText
      (Member.splitName_eq_ok hsize)
  · rw [← declaredType_eq]

/-- A content that follows the grammar is read, with the parts that the grammar gives it. -/
theorem Grammar.ofTokens_eq {parts : Parts} (h : Grammar tokens parts) :
    Member.ofTokens tokens = .ok ⟨parts.type, parts.name, parts.baseType, parts.arraySize, "",
      false⟩ := by
  cases h with
  | @intro _ qualified starred tail type name hqualified htype htypeText hbase hstarred hname
      hnameText hsize =>
    have htaken : ∀ rest, Member.takeElement "type" (type.toContent :: rest) =
        .ok (type.text, rest) :=
      fun rest => Member.takeElement_eq_ok_iff.2 ⟨type, rfl, htype, rfl, htypeText⟩
    have hnamed : ∀ rest, Member.takeElement "name" (name.toContent :: rest) =
        .ok (name.text, rest) :=
      fun rest => Member.takeElement_eq_ok_iff.2 ⟨name, rfl, hname, rfl, hnameText⟩
    unfold Member.ofTokens
    rw [Member.takeQualifier_eq, Member.takePointers_eq]
    refine bind_eq_ok_iff.2
      ⟨_, Member.takeWord_of_isWord Qualifier.ofText?_eq_some hqualified type, ?_⟩
    refine bind_eq_ok_iff.2 ⟨_, htaken _, ?_⟩
    refine bind_eq_ok_iff.2
      ⟨_, Member.takeWord_of_isWord Pointers.ofText?_eq_some hstarred name, ?_⟩
    refine bind_eq_ok_iff.2 ⟨_, hnamed _, ?_⟩
    refine bind_eq_ok_iff.2 ⟨_, Member.splitName_of_nameAndSize hsize, ?_⟩
    rw [← declaredType_eq, isBase_iff.1 hbase]
    rfl

end Tokens

section Reading

variable {node : Node} {needs : NameSet}

theorem read_of_ofTokens_error {fault : MemberFault}
    (h : Member.ofTokens (Member.tokens node) = .error fault) : Member.read node needs =
      .error (.malformedMember node.tag ((node.find? "name").map Node.text) fault) := by
  simp only [Member.read, Member.ofNode, h]
  rfl

theorem Grammar.read_eq {parts : Parts} (h : Grammar (Member.tokens node) parts) :
    Member.read node needs = .ok (parts.member node, needs.insert parts.baseType) := by
  simp only [Member.read, Member.ofNode, h.ofTokens_eq, Parts.member, beq_eq_decide]
  rfl

/-- An element can be read as a member exactly if its content, comments left aside, follows
the grammar of members.  Its member then has the parts that the grammar gives and what the
attributes say, and the needs gain its base type.  Any other element is reported as a
malformed member, under the text of its first `name` element if it has one. -/
theorem read_exactly_grammar (node : Node) (needs : NameSet) :
    ((∃ read, Member.read node needs = .ok read) ↔
      ∃ parts, Grammar (Member.tokens node) parts) ∧
    (∀ parts, Grammar (Member.tokens node) parts →
      Member.read node needs = .ok (parts.member node, needs.insert parts.baseType)) ∧
    ∀ fault, Member.read node needs = .error fault → ∃ detail : MemberFault,
      fault.report =
        ⟨.malformedMember,
         "<" ++ node.tag ++ "> " ++ ((node.find? "name").map Node.text).getD "None" ++ ": " ++
           detail.detail,
         (node.find? "name").map Node.text⟩ := by
  refine ⟨⟨?_, ?_⟩, fun parts h => h.read_eq, ?_⟩
  · rintro ⟨read, hread⟩
    cases htokens : Member.ofTokens (Member.tokens node) with
    | ok member =>
      obtain ⟨parts, hparts, -⟩ := exists_grammar htokens
      exact ⟨parts, hparts⟩
    | error fault =>
      rw [read_of_ofTokens_error htokens] at hread
      cases hread
  · rintro ⟨parts, hparts⟩
    exact ⟨_, hparts.read_eq⟩
  · intro fault hfault
    cases htokens : Member.ofTokens (Member.tokens node) with
    | ok member =>
      obtain ⟨parts, hparts, -⟩ := exists_grammar htokens
      rw [hparts.read_eq] at hfault
      cases hfault
    | error detail =>
      rw [read_of_ofTokens_error htokens] at hfault
      obtain rfl := Except.error.inj hfault
      refine ⟨detail, ?_⟩
      cases (node.find? "name").map Node.text <;> rfl

/-- A parameter with every part that the grammar has. -/
def sampleParameter : Node :=
  ⟨"param", [("optional", "true")],
   [.text "const ", .element "type" [] [.text "VkColor"], .text "* const*",
    .element "comment" [] [.text "one for each face"],
    .element "name" [] [.text "ppColors"],
    .text "[", .element "enum" [] [.text "FACES"], .text "]"]⟩

/-- A parameter without a type. -/
def sampleUntyped : Node :=
  ⟨"param", [], [.element "name" [] [.text "ppColors"]]⟩

/-- The parts of the parameter, and the report of one without a type. -/
theorem sample_read_exactly_grammar :
    Grammar (Member.tokens sampleParameter) ⟨some .const, "Color", some .twoConst, "ppColors",
        "FACES"⟩ ∧
      Member.read sampleParameter ∅ =
        .ok (⟨"const Color* const*", "ppColors", "Color", "FACES", "", true⟩, .ofList ["Color"]) ∧
      ∃ fault, Member.read sampleUntyped ∅ = .error fault ∧
        ∃ detail : MemberFault, fault.report =
          ⟨.malformedMember, "<" ++ "param" ++ "> " ++ "ppColors" ++ ": " ++ detail.detail,
            some "ppColors"⟩ := by
  have hgrammar : Grammar (Member.tokens sampleParameter)
      ⟨some .const, "Color", some .twoConst, "ppColors", "FACES"⟩ := by
    show Grammar ([.text "const "] ++ Node.toContent ⟨"type", [], [.text "VkColor"]⟩ ::
      ([.text "* const*"] ++ Node.toContent ⟨"name", [], [.text "ppColors"]⟩ ::
        [.text "[", Node.toContent ⟨"enum", [], [.text "FACES"]⟩, .text "]"])) _
    refine .intro (.present (by decide)) rfl (by decide) (.marked (by decide))
      (.present (by decide)) rfl (by decide) (.after ?_ ?_)
    · unfold HasBrackets
      decide
    · exact .constant (by decide) rfl (by decide)
  obtain ⟨-, hread, -⟩ := read_exactly_grammar sampleParameter ∅
  obtain ⟨-, -, hfails⟩ := read_exactly_grammar sampleUntyped ∅
  have huntyped : (Member.read sampleUntyped ∅).toOption.isNone = true := by decide
  refine ⟨hgrammar, ?_, ?_⟩
  · rw [hread _ hgrammar]
    decide
  · cases hfault : Member.read sampleUntyped ∅ with
    | ok read =>
      rw [hfault] at huntyped
      cases huntyped
    | error fault => exact ⟨fault, rfl, hfails fault hfault⟩

end Reading

end VulkanBindings.Registry
