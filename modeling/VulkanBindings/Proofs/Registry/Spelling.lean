import VulkanBindings.Proofs.Registry.Grammar
import VulkanBindings.Text.Blank

/-!
# What a declaration keeps of its element

A member is read from the content of an element and printed as a declaration.  Apart from
white space, the two say the same: what is printed is what the content spells, with the type
under its name in the bindings (`spelled`).  There is one exception.  The printed declaration
has brackets only if there is something between them, so that brackets with nothing between
them are lost (`declared_as_spelled_iff`).
-/

namespace VulkanBindings

namespace Text

/-- The characters of a text that are not white space. -/
def nonblank (text : String) : List Char :=
  text.toList.filter (!isBlank ·)

theorem nonblank_append (first second : String) :
    nonblank (first ++ second) = nonblank first ++ nonblank second := by
  rw [nonblank, String.toList_append, List.filter_append]
  rfl

theorem filter_dropWhile {α : Type} (drop : α → Bool) (items : List α) :
    (items.dropWhile drop).filter (!drop ·) = items.filter (!drop ·) := by
  induction items with
  | nil => rfl
  | cons item items ih =>
    cases hdrop : drop item with
    | true => simp [hdrop, ih]
    | false => simp [hdrop]

/-- Only white space is trimmed off. -/
theorem nonblank_trim (text : String) : nonblank (trim text) = nonblank text := by
  unfold nonblank trim Chars.trimBy Chars.trimEndBy Chars.trimStartBy
  rw [String.toList_ofList, List.filter_reverse, filter_dropWhile, List.filter_reverse,
    List.reverse_reverse, filter_dropWhile]

end Text

namespace Registry

open Text (nonblank)
open Xml (Content Node)

/-! ## What a content spells -/

/-- The text of a piece of content; that of a type is its name in the bindings. -/
def spelling : Content → String
  | .text run => run
  | .element tag attributes content =>
    let text := Node.text ⟨tag, attributes, content⟩
    if tag = "type" then Naming.typeName text else text

/-- What the pieces of a content spell together, white space left aside. -/
def spelled (tokens : List Content) : List Char :=
  tokens.flatMap (nonblank <| spelling ·)

/-- The content from the name of the member on. -/
def fromName (tokens : List Content) : List Content :=
  tokens.dropWhile fun token => token.node?.all (·.tag != "name")

/-- Whether the name of a member, with what follows it, is that of an array: it has brackets,
or something follows it. -/
def Bracketed : List Content → Prop
  | [] => False
  | name :: tail => HasBrackets (spelling name) ∨ tail ≠ []

/-- Whether a content declares an array. -/
def DeclaresArray (tokens : List Content) : Prop :=
  Bracketed (fromName tokens)

variable {tokens tail qualified starred : List Content} {type name node : Node} {text : String}

theorem spelled_append (first second : List Content) :
    spelled (first ++ second) = spelled first ++ spelled second :=
  List.flatMap_append

theorem spelled_cons (token : Content) (rest : List Content) :
    spelled (token :: rest) = nonblank (spelling token) ++ spelled rest :=
  List.flatMap_cons

theorem spelling_type (h : type.tag = "type") :
    spelling type.toContent = Naming.typeName type.text :=
  if_pos h

theorem spelling_of_ne (h : node.tag ≠ "type") : spelling node.toContent = node.text :=
  if_neg h

/-- An optional word spells itself. -/
theorem IsWord.spelled {word : Option String} (h : IsWord word tokens) :
    spelled tokens = nonblank (word.getD "") := by
  cases h with
  | absent => rfl
  | @present word run hrun =>
    rw [spelled_cons, Option.getD_some, ← hrun, Text.nonblank_trim]
    exact List.append_nil _

/-- No optional word is a name. -/
theorem IsWord.fromName_append {word : Option String} (h : IsWord word qualified)
    (rest : List Content) : fromName (qualified ++ rest) = fromName rest := by
  cases h with
  | absent => rfl
  | present hrun => rfl

theorem fromName_type (h : type.tag = "type") (rest : List Content) :
    fromName (type.toContent :: rest) = fromName rest := by
  unfold fromName
  rw [List.dropWhile_cons_of_pos]
  rw [Xml.Node.node?_toContent, Option.all_some, h]
  decide

theorem fromName_name (h : name.tag = "name") (rest : List Content) :
    fromName (name.toContent :: rest) = name.toContent :: rest := by
  unfold fromName
  rw [List.dropWhile_cons_of_neg]
  rw [Xml.Node.node?_toContent, Option.all_some, h]
  decide

/-! ## What a declaration spells -/

/-- The declaration of an array size, even if there is none. -/
def brackets (size : String) : List Char :=
  '[' :: nonblank size ++ [']']

theorem nonblank_bracketed (size : String) : nonblank ("[" ++ size ++ "]") = brackets size := by
  rw [Text.nonblank_append, Text.nonblank_append]
  rfl

theorem nonblank_type (parts : Parts) : nonblank parts.type =
    nonblank ((parts.qualifier.map Qualifier.text).getD "") ++ nonblank parts.baseType ++
      nonblank ((parts.pointers.map Pointers.text).getD "") := by
  have hqualifier : nonblank ((parts.qualifier.map (·.text ++ " ")).getD "") =
      nonblank ((parts.qualifier.map Qualifier.text).getD "") := by
    cases parts.qualifier with
    | none => rfl
    | some qualifier =>
      refine (Text.nonblank_append qualifier.text " ").trans ?_
      exact List.append_nil _
  rw [Parts.type, Text.nonblank_append, Text.nonblank_append, hqualifier]

/-- A declaration has the brackets of its array size, unless the size is empty. -/
theorem nonblank_declaration (member : Member) : nonblank member.declaration =
    nonblank member.type ++ nonblank member.name ++
      if member.arraySize = "" then [] else brackets member.arraySize := by
  have hdeclarator : nonblank member.declarator = nonblank member.name ++
      if member.arraySize = "" then [] else brackets member.arraySize := by
    unfold Member.declarator
    by_cases hsize : member.arraySize = ""
    · rw [if_pos hsize, if_pos (String.isEmpty_iff.2 hsize), List.append_nil]
    · rw [if_neg hsize, if_neg (mt String.isEmpty_iff.1 hsize), ← nonblank_bracketed,
        ← Text.nonblank_append]
      simp only [toString, String.append_assoc]
  have hblank : nonblank " " = [] := by decide
  unfold Member.declaration
  simp only [toString, Text.nonblank_append, hblank, hdeclarator, List.append_nil,
    List.append_assoc]

/-- What follows a name spells the brackets of an array, if it is there. -/
theorem SizeAfter.spelled {size : String} (h : SizeAfter tail size) :
    (tail ≠ [] ∧ spelled tail = brackets size) ∨ tail = [] ∧ size = "" := by
  cases h with
  | nothing => exact .inr ⟨rfl, rfl⟩
  | @literal run size hrun =>
    refine .inl ⟨List.cons_ne_nil _ _, ?_⟩
    rw [spelled_cons, ← nonblank_bracketed, ← hrun, ← Text.nonblank_trim]
    exact List.append_nil _
  | @constant opening closing size hopening htag hclosing =>
    have hsize : spelling size.toContent = size.text :=
      spelling_of_ne (by rw [htag]; decide)
    have hopens : nonblank opening = ['['] := by
      rw [← Text.nonblank_trim, hopening]
      decide
    have hcloses : nonblank closing = [']'] := by
      rw [← Text.nonblank_trim, hclosing]
      decide
    refine .inl ⟨List.cons_ne_nil _ _, ?_⟩
    rw [spelled_cons, spelled_cons, spelled_cons, hsize]
    show nonblank opening ++ (nonblank size.text ++ (nonblank closing ++ [])) = _
    rw [hopens, hcloses]
    rfl

/-- A name and what follows it spell the name of the member and, for an array, its brackets. -/
theorem NameAndSize.spelled {label size : String} (hname : name.tag = "name")
    (h : NameAndSize name.text tail label size) :
    (Bracketed (name.toContent :: tail) ∧
      spelled (name.toContent :: tail) = nonblank label ++ brackets size) ∨
    (¬ Bracketed (name.toContent :: tail) ∧ size = "" ∧
      spelled (name.toContent :: tail) = nonblank label) := by
  have htext : spelling name.toContent = name.text := spelling_of_ne (by rw [hname]; decide)
  rw [spelled_cons, Bracketed, htext]
  generalize name.text = text at h
  cases h with
  | inside hlabel hinside =>
    rw [hinside, ← nonblank_bracketed, ← Text.nonblank_append]
    refine .inl ⟨.inl ⟨?_, ?_⟩, ?_⟩
    · simp
    · rw [String.toList_append]
      exact List.suffix_append _ _
    · simp only [String.append_assoc]
      exact List.append_nil _
  | after hplain hsize =>
    rcases hsize.spelled with ⟨hfollowed, hspelled⟩ | ⟨rfl, hempty⟩
    · exact .inl ⟨.inr hfollowed, by rw [hspelled]⟩
    · refine .inr ⟨fun hbracketed => ?_, hempty, List.append_nil _⟩
      exact hbracketed.elim hplain fun hne => hne rfl

/-! ## Contents and declarations -/

/-- The parts of a content that follows the grammar, in what it spells. -/
theorem Grammar.spelled {parts : Parts} (h : Grammar tokens parts) :
    (DeclaresArray tokens ∧ spelled tokens =
      nonblank parts.type ++ nonblank parts.name ++ brackets parts.arraySize) ∨
    (¬ DeclaresArray tokens ∧ parts.arraySize = "" ∧
      spelled tokens = nonblank parts.type ++ nonblank parts.name) := by
  cases h with
  | @intro _ qualified starred tail type name hqualified htype htypeText hbase hstarred hname
      hnameText hsize =>
    have hfrom : fromName (qualified ++ type.toContent :: (starred ++ name.toContent :: tail)) =
        name.toContent :: tail := by
      rw [hqualified.fromName_append, fromName_type htype, hstarred.fromName_append,
        fromName_name hname]
    have hspelled : spelled (qualified ++ type.toContent :: (starred ++ name.toContent :: tail)) =
        nonblank parts.type ++ spelled (name.toContent :: tail) := by
      rw [spelled_append, spelled_cons, spelled_append, hqualified.spelled, hstarred.spelled,
        spelling_type htype, ← isBase_iff.1 hbase, nonblank_type]
      simp only [List.append_assoc]
    rw [DeclaresArray, hfrom, hspelled]
    rcases hsize.spelled hname with ⟨hbracketed, heq⟩ | ⟨hplain, hempty, heq⟩
    · exact .inl ⟨hbracketed, by rw [heq, List.append_assoc]⟩
    · exact .inr ⟨hplain, hempty, by rw [heq]⟩

theorem nonblank_member (parts : Parts) (node : Node) : nonblank (parts.member node).declaration =
    nonblank parts.type ++ nonblank parts.name ++
      if parts.arraySize = "" then [] else brackets parts.arraySize :=
  nonblank_declaration _

/-- The declaration of a member spells what its element does, if and only if there is something
between the brackets of an array.  If there is nothing, exactly the brackets are lost. -/
theorem declared_as_spelled_iff {needs after : NameSet} {member : Member}
    (h : Member.read node needs = .ok (member, after)) :
    (nonblank member.declaration = spelled (Member.tokens node) ↔
      (DeclaresArray (Member.tokens node) → member.arraySize ≠ "")) ∧
    (DeclaresArray (Member.tokens node) → member.arraySize = "" →
      spelled (Member.tokens node) = nonblank member.declaration ++ ['[', ']']) := by
  obtain ⟨parts, hparts⟩ := (read_exactly_grammar node needs).1.1 ⟨_, h⟩
  rw [hparts.read_eq] at h
  obtain ⟨rfl, -⟩ := Prod.mk.inj (Except.ok.inj h)
  have hsize : (parts.member node).arraySize = parts.arraySize := rfl
  rw [nonblank_member, hsize]
  rcases hparts.spelled with ⟨harray, heq⟩ | ⟨hplain, hempty, heq⟩
  · rw [heq]
    by_cases hempty : parts.arraySize = ""
    · rw [if_pos hempty, hempty, List.append_nil]
      have hlost : brackets "" = ['[', ']'] := by decide
      rw [hlost]
      refine ⟨iff_of_false (fun hsame => ?_) fun hnonempty => hnonempty harray rfl, fun _ _ => rfl⟩
      exact absurd (List.self_eq_append_right.1 hsame) (List.cons_ne_nil _ _)
    · rw [if_neg hempty]
      exact ⟨iff_of_true rfl fun _ => hempty, fun _ hnone => absurd hnone hempty⟩
  · rw [heq, if_pos hempty, List.append_nil]
    exact ⟨iff_of_true rfl fun harray => absurd harray hplain,
      fun harray => absurd harray hplain⟩

/-- The sample is declared as it is spelled, with the constant that gives its size. -/
theorem sample_declared_as_spelled : ∃ member after,
    Member.read sampleParameter ∅ = .ok (member, after) ∧
      member.declaration = "const Color* const* ppColors[FACES]" ∧
      nonblank member.declaration = spelled (Member.tokens sampleParameter) := by
  have hread : (Member.read sampleParameter ∅).toOption.any (fun read =>
      read.1.declaration == "const Color* const* ppColors[FACES]" &&
        read.1.arraySize == "FACES") = true := by decide
  obtain ⟨⟨member, after⟩, hread, hboth⟩ := exists_of_any hread
  obtain ⟨hdeclaration, hsize⟩ := Bool.and_eq_true_iff.1 hboth
  refine ⟨member, after, hread, beq_iff_eq.1 hdeclaration,
    (declared_as_spelled_iff hread).1.2 fun _ => ?_⟩
  rw [beq_iff_eq.1 hsize]
  decide

/-- A parameter whose array has no size. -/
def unsizedParameter : Node :=
  ⟨"param", [],
   [.text "const ", .element "type" [] [.text "float"],
    .element "name" [] [.text "blendConstants"], .text "[]"]⟩

/-- The brackets of the array are lost, so that a single value is declared. -/
theorem unsized_not_declared_as_spelled : ∃ member after,
    Member.read unsizedParameter ∅ = .ok (member, after) ∧
      member.declaration = "const float blendConstants" ∧
      spelled (Member.tokens unsizedParameter) = "constfloatblendConstants[]".toList ∧
      nonblank member.declaration ≠ spelled (Member.tokens unsizedParameter) := by
  have hread : (Member.read unsizedParameter ∅).toOption.any (fun read =>
      read.1.declaration == "const float blendConstants") = true := by decide
  obtain ⟨⟨member, after⟩, hread, hdeclaration⟩ := exists_of_any hread
  refine ⟨member, after, hread, beq_iff_eq.1 hdeclaration, by decide, ?_⟩
  rw [beq_iff_eq.1 hdeclaration]
  decide

end Registry

end VulkanBindings
