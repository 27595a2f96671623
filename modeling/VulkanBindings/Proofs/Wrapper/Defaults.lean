import VulkanBindings.Proofs.Wrapper.Declared
import VulkanBindings.Wrapper.Aggregate

/-!
# Defaults of members

The constructors of structs and unions ask for a default of each member that they set.
A struct gives null to a pointer and asks the table of defaults otherwise; a union asks the
table in any case, so that the two differ for pointers (`union_default_iff`).

The table has an entry for each entity that is a type.  All types of members are known
once the entities of a registry are in order, but one of them need not be an entity: the
storage type of all flags.  `fault_iff_flagsStorage` says that a struct or union finds a fault
of the registry for a member of that type, and for no other reason.
-/

namespace VulkanBindings.Wrapper

open Registry (Aggregate Entity EntityKind Fault Member Spec flagsStorage)

variable {root : Xml.Node} {context : Context} {spec : Spec} {entities : List Entity}
  {defaults : Table String} {name : String} {aggregate : Aggregate} {member : Member}
  {value other arraySize : String} {fault : Fault}

/-! ## Arrays of one value -/

theorem length_intercalate_replicate (separator value : String) (count : Nat) :
    (separator.intercalate (List.replicate (count + 1) value)).length =
      (count + 1) * value.length + count * separator.length := by
  induction count with
  | zero => simp
  | succ count ih =>
    rw [List.replicate_succ, List.replicate_succ, String.intercalate_cons_cons,
      String.length_append, String.length_append, ← List.replicate_succ, ih]
    simp only [Nat.add_mul]
    omega

/-- A text of copies says what is copied, if there are any. -/
theorem intercalate_replicate_inj (separator : String) {count : Nat} (hcount : count ≠ 0) :
    separator.intercalate (List.replicate count value) =
      separator.intercalate (List.replicate count other) ↔ value = other := by
  obtain ⟨count, rfl⟩ := Nat.exists_eq_succ_of_ne_zero hcount
  refine ⟨fun h => ?_, congrArg fun value => separator.intercalate (List.replicate _ value)⟩
  have hlength : value.length = other.length := by
    have htotal := congrArg String.length h
    rw [length_intercalate_replicate, length_intercalate_replicate] at htotal
    exact Nat.eq_of_mul_eq_mul_left count.succ_pos (Nat.add_right_cancel htotal)
  have hhead : ∀ text, separator.intercalate (List.replicate (count + 1) text) =
      text ++ separator.intercalate ("" :: List.replicate count text) := by
    intro text
    rw [List.replicate_succ, ← String.intercalate_cons_append, String.append_empty]
  rw [hhead, hhead, ← String.toList_inj, String.toList_append, String.toList_append] at h
  exact String.toList_inj.1 (List.append_inj h hlength).1

/-- The default of an array of this size never holds a value: the array is empty, or its size
cannot be used. -/
def HoldsNoValue (arraySize : String) : Prop :=
  Text.isDigits arraySize = true ∧
    ∀ count, Text.number arraySize = .ok count → count = 0 ∨ count > arrayLimit

theorem braced_inj : braced value = braced other ↔ value = other := by
  simp [braced]

theorem arrayDefault_of_number {count : Nat} (hdigits : Text.isDigits arraySize = true)
    (hnumber : Text.number arraySize = .ok count) (hcount : count ≤ arrayLimit) (value : String) :
    arrayDefault value arraySize =
      .ok (braced (", ".intercalate (List.replicate count value))) := by
  unfold arrayDefault
  rw [if_pos hdigits, hnumber]
  show (if count > arrayLimit then _ else _) = _
  rw [if_neg (Nat.not_lt.2 hcount)]
  rfl

theorem HoldsNoValue.arrayDefault_eq (h : HoldsNoValue arraySize) (value other : String) :
    arrayDefault value arraySize = arrayDefault other arraySize := by
  obtain ⟨hdigits, hnone⟩ := h
  unfold arrayDefault
  rw [if_pos hdigits, if_pos hdigits]
  cases hnumber : Text.number arraySize with
  | error fault => rfl
  | ok count =>
    rcases hnone count hnumber with rfl | hlong
    · rfl
    · show (if count > arrayLimit then _ else _) = (if count > arrayLimit then _ else _)
      rw [if_pos hlong, if_pos hlong]
      rfl

/-- The default of an array says what its values are, if it holds any. -/
theorem arrayDefault_eq_iff :
    arrayDefault value arraySize = arrayDefault other arraySize ↔
      value = other ∨ HoldsNoValue arraySize := by
  by_cases hnone : HoldsNoValue arraySize
  · exact iff_of_true (hnone.arrayDefault_eq value other) (.inr hnone)
  rw [or_iff_left hnone]
  by_cases hdigits : Text.isDigits arraySize = true
  · obtain ⟨count, hnumber, hcount⟩ : ∃ count, Text.number arraySize = .ok count ∧
        ¬ (count = 0 ∨ count > arrayLimit) := by
      simpa [HoldsNoValue, hdigits] using hnone
    obtain ⟨hsome, hshort⟩ := not_or.1 hcount
    rw [arrayDefault_of_number hdigits hnumber (Nat.not_lt.1 hshort),
      arrayDefault_of_number hdigits hnumber (Nat.not_lt.1 hshort), Except.ok.injEq, braced_inj,
      intercalate_replicate_inj _ hsome]
  · unfold arrayDefault
    rw [if_neg hdigits, if_neg hdigits, ← braced_inj]
    show Except.ok _ = Except.ok _ ↔ _
    rw [Except.ok.injEq]

/-! ## Structs and unions -/

/-- The default of a member whose type, without an array, has the given one. -/
def sizedDefault (arraySize value : String) : Except Failure String :=
  if arraySize.isEmpty then .ok value else arrayDefault value arraySize

theorem sizedDefault_eq_iff :
    sizedDefault arraySize value = sizedDefault arraySize other ↔
      value = other ∨ HoldsNoValue arraySize := by
  unfold sizedDefault
  split
  · rename_i hempty
    have hsome : ¬ HoldsNoValue arraySize := by
      rintro ⟨hdigits, -⟩
      simp [Text.isDigits, hempty] at hdigits
    rw [Except.ok.injEq, or_iff_left hsome]
  · exact arrayDefault_eq_iff

/-- Writing values down shows no defect of the registry. -/
theorem sizedDefault_ne_fault (arraySize value : String) (fault : Fault) :
    sizedDefault arraySize value ≠ .error (.registry fault) := by
  unfold sizedDefault arrayDefault
  split
  · nofun
  split
  · cases Text.number arraySize with
    | error fault => nofun
    | ok count =>
      show (if count > arrayLimit then _ else _) ≠ _
      split <;> nofun
  · nofun

/-- The default that the constructor of a struct has for a member: null values if it is a
pointer. -/
def structDefault (defaults : Table String) (member : Member) : Except Failure String :=
  if member.isPointer then sizedDefault member.arraySize "nullptr"
  else (liftM (defaultFor defaults member) : Except Failure String) >>=
    sizedDefault member.arraySize

/-- The parameter of a struct's constructor for a member, without its default. -/
def structParameter (member : Member) : String :=
  if member.arraySize.isEmpty then s!"{member.type} {member.name}_"
  else s!"{arrayType member} const& {member.name}_"

theorem constructorParameter_eq (defaults : Table String) (member : Member) :
    constructorParameter defaults member =
      (structDefault defaults member).map fun value => s!"{structParameter member} = {value}" := by
  have hmark : ∀ start value : String,
      start ++ "_ = " ++ value = start ++ "_" ++ " = " ++ value := by
    intro start value
    have hsplit : "_ = " = "_" ++ " = " := rfl
    simp only [hsplit, String.append_assoc]
  unfold constructorParameter
  extract_lets rest
  have hrest : ∀ value, rest value = (sizedDefault member.arraySize value).map
      fun value => s!"{structParameter member} = {value}" := by
    intro value
    unfold rest sizedDefault structParameter
    split
    · exact congrArg Except.ok (hmark (member.type ++ " " ++ member.name) value)
    · cases arrayDefault value member.arraySize with
      | error failure => rfl
      | ok values =>
        exact congrArg Except.ok (hmark (arrayType member ++ " const& " ++ member.name) values)
  unfold structDefault
  split
  · exact hrest "nullptr"
  · rw [map_bind]
    exact bind_congr hrest

theorem unionConstructors_cons (defaults : Table String) (name : String) (first : Member)
    (rest : List Member) :
    unionConstructors defaults name (first :: rest) =
      (unionDefault defaults first).map fun value =>
        unionConstructorLines name s!"{unionParameter first} = {value}" first ++
          rest.flatMap fun member => unionConstructorLines name (unionParameter member) member := by
  show (unionDefault defaults first >>= fun value => pure _) = _
  cases unionDefault defaults first <;> rfl

theorem defaultFor_eq (defaults : Table String) (member : Member) :
    (liftM (defaultFor defaults member) : Except Failure String) =
      match defaults.get? member.baseType with
      | some text => .ok text
      | none => .error (.registry (.noDefault member.baseType member.name)) := by
  unfold defaultFor
  cases defaults.get? member.baseType <;> rfl

theorem unionDefault_eq (defaults : Table String) (member : Member) :
    unionDefault defaults member =
      (liftM (defaultFor defaults member) : Except Failure String) >>=
        sizedDefault member.arraySize := rfl

/-- The constructor of a union has the same default for its first member as that of a struct has
for such a member, unless it is a pointer.  For a pointer both have the same only where the type
behind it has null for its default, or has any and no value is written. -/
theorem union_default_iff (defaults : Table String) (member : Member) :
    constructorParameter defaults member =
        (structDefault defaults member).map (fun value => s!"{structParameter member} = {value}") ∧
    (∀ name rest, unionConstructors defaults name (member :: rest) =
      (unionDefault defaults member).map fun value =>
        unionConstructorLines name s!"{unionParameter member} = {value}" member ++
          rest.flatMap fun other => unionConstructorLines name (unionParameter other) other) ∧
    (structDefault defaults member = unionDefault defaults member ↔
      member.isPointer = false ∨ ∃ text, defaults.get? member.baseType = some text ∧
        (text = "nullptr" ∨ HoldsNoValue member.arraySize)) := by
  refine ⟨constructorParameter_eq defaults member,
    fun name rest => unionConstructors_cons defaults name member rest, ?_⟩
  rw [unionDefault_eq]
  unfold structDefault
  cases hpointer : member.isPointer with
  | false => simp
  | true =>
    rw [if_pos rfl, defaultFor_eq]
    cases hdefault : defaults.get? member.baseType with
    | none =>
      -- Only the union asks for the default of the type.
      refine iff_of_false (fun hsame => ?_) (by simp)
      exact sizedDefault_ne_fault member.arraySize "nullptr" _ hsame
    | some text =>
      show sizedDefault member.arraySize "nullptr" = sizedDefault member.arraySize text ↔ _
      rw [sizedDefault_eq_iff, eq_comm]
      simp

/-- The default of a pointer to numbers is null in a struct and zero in a union.  A pointer to a
type without a default has none in a union. -/
theorem pointer_default_differs :
    (structDefault ⟨[("float", "0")]⟩ ⟨"const float*", "pValues", "float", "", "", false⟩ =
        .ok "nullptr" ∧
      unionDefault ⟨[("float", "0")]⟩ ⟨"const float*", "pValues", "float", "", "", false⟩ =
        .ok "0") ∧
    structDefault ∅ ⟨"const Thing*", "pThing", "Thing", "", "", false⟩ = .ok "nullptr" ∧
      unionDefault ∅ ⟨"const Thing*", "pThing", "Thing", "", "", false⟩ =
        .error (.registry (.noDefault "Thing" "pThing")) :=
  ⟨⟨rfl, rfl⟩, rfl, rfl⟩

/-! ## Types without a default -/

/-- A union finds nothing wrong with a registry but that its first member has no default. -/
theorem unionDefault_eq_fault_iff : unionDefault defaults member = .error (.registry fault) ↔
    defaults.get? member.baseType = none ∧ fault = .noDefault member.baseType member.name := by
  rw [unionDefault_eq, defaultFor_eq]
  cases defaults.get? member.baseType with
  | none =>
    show Except.error _ = Except.error _ ↔ _
    simp [eq_comm]
  | some text => exact iff_of_false (sizedDefault_ne_fault _ text fault) (by simp)

/-- A struct does so for each member, unless it is a pointer. -/
theorem constructorParameter_eq_fault_iff :
    constructorParameter defaults member = .error (.registry fault) ↔
      member.isPointer = false ∧ defaults.get? member.baseType = none ∧
        fault = .noDefault member.baseType member.name := by
  have hmap : constructorParameter defaults member = .error (.registry fault) ↔
      structDefault defaults member = .error (.registry fault) := by
    rw [constructorParameter_eq]
    cases structDefault defaults member with
    | ok text => exact iff_of_false nofun nofun
    | error failure => exact Iff.rfl
  rw [hmap, ← unionDefault_eq_fault_iff, unionDefault_eq]
  unfold structDefault
  split
  · rename_i hpointer
    exact iff_of_false (sizedDefault_ne_fault _ _ fault) (by simp [hpointer])
  · rename_i hpointer
    simp [hpointer]

/-- Of all that a struct is written with, only the parameters of its constructor can be missing a
default. -/
theorem structLines_eq_fault_iff :
    structLines defaults name aggregate = .error (.registry fault) ↔
      aggregate.returnedOnly = false ∧ ∃ member,
        ComesTo (constructorParameter defaults) member
          (aggregate.members.filter (!isImplicit ·)) ∧
        constructorParameter defaults member = .error (.registry fault) := by
  unfold structLines fillingLines
  cases aggregate.returnedOnly with
  | true => exact iff_of_false nofun (by simp)
  | false =>
    rw [if_neg Bool.false_ne_true, ← mapM_eq_error_iff]
    unfold constructorLines
    cases (aggregate.members.filter (!isImplicit ·)).mapM (constructorParameter defaults) with
    | ok parameters => exact iff_of_false nofun (by simp)
    | error failure =>
      show Except.error _ = Except.error _ ↔ _
      simp

theorem unionLines_eq_fault_iff {wrapped : NameSet} :
    unionLines defaults wrapped name aggregate = .error (.registry fault) ↔
      ∃ first rest, aggregate.members = first :: rest ∧
        unionDefault defaults first = .error (.registry fault) := by
  unfold unionLines
  cases aggregate.members with
  | nil => exact iff_of_false nofun (by simp)
  | cons first rest =>
    rw [unionConstructors_cons]
    cases hfirst : unionDefault defaults first with
    | ok value => exact iff_of_false nofun (by simp [hfirst])
    | error failure =>
      show Except.error _ = Except.error _ ↔ _
      simp [hfirst]

/-! ## The table of defaults -/

/-- The name is that of an entity other than a command. -/
def IsTypeOf (entities : List Entity) (name : String) : Prop :=
  ∃ entity ∈ entities, entity.name = name ∧ entity.kind ≠ .command

theorem isTypeOf_concat {entity : Entity} {name : String} : IsTypeOf (entities ++ [entity]) name ↔
    IsTypeOf entities name ∨ entity.name = name ∧ entity.kind ≠ .command := by
  simp [IsTypeOf, or_and_right, exists_or]

theorem defaultOf_meets (spec : Spec) (entity : Entity) :
    Meets (defaultOf spec entity) (fun text => text.isSome = true ↔ entity.kind ≠ .command)
      fun _ => True := by
  unfold defaultOf
  cases entity.kind with
  | enum =>
    rw [meets_bind]
    exact .ofValues fun enumeration _ => by simp [pure, Except.pure]
  | command | flags | callback | handle | required | scalar | struct | union => simp

/-- Every entity but a command has a default. -/
theorem contains_defaultsOf_iff (h : defaultsOf spec entities = .ok defaults) (name : String) :
    defaults.contains name = true ↔ IsTypeOf entities name := by
  suffices hall : Meets (defaultsOf spec entities)
      (fun table => ∀ name, table.contains name = true ↔ IsTypeOf entities name) fun _ => True from
    hall.of_ok h name
  unfold defaultsOf
  refine Meets.foldlM_along (fun done (table : Table String) => ∀ name,
    table.contains name = true ↔ IsTypeOf done name) (by simp [IsTypeOf]) ?_
  intro done table entity _ hdone
  rw [meets_bind]
  refine (defaultOf_meets spec entity).imp fun text htext => ?_
  cases text with
  | none =>
    have hkind : entity.kind = .command := by simpa using htext
    exact fun name => (hdone name).trans (by simp [isTypeOf_concat, hkind])
  | some text =>
    have hkind : entity.kind ≠ .command := by simpa using htext
    intro name
    rw [Table.contains_set, hdone name, isTypeOf_concat, or_comm, eq_comm, and_iff_left hkind]

/-! ## Aggregates of a prepared registry -/

/-- A type has a default in a prepared registry exactly if it is an entity and no command. -/
theorem Prepared.contains_defaults_iff (h : Prepared root context) (name : String) :
    context.defaults.contains name = true ↔ IsTypeOf context.entities name :=
  contains_defaultsOf_iff h.defaults name

theorem Prepared.mem_entities_iff (h : Prepared root context) {entity : Entity} :
    entity ∈ context.entities ↔ entity ∈ context.spec.entities :=
  (perm_of_ordered h.ordered).mem_iff

/-- The type of a member is the storage type of all flags, or an entity. -/
theorem Prepared.member_known (h : Prepared root context)
    (haggregate : context.spec.structs.get? name = some aggregate)
    (hmember : member ∈ aggregate.members) :
    member.baseType = flagsStorage ∨
      ∃ entity ∈ context.entities, entity.name = member.baseType := by
  obtain ⟨entity, hmem, rfl, hkind⟩ : ∃ entity ∈ context.spec.entities, entity.name = name ∧
      (entity.kind = .struct ∨ entity.kind = .union) := by
    rcases h.consistent.structs name (Table.contains_iff.2 ⟨aggregate, haggregate⟩) with
      ⟨entity, hmem, hname, hkind⟩ | ⟨entity, hmem, hname, hkind⟩
    · exact ⟨entity, hmem, hname, .inl hkind⟩
    · exact ⟨entity, hmem, hname, .inr hkind⟩
  have hordered := h.mem_entities_iff.2 hmem
  obtain ⟨before, after, hsplit⟩ := List.append_of_mem hordered
  have hdeclared : ∃ other, context.spec.structs.get? entity.name = some other ∧
      ∀ member ∈ other.members,
        member.baseType = entity.name ∨ Available before member.baseType := by
    have hdeclared := h.declaredAfter hsplit
    unfold DeclaredAfter at hdeclared
    rcases hkind with hkind | hkind <;> simpa only [hkind] using hdeclared
  obtain ⟨other, hother, hmembers⟩ := hdeclared
  obtain rfl := Option.some.inj (haggregate.symm.trans hother)
  rcases hmembers member hmember with hself | hflags | hbefore
  · exact .inr ⟨entity, hordered, hself.symm⟩
  · exact .inl hflags
  · obtain ⟨earlier, hearlier, hname⟩ := List.mem_map.1 hbefore
    exact .inr ⟨earlier, by rw [hsplit]; exact List.mem_append_left _ hearlier, hname⟩

/-- So the default that is missing can only be that of the storage type of all flags, unless a
member has the name of a command for its type. -/
theorem Prepared.get?_defaults_eq_none_iff (h : Prepared root context)
    (haggregate : context.spec.structs.get? name = some aggregate)
    (hcommands : ∀ member ∈ aggregate.members, ¬ context.spec.HasKind .command member.baseType)
    (hmember : member ∈ aggregate.members) :
    context.defaults.get? member.baseType = none ↔
      member.baseType = flagsStorage ∧ context.spec.hasEntity flagsStorage = false := by
  rw [← Table.not_contains_iff, ← Bool.not_eq_true, h.contains_defaults_iff]
  have htype : ∀ entity ∈ context.entities, entity.name = member.baseType →
      IsTypeOf context.entities member.baseType := by
    intro entity hentity hname
    refine ⟨entity, hentity, hname, fun hkind => hcommands member hmember ?_⟩
    exact ⟨entity, h.mem_entities_iff.1 hentity, hname, hkind⟩
  constructor
  · intro hnone
    have hflags : member.baseType = flagsStorage := by
      refine (h.member_known haggregate hmember).resolve_right ?_
      rintro ⟨entity, hentity, hname⟩
      exact hnone (htype entity hentity hname)
    refine ⟨hflags, Registry.Spec.hasEntity_eq_false_iff.2 fun entity hentity hname => hnone ?_⟩
    exact htype entity (h.mem_entities_iff.2 hentity) (hname.trans hflags.symm)
  · rintro ⟨hflags, hnew⟩ ⟨entity, hentity, hname, -⟩
    exact Registry.Spec.hasEntity_eq_false_iff.1 hnew entity (h.mem_entities_iff.1 hentity)
      (hname.trans hflags)

/-- In a prepared registry where no member has a command for its type, aggregates find a fault
exactly in members of the storage type of all flags, if that is no entity.  A struct that
applications fill in fails for the first member of that type that is no pointer and that its
constructor sets as told, unless it fails earlier; a union fails if its first member is one. -/
theorem fault_iff_flagsStorage (hprepare : prepare root = .ok context)
    (haggregate : context.spec.structs.get? name = some aggregate)
    (hcommands : ∀ member ∈ aggregate.members, ¬ context.spec.HasKind .command member.baseType)
    (wrapped : NameSet) (fault : Fault) :
    (structLines context.defaults name aggregate = .error (.registry fault) ↔
      context.spec.hasEntity flagsStorage = false ∧ aggregate.returnedOnly = false ∧
        ∃ member, ComesTo (constructorParameter context.defaults) member
            (aggregate.members.filter (!isImplicit ·)) ∧
          member.isPointer = false ∧ member.baseType = flagsStorage ∧
          fault = .noDefault flagsStorage member.name) ∧
    (unionLines context.defaults wrapped name aggregate = .error (.registry fault) ↔
      context.spec.hasEntity flagsStorage = false ∧
        ∃ first rest, aggregate.members = first :: rest ∧ first.baseType = flagsStorage ∧
          fault = .noDefault flagsStorage first.name) := by
  have hprepared := prepare_eq_ok_iff.1 hprepare
  have hnone : ∀ member ∈ aggregate.members, context.defaults.get? member.baseType = none ↔
      member.baseType = flagsStorage ∧ context.spec.hasEntity flagsStorage = false :=
    fun member hmember => hprepared.get?_defaults_eq_none_iff haggregate hcommands hmember
  rw [structLines_eq_fault_iff, unionLines_eq_fault_iff]
  simp only [constructorParameter_eq_fault_iff, unionDefault_eq_fault_iff]
  constructor
  · constructor
    · rintro ⟨hfilled, member, hcomes, hpointer, hdefault, rfl⟩
      obtain ⟨hflags, hnew⟩ := (hnone member (List.mem_of_mem_filter hcomes.mem)).1 hdefault
      exact ⟨hnew, hfilled, member, hcomes, hpointer, hflags, by rw [hflags]⟩
    · rintro ⟨hnew, hfilled, member, hcomes, hpointer, hflags, rfl⟩
      have hdefault := (hnone member (List.mem_of_mem_filter hcomes.mem)).2 ⟨hflags, hnew⟩
      exact ⟨hfilled, member, hcomes, hpointer, hdefault, by rw [hflags]⟩
  · constructor
    · rintro ⟨first, rest, hmembers, hdefault, rfl⟩
      have hfirst : first ∈ aggregate.members := hmembers ▸ List.mem_cons_self
      obtain ⟨hflags, hnew⟩ := (hnone first hfirst).1 hdefault
      exact ⟨hnew, first, rest, hmembers, hflags, by rw [hflags]⟩
    · rintro ⟨hnew, first, rest, hmembers, hflags, rfl⟩
      have hfirst : first ∈ aggregate.members := hmembers ▸ List.mem_cons_self
      exact ⟨first, rest, hmembers, (hnone first hfirst).2 ⟨hflags, hnew⟩, by rw [hflags]⟩

instance decidableHasKind (spec : Spec) (kind : EntityKind) (name : String) :
    Decidable (spec.HasKind kind name) :=
  inferInstanceAs (Decidable (∃ entity ∈ spec.entities, entity.name = name ∧ entity.kind = kind))

/-- The struct of the small registry has all its defaults. -/
theorem range_has_defaults : ∃ context aggregate, prepare (sampleRegistry "4") = .ok context ∧
    context.spec.structs.get? "Range" = some aggregate ∧
    (∀ member ∈ aggregate.members, ¬ context.spec.HasKind .command member.baseType) ∧
    ∀ fault, structLines context.defaults "Range" aggregate ≠ .error (.registry fault) := by
  have hsample : ∃ context, prepare (sampleRegistry "4") = .ok context ∧
      ((context.spec.structs.get? "Range").any fun aggregate => decide
        (∀ member ∈ aggregate.members, member.baseType ≠ flagsStorage ∧
          ¬ context.spec.HasKind .command member.baseType)) = true :=
    exists_prepare_of_inOrder (fun context => (context.spec.structs.get? "Range").any _)
      (by decide +kernel)
  obtain ⟨context, hprepare, hrange⟩ := hsample
  obtain ⟨aggregate, haggregate, hmembers⟩ := (Option.any_eq_true _ _).1 hrange
  have hmembers := of_decide_eq_true hmembers
  have hcommands : ∀ member ∈ aggregate.members,
      ¬ context.spec.HasKind .command member.baseType :=
    fun member hmember => (hmembers member hmember).2
  refine ⟨context, aggregate, hprepare, haggregate, hcommands, fun fault hfault => ?_⟩
  obtain ⟨-, -, member, hcomes, -, hflags, -⟩ :=
    (fault_iff_flagsStorage hprepare haggregate hcommands ∅ fault).1.1 hfault
  exact (hmembers member (List.mem_of_mem_filter hcomes.mem)).1 hflags

/-- A registry with a struct that has a member of the storage type of all flags. -/
def maskRegistry : Xml.Node :=
  ⟨"registry", [],
   [.element "types" []
     [.element "type" [("requires", "vk_platform"), ("name", "void")] [],
      .element "type" [("category", "define")]
        [.text "#define ", .element "name" [] [.text "VK_HEADER_VERSION"], .text " 8"],
      .element "type" [("category", "define"), ("name", "VK_DEFINE_NON_DISPATCHABLE_HANDLE")]
        [.text "#if defined(__LP64__)"],
      .element "type" [("category", "struct"), ("name", "VkUsage")]
        [.element "member" []
          [.element "type" [] [.text "VkFlags"], .element "name" [] [.text "mask"]]]],
    .element "enums" [("name", "VkResult"), ("type", "enum")]
      [.element "enum" [("value", "0"), ("name", "VK_SUCCESS")] []]]⟩

/-- It can be prepared, but its struct cannot be written. -/
theorem mask_lacks_default : ∃ context aggregate, prepare maskRegistry = .ok context ∧
    context.spec.structs.get? "Usage" = some aggregate ∧
    (∀ member ∈ aggregate.members, ¬ context.spec.HasKind .command member.baseType) ∧
    structLines context.defaults "Usage" aggregate =
      .error (.registry (.noDefault "Flags" "mask")) ∧
    (Fault.noDefault "Flags" "mask").report.code = .unknownEntity := by
  have hmask : ∃ context, prepare maskRegistry = .ok context ∧
      (decide (context.defaults.get? "Flags" = none) &&
        (context.spec.structs.get? "Usage").any fun aggregate =>
          decide (¬ context.spec.HasKind .command "Flags") &&
          decide (aggregate.returnedOnly = false ∧
            aggregate.members = [⟨"Flags", "mask", "Flags", "", "", false⟩])) = true :=
    exists_prepare_of_inOrder _ (by decide +kernel)
  obtain ⟨context, hprepare, hmask⟩ := hmask
  obtain ⟨hdefault, hstruct⟩ := Bool.and_eq_true_iff.1 hmask
  obtain ⟨aggregate, haggregate, hstruct⟩ := (Option.any_eq_true _ _).1 hstruct
  obtain ⟨hcommand, hfilled, hmembers⟩ := (Bool.and_eq_true_iff.1 hstruct).imp
    of_decide_eq_true of_decide_eq_true
  refine ⟨context, aggregate, hprepare, haggregate, ?_, ?_, rfl⟩
  · rw [hmembers]
    simpa using hcommand
  · rw [structLines_eq_fault_iff, hmembers]
    refine ⟨hfilled, ⟨"Flags", "mask", "Flags", "", "", false⟩, .here [], ?_⟩
    exact constructorParameter_eq_fault_iff.2 ⟨by decide, of_decide_eq_true hdefault, rfl⟩

end VulkanBindings.Wrapper
