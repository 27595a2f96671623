import Mathlib.Algebra.BigOperators.Group.List.Basic
import VulkanBindings.Proofs.Registry.Guards
import VulkanBindings.Proofs.Registry.Sizes
import VulkanBindings.Report.Counts

/-!
# Counts that agree with the spec

The counts of a summary are taken from a list of entities, each of which is looked up in the
table of its kind.  `categoryOf_meets` says what comes of one entity: its row has the
category of its kind and the guard of its entry.  So the counts are the numbers of entities
in the categories, whatever their order (`countEntities_eq`).

`counts_agree` compares these numbers with the sizes of the tables and the lists of the
handles, which are known from `Proofs.Registry.Sizes`.
-/

namespace VulkanBindings.Registry.Spec

/-- Whether the entry of an entity has a guard. -/
def isGuarded (spec : Spec) (entity : Entity) : Bool :=
  entity.kind.lookup?.any fun lookup => (spec.guardOf? lookup entity.name).any (!·.isEmpty)

end VulkanBindings.Registry.Spec

namespace VulkanBindings.Report

open Registry (Entity EntityKind Spec)

variable {spec : Spec} {entity : Entity} {entities : List Entity}

/-! ## Categories -/

/-- Whether an entity is of a category.  Commands are told apart by whether they are
methods, all others by their kinds. -/
def Category.includes (category : Category) (spec : Spec) (entity : Entity) : Bool :=
  match category with
  | .enums => entity.kind == .enum
  | .flags => entity.kind == .flags
  | .scalars => entity.kind == .scalar
  | .handles => entity.kind == .handle
  | .structs => entity.kind == .struct
  | .unions => entity.kind == .union
  | .commands => entity.kind == .command && !spec.isMethod entity.name
  | .methods => entity.kind == .command && spec.isMethod entity.name

/-- Whether an entity is in no category: a type of a function pointer, or one from elsewhere. -/
def isUncounted (entity : Entity) : Bool :=
  entity.kind == .callback || entity.kind == .required

/-- Every entity that a spec describes has a row, with its category and its guard, unless
it is of a kind that is not counted. -/
theorem categoryOf_meets (h : spec.Describes entity) :
    Meets (categoryOf spec entity)
      (fun row => ∀ category : Category,
        row.any (·.1 == category) = category.includes spec entity ∧
        row.any (fun row => row.1 == category && !row.2.isEmpty) =
          (category.includes spec entity && spec.isGuarded entity))
      fun _ => False := by
  have hentry := h.hasEntry
  unfold categoryOf Spec.isGuarded Category.includes
  cases hkind : entity.kind with
  | callback | required =>
    intro category
    cases category <;> exact ⟨rfl, rfl⟩
  | command =>
    rw [hkind] at hentry
    obtain ⟨command, hentry⟩ := Table.contains_iff.1 hentry
    dsimp only
    simp only [hentry, Spec.isMethod, EntityKind.lookup?, Spec.guardOf?, Option.any_some,
      Option.map_some]
    intro category
    cases command.isMethod <;> cases category <;> exact ⟨rfl, rfl⟩
  | enum | flags | handle | scalar | struct | union =>
    rw [hkind] at hentry
    obtain ⟨entry, hentry⟩ := Table.contains_iff.1 hentry
    dsimp only
    simp only [hentry, EntityKind.lookup?, Spec.guardOf?, Option.any_some, Option.map_some]
    intro category
    cases category <;> exact ⟨rfl, rfl⟩

/-! ## Counts of a list -/

/-- The number of entities of a category, and how many of them have a guard. -/
def countOf (spec : Spec) (entities : List Entity) (category : Category) : Count :=
  let total := entities.countP (category.includes spec)
  let guarded := entities.countP fun entity =>
    category.includes spec entity && spec.isGuarded entity
  ⟨total, total - guarded, guarded⟩

/-- The numbers of entities of all categories. -/
def countsOf (spec : Spec) (entities : List Entity) : Counts :=
  { enums := countOf spec entities .enums
    flags := countOf spec entities .flags
    scalars := countOf spec entities .scalars
    handles := countOf spec entities .handles
    structs := countOf spec entities .structs
    unions := countOf spec entities .unions
    commands := countOf spec entities .commands
    methods := countOf spec entities .methods }

/-- What is counted of the rows that are there is counted of all rows. -/
theorem countP_filterMap_id (rows : List (Option (Category × String)))
    (keep : Category × String → Bool) :
    (rows.filterMap id).countP keep = rows.countP (·.any keep) := by
  rw [List.countP_filterMap]
  congr 1
  funext row
  cases row <;> rfl

/-- The guards of a category are counted like the rows that they are in. -/
theorem ofGuards_rows (rows : List (Option (Category × String))) (category : Category) :
    Count.ofGuards (((rows.filterMap id).filter (·.1 == category)).map (·.2)) =
      let total := rows.countP (·.any (·.1 == category))
      let guarded := rows.countP (·.any fun row => row.1 == category && !row.2.isEmpty)
      ⟨total, total - guarded, guarded⟩ := by
  have htotal : (((rows.filterMap id).filter (·.1 == category)).map (·.2)).length =
      rows.countP (·.any (·.1 == category)) := by
    rw [List.length_map, ← List.countP_eq_length_filter, countP_filterMap_id]
  have hguarded : (((rows.filterMap id).filter (·.1 == category)).map (·.2)).countP
      (!·.isEmpty) = rows.countP (·.any fun row => row.1 == category && !row.2.isEmpty) := by
    rw [List.countP_map, List.countP_filter, ← countP_filterMap_id]
    congr 1
    funext row
    exact Bool.and_comm _ _
  unfold Count.ofGuards
  rw [htotal, hguarded]

/-- Entities that a spec describes are counted by their categories and guards. -/
theorem countEntities_eq (h : ∀ entity ∈ entities, spec.Describes entity) :
    countEntities spec entities = .ok (countsOf spec entities) := by
  have hrows : Meets (entities.mapM (categoryOf spec)) (fun _ => True) fun _ => False :=
    .mapM_any fun entity hentity => (categoryOf_meets (h entity hentity)).imp fun _ _ => trivial
  unfold countEntities
  cases hmap : entities.mapM (categoryOf spec) with
  | error failure => exact (hrows.of_error hmap).elim
  | ok rows =>
    obtain ⟨row, rfl, hrow⟩ := exists_eq_map_of_mapM none hmap
    have hcount : ∀ category, Count.ofGuards
        ((((entities.map row).filterMap id).filter (·.1 == category)).map (·.2)) =
        countOf spec entities category := by
      intro category
      have hany := fun entity hentity =>
        (categoryOf_meets (h entity hentity)).of_ok (hrow entity hentity) category
      have htotal : (entities.map row).countP (·.any (·.1 == category)) =
          entities.countP (category.includes spec) := by
        rw [List.countP_map]
        exact List.countP_congr fun entity hentity => by
          rw [Function.comp_apply, (hany entity hentity).1]
      have hguarded : (entities.map row).countP
          (·.any fun row => row.1 == category && !row.2.isEmpty) = entities.countP fun entity =>
            category.includes spec entity && spec.isGuarded entity := by
        rw [List.countP_map]
        exact List.countP_congr fun entity hentity => by
          rw [Function.comp_apply, (hany entity hentity).2]
      rw [ofGuards_rows, htotal, hguarded]
      rfl
    show Except.ok _ = _
    simp only [hcount]
    rfl

/-- The order of the entities does not matter to the counts. -/
theorem countsOf_perm {others : List Entity} (h : entities.Perm others) :
    countsOf spec entities = countsOf spec others := by
  have hcount : countOf spec entities = countOf spec others := by
    funext category
    unfold countOf
    rw [h.countP_eq, h.countP_eq]
  unfold countsOf
  rw [hcount]

/-! ## Counts and tables -/

/-- The count of a category. -/
def Counts.of (counts : Counts) : Category → Count
  | .enums => counts.enums
  | .flags => counts.flags
  | .scalars => counts.scalars
  | .handles => counts.handles
  | .structs => counts.structs
  | .unions => counts.unions
  | .commands => counts.commands
  | .methods => counts.methods

/-- The counts say of a spec how many entities of each category it has, as its list of
entities, its tables and the lists of its handles do. -/
structure Counts.Agree (counts : Counts) (spec : Spec) : Prop where
  divided : ∀ category, (counts.of category).plain + (counts.of category).guarded =
    (counts.of category).total
  total : ∀ category, (counts.of category).total = spec.entities.countP (category.includes spec)
  guarded : ∀ category, (counts.of category).guarded = spec.entities.countP fun entity =>
    category.includes spec entity && spec.isGuarded entity
  enums : counts.enums.total = spec.enums.size
  flags : counts.flags.total = spec.flags.size
  scalars : counts.scalars.total = spec.scalars.size
  handles : counts.handles.total = spec.handles.size
  aggregates : counts.structs.total + counts.unions.total = spec.structs.size
  commands : counts.commands.total + counts.methods.total = spec.commands.size
  methods : counts.methods.total = ((spec.handles.values.map (·.commands.length)).sum : Nat)
  all : counts.enums.total + counts.flags.total + counts.scalars.total + counts.handles.total +
    counts.structs.total + counts.unions.total + counts.commands.total + counts.methods.total +
    spec.entities.countP isUncounted = spec.entities.length

theorem of_countsOf (category : Category) :
    (countsOf spec entities).of category = countOf spec entities category := by
  cases category <;> rfl

/-- If each entity is of one of several sorts, or of none, as it is of all of them together,
then the numbers of entities of the sorts add up. -/
theorem sum_countP (sorts : List (Entity → Bool)) (together : Entity → Bool)
    (entities : List Entity)
    (h : ∀ entity, (sorts.map fun sort => (sort entity).toNat).sum = (together entity).toNat) :
    (sorts.map fun sort => entities.countP sort).sum = entities.countP together := by
  induction entities with
  | nil => simp
  | cons entity rest ih =>
    have hcons : ∀ sort : Entity → Bool,
        (entity :: rest).countP sort = rest.countP sort + (sort entity).toNat := by
      intro sort
      rw [List.countP_cons]
      cases sort entity <;> rfl
    simp only [hcons]
    rw [List.sum_map_add, ih, h]

/-- The structs and the unions are the entities with an aggregate. -/
theorem countP_aggregates (spec : Spec) (entities : List Entity) :
    entities.countP (Category.structs.includes spec) +
      entities.countP (Category.unions.includes spec) =
      entities.countP fun entity => entity.kind == .struct || entity.kind == .union := by
  have hsum := sum_countP [Category.structs.includes spec, Category.unions.includes spec]
    (fun entity => entity.kind == .struct || entity.kind == .union) entities ?_
  · simpa using hsum
  · intro entity
    simp only [List.map_cons, List.map_nil, List.sum_cons, List.sum_nil, Category.includes]
    cases entity.kind <;> rfl

/-- The free functions and the methods are the commands. -/
theorem countP_commands (spec : Spec) (entities : List Entity) :
    entities.countP (Category.commands.includes spec) +
      entities.countP (Category.methods.includes spec) =
      entities.countP (·.kind == .command) := by
  have hsum := sum_countP [Category.commands.includes spec, Category.methods.includes spec]
    (·.kind == .command) entities ?_
  · simpa using hsum
  · intro entity
    simp only [List.map_cons, List.map_nil, List.sum_cons, List.sum_nil, Category.includes]
    cases entity.kind <;> cases spec.isMethod entity.name <;> rfl

/-- Every entity is in one category, or in none. -/
theorem countP_all (spec : Spec) (entities : List Entity) :
    entities.countP (Category.enums.includes spec) +
      entities.countP (Category.flags.includes spec) +
      entities.countP (Category.scalars.includes spec) +
      entities.countP (Category.handles.includes spec) +
      entities.countP (Category.structs.includes spec) +
      entities.countP (Category.unions.includes spec) +
      entities.countP (Category.commands.includes spec) +
      entities.countP (Category.methods.includes spec) +
      entities.countP isUncounted = entities.length := by
  have hsum := sum_countP
    [Category.enums.includes spec, Category.flags.includes spec,
      Category.scalars.includes spec, Category.handles.includes spec,
      Category.structs.includes spec, Category.unions.includes spec,
      Category.commands.includes spec, Category.methods.includes spec, isUncounted]
    (fun _ => true) entities ?_
  · simp only [List.map_cons, List.map_nil, List.sum_cons, List.sum_nil, List.countP_true] at hsum
    omega
  · intro entity
    simp only [List.map_cons, List.map_nil, List.sum_cons, List.sum_nil, Category.includes,
      isUncounted]
    cases entity.kind <;> cases spec.isMethod entity.name <;> rfl

/-- The numbers of entities agree with the tables of a spec that agrees with itself. -/
theorem agree_countsOf (hspec : spec.Consistent) (hkeys : spec.DistinctKeys)
    (hlists : spec.ListsMethods) : (countsOf spec spec.entities).Agree spec where
  divided := by
    intro category
    rw [of_countsOf]
    exact sub_add_cancel _ _
  total := by
    intro category
    rw [of_countsOf]
    rfl
  guarded := by
    intro category
    rw [of_countsOf]
    rfl
  enums :=
    have hsize := hspec.size_of_kind hkeys.enums fun name => ⟨hspec.enums name, hspec.hasEntry⟩
    congrArg Nat.cast hsize.symm
  flags :=
    have hsize := hspec.size_of_kind hkeys.flags fun name => ⟨hspec.flags name, hspec.hasEntry⟩
    congrArg Nat.cast hsize.symm
  scalars :=
    have hsize := hspec.size_of_kind hkeys.scalars fun name => ⟨hspec.scalars name, hspec.hasEntry⟩
    congrArg Nat.cast hsize.symm
  handles :=
    have hsize := hspec.size_of_kind hkeys.handles fun name => ⟨hspec.handles name, hspec.hasEntry⟩
    congrArg Nat.cast hsize.symm
  aggregates := by
    rw [hspec.size_structs hkeys.structs, ← countP_aggregates spec, Int.natCast_add]
    rfl
  commands := by
    have hsize := hspec.size_of_kind hlists.distinct fun name =>
      ⟨hspec.commands name, hspec.hasEntry⟩
    rw [hsize, ← countP_commands spec, Int.natCast_add]
    rfl
  methods := congrArg Nat.cast (hlists.sum_length hspec hkeys.handles).symm
  all := by
    have hall := countP_all spec spec.entities
    unfold countsOf countOf
    dsimp only
    omega

/-- The counts of a registry that can be read are the same in whatever order its entities
are, and agree with its tables. -/
theorem counts_agree {root : Xml.Node} (hread : Spec.ofRegistry root = .ok spec) :
    ∃ counts : Counts, counts.Agree spec ∧ ∀ entities, entities.Perm spec.entities →
      countEntities { spec with entities } entities = .ok counts := by
  have hspec := Registry.consistent_of_ofRegistry hread
  have hkeys := Registry.Changes.distinctKeys
    ((Registry.ofRegistry_meets root).of_ok hread) Spec.distinctKeys_initial
  obtain ⟨hlists, -⟩ := Registry.methods_of_ofRegistry hread
  refine ⟨countsOf spec spec.entities, agree_countsOf hspec hkeys hlists, ?_⟩
  intro entities hperm
  -- The order of its own entities is nothing that a spec is asked for.
  show countEntities spec entities = _
  rw [countEntities_eq fun entity hentity => hspec.described entity (hperm.mem_iff.1 hentity),
    countsOf_perm hperm]

/-- The entities of two samples in reverse order.  In the first one a command is a method, and in
the second one an enum, the type of flags and the command have guards. -/
theorem sample_counts_agree :
    (∃ spec counts, Spec.ofRegistry (Wrapper.sampleRegistry "4") = .ok spec ∧
      countEntities { spec with entities := spec.entities.reverse } spec.entities.reverse =
        .ok counts ∧
      counts.Agree spec ∧ counts.commands = ⟨1, 1, 0⟩ ∧ counts.methods = ⟨1, 1, 0⟩) ∧
    ∃ spec counts, Spec.ofRegistry Registry.sampleExtensions = .ok spec ∧
      countEntities { spec with entities := spec.entities.reverse } spec.entities.reverse =
        .ok counts ∧
      counts.Agree spec ∧ counts.enums = ⟨2, 1, 1⟩ ∧ counts.flags = ⟨1, 0, 1⟩ := by
  have hmethods : (Spec.ofRegistry (Wrapper.sampleRegistry "4")).toOption.any (fun spec =>
      (countEntities { spec with entities := spec.entities.reverse }
        spec.entities.reverse).toOption.any fun counts =>
          counts.commands = ⟨1, 1, 0⟩ ∧ counts.methods = ⟨1, 1, 0⟩) = true := by
    decide +kernel
  have hguards : (Spec.ofRegistry Registry.sampleExtensions).toOption.any (fun spec =>
      (countEntities { spec with entities := spec.entities.reverse }
        spec.entities.reverse).toOption.any fun counts =>
          counts.enums = ⟨2, 1, 1⟩ ∧ counts.flags = ⟨1, 0, 1⟩) = true := by
    decide +kernel
  constructor
  · obtain ⟨spec, hread, hcounted⟩ := exists_of_any hmethods
    obtain ⟨counts, hcount, hnumbers⟩ := exists_of_any hcounted
    obtain ⟨others, hagree, horder⟩ := counts_agree hread
    obtain rfl := Except.ok.inj (hcount.symm.trans (horder _ spec.entities.reverse_perm))
    exact ⟨spec, counts, hread, hcount, hagree, of_decide_eq_true hnumbers⟩
  · obtain ⟨spec, hread, hcounted⟩ := exists_of_any hguards
    obtain ⟨counts, hcount, hnumbers⟩ := exists_of_any hcounted
    obtain ⟨others, hagree, horder⟩ := counts_agree hread
    obtain rfl := Except.ok.inj (hcount.symm.trans (horder _ spec.entities.reverse_perm))
    exact ⟨spec, counts, hread, hcount, hagree, of_decide_eq_true hnumbers⟩

end VulkanBindings.Report
