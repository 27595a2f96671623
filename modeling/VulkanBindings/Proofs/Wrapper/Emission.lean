import VulkanBindings.Proofs.Registry.Methods
import VulkanBindings.Proofs.Wrapper.CommandBlock
import VulkanBindings.Proofs.Wrapper.Writing

/-!
# Where commands are written

The bindings of a registry are a list of lines, in which it cannot be seen where
the overloads of a command start and end.  This file writes the same bindings a
second time, in stretches: each stretch has the overloads of one command, or lines
that belong to no command.  `typeStretches_lines` says that these are the same
bindings, line by line, and `typeStretches_others` that the lines which belong to no
command are the bindings of a registry without commands.

What is known of the methods of handles then says how often a command is written.
Its overloads stand in the bindings of one entity, its home: the handle that it
is a method of, or the command itself.  Every entity is written once, and a handle
writes each of its methods once, between the head and the tail of its class, so that
one stretch has the overloads (`commands_emitted_once`).
-/

namespace VulkanBindings

/-! ## Blocks that one item brings -/

section Blocks

variable {α β : Type} {related : α → List β → Prop} {keep : β → Bool} {items : List α}
  {blocks : List (List β)}

/-- Nothing is kept of blocks of which none has anything to keep. -/
theorem filter_flatten_eq_nil (h : List.Forall₂ related items blocks)
    (hnone : ∀ item ∈ items, ∀ block, related item block → block.filter keep = []) :
    blocks.flatten.filter keep = [] := by
  induction h with
  | nil => rfl
  | @cons item block items blocks hblock _ ih =>
    have hfirst : block.filter keep = [] := hnone item List.mem_cons_self block hblock
    have hrest : blocks.flatten.filter keep = [] :=
      ih fun other hother => hnone other (List.mem_cons_of_mem _ hother)
    rw [List.flatten_cons, List.filter_append, hfirst, hrest, List.append_nil]

/-- If only the block of one item has anything to keep, this is all that is kept. -/
theorem filter_flatten_of_mem (h : List.Forall₂ related items blocks) (hdistinct : items.Nodup)
    {home : α} (hhome : home ∈ items)
    (hother : ∀ item ∈ items, item ≠ home → ∀ block, related item block → block.filter keep = []) :
    ∃ block, related home block ∧ blocks.flatten.filter keep = block.filter keep := by
  induction h with
  | nil => cases hhome
  | @cons item block items blocks hblock hblocks ih =>
    obtain ⟨hnew, hdistinct⟩ := List.nodup_cons.1 hdistinct
    rw [List.flatten_cons, List.filter_append]
    by_cases heq : item = home
    · subst heq
      have hrest : blocks.flatten.filter keep = [] := by
        refine filter_flatten_eq_nil hblocks fun other hmem => ?_
        have hne : other ≠ item := fun heq => hnew (heq ▸ hmem)
        exact hother other (List.mem_cons_of_mem _ hmem) hne
      exact ⟨block, hblock, by rw [hrest, List.append_nil]⟩
    · have hmem : home ∈ items := (List.mem_cons.1 hhome).resolve_left (Ne.symm heq)
      have hfirst : block.filter keep = [] := hother item List.mem_cons_self heq block hblock
      obtain ⟨found, hfound, hkept⟩ := ih hdistinct hmem fun other hmem =>
        hother other (List.mem_cons_of_mem _ hmem)
      exact ⟨found, hfound, by rw [hfirst, List.nil_append, hkept]⟩

/-- What is made of some of the items is what the blocks of all have to show, if those of
the others have nothing. -/
theorem mapM_filter_of_forall₂ {γ ε : Type} {make : α → Except ε (List γ)}
    {shown : List β → List γ} {chosen : α → Bool} (h : List.Forall₂ related items blocks)
    (hmake : ∀ item block, related item block →
      if chosen item then make item = .ok (shown block) else shown block = []) :
    ∃ values, (items.filter chosen).mapM make = .ok values ∧
      values.flatten = (blocks.map shown).flatten := by
  induction h with
  | nil => exact ⟨[], rfl, rfl⟩
  | @cons item block items blocks hblock _ ih =>
    obtain ⟨values, hvalues, hflatten⟩ := ih
    have hfirst := hmake item block hblock
    cases hchosen : chosen item with
    | false =>
      rw [hchosen, if_neg Bool.false_ne_true] at hfirst
      refine ⟨values, ?_, ?_⟩
      · rw [List.filter_cons_of_neg (by simp [hchosen])]
        exact hvalues
      · rw [List.map_cons, List.flatten_cons, hfirst, List.nil_append, hflatten]
    | true =>
      rw [hchosen, if_pos rfl] at hfirst
      refine ⟨shown block :: values, ?_, ?_⟩
      · rw [List.filter_cons_of_pos hchosen, List.mapM_cons, hfirst, hvalues]
        rfl
      · rw [List.flatten_cons, hflatten, List.map_cons, List.flatten_cons]

end Blocks

namespace Wrapper

open Analysis (Analyzed)
open Registry (Command Entity Handle Spec)

/-! ## A registry without commands -/

/-- What writing the bindings would need to know if the registry had no commands. -/
def Context.withoutCommands (context : Context) : Context where
  spec :=
    { context.spec with
      commands := ∅
      handles := context.spec.handles.map ({ · with commands := [] }) }
  entities := context.entities.filter (·.kind != .command)
  analyzed := ∅
  defaults := context.defaults

theorem withoutCommands_handle {context : Context} {name : String} {handle : Handle}
    (h : context.handle name = .ok handle) :
    context.withoutCommands.handle name = .ok { handle with commands := [] } := by
  refine find_of_get? ?_
  show (context.spec.handles.map _).get? name = _
  rw [Table.get?_map, get?_of_find h]
  rfl

/-- Only commands and handles know of commands. -/
theorem entityLines_withoutCommands {context : Context} {entity : Entity}
    (hcommand : entity.kind ≠ .command) (hhandle : entity.kind ≠ .handle) :
    entityLines context.withoutCommands entity = entityLines context entity := by
  unfold entityLines
  cases hkind : entity.kind with
  | command => exact absurd hkind hcommand
  | handle => exact absurd hkind hhandle
  | enum | flags | callback | required | scalar | struct | union => rfl

/-! ## Bindings in stretches -/

/-- A part of the bindings. -/
inductive Stretch where
  /-- The overloads of a command: methods in the class of a handle, or free functions. -/
  | overloads (command : String) (owner : Option String) (block : List String)
  /-- Lines that belong to no command. -/
  | other (lines : List String)

namespace Stretch

/-- The lines of a stretch.  A blank one follows overloads. -/
def lines : Stretch → List String
  | overloads _ _ block => block ++ [""]
  | other lines => lines

/-- The lines of a stretch that belong to no command. -/
def otherLines : Stretch → List String
  | overloads _ _ _ => []
  | other lines => lines

/-- Whether a stretch has the overloads of the given command. -/
def isOf (name : String) : Stretch → Bool
  | overloads command _ _ => command == name
  | other _ => false

/-- A stretch has the overloads of a method of the given handle. -/
def IsMethodOf (handle : String) : Stretch → Prop
  | overloads _ owner _ => owner = some handle
  | other _ => False

@[simp] theorem isOf_overloads (name command : String) (owner : Option String)
    (block : List String) : (overloads command owner block).isOf name = (command == name) := rfl

@[simp] theorem isOf_other (name : String) (lines : List String) :
    (other lines).isOf name = false := rfl

end Stretch

/-- The lines of some stretches. -/
def linesOf (stretches : List Stretch) : List String :=
  stretches.flatMap Stretch.lines

/-- The lines of some stretches that belong to no command. -/
def otherLinesOf (stretches : List Stretch) : List String :=
  stretches.flatMap Stretch.otherLines

theorem linesOf_flatten (blocks : List (List Stretch)) :
    linesOf blocks.flatten = (blocks.map linesOf).flatten := by
  induction blocks with
  | nil => rfl
  | cons block blocks ih =>
    rw [List.flatten_cons, List.map_cons, List.flatten_cons, ← ih]
    exact List.flatMap_append

theorem otherLinesOf_flatten (blocks : List (List Stretch)) :
    otherLinesOf blocks.flatten = (blocks.map otherLinesOf).flatten := by
  induction blocks with
  | nil => rfl
  | cons block blocks ih =>
    rw [List.flatten_cons, List.map_cons, List.flatten_cons, ← ih]
    exact List.flatMap_append

/-- The overloads of a command, as methods of the class of a handle or as free functions. -/
def commandBlock (spec : Spec) (name : String) (analyzed : Analyzed) :
    Option String → Except Failure (List String)
  | some handle =>
    overloadLines spec analyzed handle (Command.wrapperName name analyzed.command) "    "
  | none => overloadLines spec analyzed "" analyzed.name "  "

/-- The overloads of a command, with the handle that it is a method of. -/
def commandStretch (context : Context) (owner : Option String) (name : String) :
    Except Failure Stretch := do
  let analyzed ← context.command name
  pure (.overloads name owner (← commandBlock context.spec name analyzed owner))

/-- Stretches under a macro that decides whether they are compiled. -/
def guardedStretches (guard : String) (stretches : List Stretch) : List Stretch :=
  if guard.isEmpty then stretches
  else .other [s!"#ifdef {guard}"] :: stretches ++ [.other [s!"#endif /*{guard}*/"]]

/-- The class of a handle, around its methods. -/
def classStretches (name : String) (methods : List Stretch) : List Stretch :=
  .other (handleHeadLines name) :: methods ++ [.other (handleTailLines name)]

/-- The bindings of a handle. -/
def handleStretches (context : Context) (name : String) (handle : Handle) :
    Except Failure (List Stretch) := do
  let methods ← handle.commands.mapM (commandStretch context (some name))
  pure (guardedStretches handle.guard (classStretches name methods) ++ [.other [""]])

/-- The free functions of a command that is no method. -/
def freeStretches (context : Context) (name : String) : Except Failure (List Stretch) := do
  let analyzed ← context.command name
  if analyzed.command.isMethod then pure []
  else pure [← commandStretch context none name]

/-- The bindings of an entity. -/
def entityStretches (context : Context) (entity : Entity) : Except Failure (List Stretch) := do
  match entity.kind with
  | .command => freeStretches context entity.name
  | .handle => handleStretches context entity.name (← context.handle entity.name)
  | _ => pure [.other (spacedBlock (← entityLines context entity))]

/-- The bindings of all entities but the enum of result codes. -/
def typeStretches (context : Context) : Except Failure (List Stretch) := do
  let blocks ← (context.entities.filter (!isResultEnum ·)).mapM (entityStretches context)
  pure blocks.flatten

/-! ## Their lines -/

section Lines

variable {context : Context} {entity : Entity} {stretches : List Stretch}

theorem spacedBlock_of_ne_nil {block : List String} (h : block ≠ []) :
    spacedBlock block = block ++ [""] := by
  unfold spacedBlock
  rw [if_neg (by simpa using h)]

theorem guarded_ne_nil (guard : String) {block : List String} (h : block ≠ []) :
    guarded guard block ≠ [] := by
  unfold guarded
  split
  · exact h
  · exact List.cons_ne_nil _ _

theorem linesOf_guarded (guard : String) (stretches : List Stretch) :
    linesOf (guardedStretches guard stretches) = guarded guard (linesOf stretches) := by
  unfold guardedStretches guarded linesOf
  split
  · rfl
  · simp [Stretch.lines]

theorem linesOf_class (name : String) (methods : List Stretch) :
    linesOf (classStretches name methods) =
      handleHeadLines name ++ linesOf methods ++ handleTailLines name := by
  simp [classStretches, linesOf, Stretch.lines]

theorem commandStretch_lines (context : Context) (handleName commandName : String) :
    (commandStretch context (some handleName) commandName).map Stretch.lines =
      methodLines context handleName commandName := by
  unfold commandStretch methodLines commandBlock
  rw [map_bind]
  congr 1
  funext analyzed
  rw [map_bind]
  rfl

theorem handleStretches_lines (context : Context) (name : String) (handle : Handle) :
    (handleStretches context name handle).map linesOf =
      handleLines context name handle >>= fun lines => pure (spacedBlock lines) := by
  have hmethods : (handle.commands.mapM (commandStretch context (some name))).map
      (List.map Stretch.lines) = handle.commands.mapM (methodLines context name) := by
    rw [map_mapM]
    congr 1
    funext method
    exact commandStretch_lines context name method
  unfold handleStretches handleLines
  rw [← hmethods, map_bind]
  cases handle.commands.mapM (commandStretch context (some name)) with
  | error failure => rfl
  | ok methods =>
    show Except.ok (linesOf (_ ++ _)) = Except.ok (spacedBlock (guarded handle.guard _))
    rw [spacedBlock_of_ne_nil (guarded_ne_nil _ (by simp [handleHeadLines]))]
    have hlines : linesOf (guardedStretches handle.guard (classStretches name methods)) =
        guarded handle.guard (handleHeadLines name ++ (methods.map Stretch.lines).flatten ++
          handleTailLines name) := by
      rw [linesOf_guarded, linesOf_class]
      rfl
    rw [← hlines]
    exact congrArg Except.ok List.flatMap_append

theorem overloadLines_ne_nil {spec : Spec} {analyzed : Analyzed}
    {className functionName indent : String} {block : List String}
    (h : overloadLines spec analyzed className functionName indent = .ok block) : block ≠ [] := by
  obtain ⟨standard, enhanced, -, -, rfl⟩ := holdsOverloads_of_overloadLines h
  simp

theorem freeStretches_lines (context : Context) (name : String) :
    (freeStretches context name).map linesOf =
      context.command name >>= fun analyzed => freeFunctionLines context.spec analyzed >>=
        fun lines => pure (spacedBlock lines) := by
  unfold freeStretches commandStretch
  cases hfound : context.command name with
  | error failure => rfl
  | ok analyzed =>
    show Except.map linesOf (if analyzed.command.isMethod then _ else _) =
      freeFunctionLines context.spec analyzed >>= _
    unfold freeFunctionLines
    split
    · rfl
    · show Except.map linesOf ((overloadLines context.spec analyzed "" analyzed.name "  " >>=
        fun block => pure (Stretch.overloads name none block)) >>= fun stretch =>
          pure [stretch]) = _
      cases hblock : overloadLines context.spec analyzed "" analyzed.name "  " with
      | error failure => rfl
      | ok block =>
        show Except.ok (linesOf [_]) = Except.ok (spacedBlock block)
        rw [spacedBlock_of_ne_nil (overloadLines_ne_nil hblock)]
        exact congrArg Except.ok (List.append_nil _)

theorem entityStretches_lines (context : Context) (entity : Entity) :
    (entityStretches context entity).map linesOf =
      entityLines context entity >>= fun lines => pure (spacedBlock lines) := by
  have hother : (entityLines context entity >>= fun lines =>
      pure [Stretch.other (spacedBlock lines)]).map linesOf =
        entityLines context entity >>= fun lines => pure (spacedBlock lines) := by
    cases entityLines context entity with
    | error failure => rfl
    | ok lines => exact congrArg Except.ok (List.append_nil _)
  unfold entityStretches
  cases hkind : entity.kind with
  | command =>
    unfold entityLines
    rw [hkind]
    dsimp only
    rw [freeStretches_lines]
    cases context.command entity.name with
    | error failure => rfl
    | ok analyzed => rfl
  | handle =>
    unfold entityLines
    rw [hkind]
    dsimp only
    rw [map_bind]
    cases context.handle entity.name with
    | error failure => rfl
    | ok handle => exact handleStretches_lines context entity.name handle
  | enum | flags | callback | required | scalar | struct | union => exact hother

/-- The stretches are the bindings: they have the same lines, and fail in the same way. -/
theorem typeStretches_lines (context : Context) :
    (typeStretches context).map linesOf = typeLines context := by
  unfold typeStretches typeLines
  simp only [← entityStretches_lines, ← map_mapM]
  rw [map_bind]
  cases (context.entities.filter (!isResultEnum ·)).mapM (entityStretches context) with
  | error failure => rfl
  | ok blocks => exact congrArg Except.ok (linesOf_flatten blocks)

/-! ## The lines without commands -/

theorem otherLinesOf_guarded (guard : String) (stretches : List Stretch) :
    otherLinesOf (guardedStretches guard stretches) = guarded guard (otherLinesOf stretches) := by
  unfold guardedStretches guarded otherLinesOf
  split
  · rfl
  · simp [Stretch.otherLines]

theorem commandStretch_eq_ok {owner : Option String} {name : String} {stretch : Stretch}
    (h : commandStretch context owner name = .ok stretch) :
    ∃ analyzed block, context.command name = .ok analyzed ∧
      commandBlock context.spec name analyzed owner = .ok block ∧
      stretch = .overloads name owner block := by
  unfold commandStretch at h
  obtain ⟨analyzed, hanalyzed, h⟩ := bind_eq_ok_iff.1 h
  obtain ⟨block, hblock, h⟩ := bind_eq_ok_iff.1 h
  exact ⟨analyzed, block, hanalyzed, hblock, (Except.ok.inj h).symm⟩

/-- The methods of a handle, one for each of its commands. -/
theorem handleStretches_eq_ok {name : String} {handle : Handle}
    (h : handleStretches context name handle = .ok stretches) :
    ∃ methods, handle.commands.mapM (commandStretch context (some name)) = .ok methods ∧
      stretches =
        guardedStretches handle.guard (classStretches name methods) ++ [.other [""]] := by
  unfold handleStretches at h
  obtain ⟨methods, hmethods, h⟩ := bind_eq_ok_iff.1 h
  exact ⟨methods, hmethods, (Except.ok.inj h).symm⟩

/-- A command that is no method has one stretch, and a method none. -/
theorem freeStretches_eq_ok {name : String} (h : freeStretches context name = .ok stretches) :
    ∃ analyzed, context.command name = .ok analyzed ∧
      (analyzed.command.isMethod = true ∧ stretches = [] ∨
        analyzed.command.isMethod = false ∧
          ∃ block, commandBlock context.spec name analyzed none = .ok block ∧
            stretches = [.overloads name none block]) := by
  unfold freeStretches at h
  obtain ⟨analyzed, hanalyzed, h⟩ := bind_eq_ok_iff.1 h
  refine ⟨analyzed, hanalyzed, ?_⟩
  cases hmethod : analyzed.command.isMethod with
  | true =>
    rw [hmethod, if_pos rfl] at h
    exact .inl ⟨rfl, (Except.ok.inj h).symm⟩
  | false =>
    rw [hmethod, if_neg Bool.false_ne_true] at h
    obtain ⟨stretch, hstretch, h⟩ := bind_eq_ok_iff.1 h
    obtain ⟨again, block, hagain, hblock, rfl⟩ := commandStretch_eq_ok hstretch
    rw [hanalyzed] at hagain
    obtain rfl := Except.ok.inj hagain
    exact .inr ⟨rfl, block, hblock, (Except.ok.inj h).symm⟩

theorem otherLinesOf_class {name : String} {commands : List String} {methods : List Stretch}
    (h : commands.mapM (commandStretch context (some name)) = .ok methods) :
    otherLinesOf (classStretches name methods) = handleHeadLines name ++ handleTailLines name := by
  have hmethods : otherLinesOf methods = [] := by
    refine List.flatMap_eq_nil_iff.2 fun stretch hstretch => ?_
    obtain ⟨method, -, hmethod⟩ := (mem_of_mapM h).1 hstretch
    obtain ⟨analyzed, block, -, -, rfl⟩ := commandStretch_eq_ok hmethod
    rfl
  have hclass : otherLinesOf (classStretches name methods) =
      handleHeadLines name ++ otherLinesOf methods ++ handleTailLines name := by
    simp [classStretches, otherLinesOf, Stretch.otherLines]
  rw [hclass, hmethods, List.append_nil]

/-- The lines of an entity that belong to no command are its bindings without commands. -/
theorem entityStretches_otherLines (h : entityStretches context entity = .ok stretches) :
    if entity.kind != .command then
      (entityLines context.withoutCommands entity >>= fun lines => pure (spacedBlock lines)) =
        .ok (otherLinesOf stretches)
    else otherLinesOf stretches = [] := by
  cases hkind : entity.kind with
  | command =>
    unfold entityStretches at h
    rw [hkind] at h
    obtain ⟨analyzed, -, ⟨-, rfl⟩ | ⟨-, block, -, rfl⟩⟩ := freeStretches_eq_ok h <;> rfl
  | handle =>
    unfold entityStretches at h
    rw [hkind] at h
    obtain ⟨handle, hhandle, h⟩ := bind_eq_ok_iff.1 h
    obtain ⟨methods, hmethods, rfl⟩ := handleStretches_eq_ok h
    have hlines : entityLines context.withoutCommands entity =
        .ok (guarded handle.guard
          (handleHeadLines entity.name ++ handleTailLines entity.name)) := by
      unfold entityLines
      rw [hkind]
      dsimp only
      rw [withoutCommands_handle hhandle]
      simp [handleLines, pure, Except.pure, bind, Except.bind]
    have hother : otherLinesOf (guardedStretches handle.guard (classStretches entity.name methods)
        ++ [.other [""]]) = guarded handle.guard
          (handleHeadLines entity.name ++ handleTailLines entity.name) ++ [""] := by
      rw [← otherLinesOf_class hmethods, ← otherLinesOf_guarded]
      exact List.flatMap_append
    show (entityLines _ entity >>= _) = Except.ok _
    rw [hlines, hother]
    exact congrArg Except.ok
      (spacedBlock_of_ne_nil (guarded_ne_nil handle.guard (by simp [handleHeadLines])))
  | enum | flags | callback | required | scalar | struct | union =>
    have hlines : entityLines context.withoutCommands entity = entityLines context entity :=
      entityLines_withoutCommands (by simp [hkind]) (by simp [hkind])
    unfold entityStretches at h
    rw [hkind] at h
    obtain ⟨lines, hwritten, h⟩ := bind_eq_ok_iff.1 h
    obtain rfl := Except.ok.inj h
    show (entityLines _ entity >>= _) = Except.ok _
    rw [hlines, hwritten]
    exact congrArg Except.ok (List.append_nil _).symm

/-- The lines that belong to no command are the bindings of the registry without commands. -/
theorem typeStretches_otherLines (h : typeStretches context = .ok stretches) :
    typeLines context.withoutCommands = .ok (otherLinesOf stretches) := by
  unfold typeStretches at h
  obtain ⟨blocks, hblocks, h⟩ := bind_eq_ok_iff.1 h
  obtain rfl := Except.ok.inj h
  obtain ⟨values, hvalues, hflatten⟩ := mapM_filter_of_forall₂ (forall₂_of_mapM hblocks)
    fun entity block hblock => entityStretches_otherLines hblock
  have hentities : context.withoutCommands.entities.filter (!isResultEnum ·) =
      (context.entities.filter (!isResultEnum ·)).filter (·.kind != .command) := by
    show (context.entities.filter _).filter _ = _
    rw [List.filter_filter, List.filter_filter]
    simp only [Bool.and_comm]
  unfold typeLines
  rw [hentities, hvalues, otherLinesOf_flatten, ← hflatten]
  rfl

end Lines

/-! ## What is written for commands -/

/-- The stretch is among the methods in the class of a handle, and only methods of the handle
are between the head and the tail of that class. -/
def InClass (stretches : List Stretch) (handle : String) (method : Stretch) : Prop :=
  ∃ methods, method ∈ methods ∧ (∀ stretch ∈ methods, stretch.IsMethodOf handle) ∧
    .other (handleHeadLines handle) :: methods ++ [.other (handleTailLines handle)] <:+: stretches

/-- Overloads are those of a command of the registry: both of them, as methods in the class of
the handle that the command belongs to, or as free functions if it belongs to none. -/
def Stretch.IsWritten (context : Context) (stretches : List Stretch) : Stretch → Prop
  | other _ => True
  | overloads name owner block =>
    ∃ command analyzed, context.spec.commands.get? name = some command ∧
      command.owner = owner ∧ Analysis.analyze name command = .ok analyzed ∧
      match owner with
      | none => HoldsOverloads context.spec analyzed "" name "  " block
      | some handle =>
        HoldsOverloads context.spec analyzed handle (Command.wrapperName name command) "    "
            block ∧
          InClass stretches handle (overloads name owner block)

section Written

variable {root : Xml.Node} {context : Context} {entity : Entity} {stretch : Stretch}
  {stretches more : List Stretch}

theorem InClass.mono {handle : String} (h : InClass stretches handle stretch)
    (hmore : stretches <:+: more) : InClass more handle stretch := by
  obtain ⟨methods, hmem, hmethods, hclass⟩ := h
  exact ⟨methods, hmem, hmethods, hclass.trans hmore⟩

theorem Stretch.IsWritten.mono (h : stretch.IsWritten context stretches)
    (hmore : stretches <:+: more) : stretch.IsWritten context more := by
  cases stretch with
  | other lines => trivial
  | overloads name owner block =>
    obtain ⟨command, analyzed, hcommand, howner, hanalyze, hblock⟩ := h
    refine ⟨command, analyzed, hcommand, howner, hanalyze, ?_⟩
    cases owner with
    | none => exact hblock
    | some handle => exact ⟨hblock.1, hblock.2.mono hmore⟩

/-- A command that is found is one of the registry, analyzed. -/
theorem exists_of_command (h : Prepared root context) {name : String} {analyzed : Analyzed}
    (hfound : context.command name = .ok analyzed) :
    ∃ command, context.spec.commands.get? name = some command ∧
      Analysis.analyze name command = .ok analyzed ∧ analyzed.name = name ∧
      analyzed.command = command := by
  obtain ⟨command, hcommand, hanalyze⟩ :=
    Analysis.exists_of_analyzed h.analyzed (get?_of_find hfound)
  have hentry := (Analysis.analyze_meets name command).of_ok hanalyze
  exact ⟨command, hcommand, hanalyze, hentry.1, hentry.2⟩

theorem infix_guardedStretches (guard : String) (stretches : List Stretch) :
    stretches <:+: guardedStretches guard stretches := by
  unfold guardedStretches
  split
  · exact List.infix_rfl
  · exact ⟨[.other [s!"#ifdef {guard}"]], [.other [s!"#endif /*{guard}*/"]], rfl⟩

theorem mem_guardedStretches {guard : String} (h : stretch ∈ guardedStretches guard stretches) :
    stretch ∈ stretches ∨ ∃ lines, stretch = .other lines := by
  unfold guardedStretches at h
  split at h
  · exact .inl h
  · simp only [List.mem_cons, List.cons_append, List.mem_append, List.not_mem_nil, or_false] at h
    rcases h with rfl | h | rfl
    · exact .inr ⟨_, rfl⟩
    · exact .inl h
    · exact .inr ⟨_, rfl⟩

/-- The methods of a handle are written in its class. -/
theorem handleStretches_written (h : Prepared root context) {name : String} {handle : Handle}
    (howned : ∀ method command, method ∈ handle.commands →
      context.spec.commands.get? method = some command → command.owner = some name)
    (hstretches : handleStretches context name handle = .ok stretches) :
    ∀ stretch ∈ stretches, stretch.IsWritten context stretches := by
  obtain ⟨methods, hmethods, rfl⟩ := handleStretches_eq_ok hstretches
  have hall : ∀ stretch ∈ methods, stretch.IsMethodOf name := by
    intro stretch hstretch
    obtain ⟨method, -, hmethod⟩ := (mem_of_mapM hmethods).1 hstretch
    obtain ⟨analyzed, block, -, -, rfl⟩ := commandStretch_eq_ok hmethod
    rfl
  have hclass : classStretches name methods <:+:
      guardedStretches handle.guard (classStretches name methods) ++ [.other [""]] :=
    (infix_guardedStretches _ _).trans (List.prefix_append _ _).isInfix
  intro stretch hstretch
  rcases List.mem_append.1 hstretch with hguarded | hblank
  · rcases mem_guardedStretches hguarded with hmem | ⟨lines, rfl⟩
    · simp only [classStretches, List.mem_cons, List.cons_append, List.mem_append,
        List.not_mem_nil, or_false] at hmem
      rcases hmem with rfl | hmem | rfl
      · trivial
      · obtain ⟨method, hlisted, hmethod⟩ := (mem_of_mapM hmethods).1 hmem
        obtain ⟨analyzed, block, hfound, hblock, rfl⟩ := commandStretch_eq_ok hmethod
        obtain ⟨command, hcommand, hanalyze, -, rfl⟩ := exists_of_command h hfound
        exact ⟨analyzed.command, analyzed, hcommand, howned method _ hlisted hcommand, hanalyze,
          holdsOverloads_of_overloadLines hblock, methods, hmem, hall, hclass⟩
      · trivial
    · trivial
  · obtain rfl := List.mem_singleton.1 hblank
    trivial

/-- What is written for an entity has overloads of commands only. -/
theorem entityStretches_written (h : Prepared root context)
    (hmethods : context.spec.ListsMethods)
    (hstretches : entityStretches context entity = .ok stretches) :
    ∀ stretch ∈ stretches, stretch.IsWritten context stretches := by
  cases hkind : entity.kind with
  | command =>
    unfold entityStretches at hstretches
    rw [hkind] at hstretches
    obtain ⟨analyzed, hfound, ⟨-, rfl⟩ | ⟨hmethod, block, hblock, rfl⟩⟩ :=
      freeStretches_eq_ok hstretches
    · exact nofun
    · intro stretch hstretch
      obtain rfl := List.mem_singleton.1 hstretch
      obtain ⟨command, hcommand, hanalyze, hname, rfl⟩ := exists_of_command h hfound
      have howner : analyzed.command.owner = none := by
        rwa [Command.isMethod, Option.isSome_eq_false_iff, Option.isNone_iff_eq_none] at hmethod
      have hholds := holdsOverloads_of_overloadLines hblock
      rw [hname] at hholds
      exact ⟨analyzed.command, analyzed, hcommand, howner, hanalyze, hholds⟩
  | handle =>
    unfold entityStretches at hstretches
    rw [hkind] at hstretches
    obtain ⟨handle, hhandle, hstretches⟩ := bind_eq_ok_iff.1 hstretches
    have hlisted := hmethods.listed entity.name handle (get?_of_find hhandle)
    refine handleStretches_written h (fun method command hmem hcommand => ?_) hstretches
    rwa [hlisted, Spec.mem_ownedBy hmethods.distinct hcommand] at hmem
  | enum | flags | callback | required | scalar | struct | union =>
    unfold entityStretches at hstretches
    rw [hkind] at hstretches
    obtain ⟨lines, -, hstretches⟩ := bind_eq_ok_iff.1 hstretches
    obtain rfl := Except.ok.inj hstretches
    intro stretch hstretch
    obtain rfl := List.mem_singleton.1 hstretch
    trivial

theorem typeStretches_written (h : Prepared root context)
    (hmethods : context.spec.ListsMethods)
    (hstretches : typeStretches context = .ok stretches) :
    ∀ stretch ∈ stretches, stretch.IsWritten context stretches := by
  unfold typeStretches at hstretches
  obtain ⟨blocks, hblocks, hstretches⟩ := bind_eq_ok_iff.1 hstretches
  obtain rfl := Except.ok.inj hstretches
  intro stretch hstretch
  obtain ⟨block, hblock, hmem⟩ := List.mem_flatten.1 hstretch
  obtain ⟨entity, -, hentity⟩ := (mem_of_mapM hblocks).1 hblock
  exact (entityStretches_written h hmethods hentity stretch hmem).mono
    (List.infix_of_mem_flatten hblock)

end Written

/-! ## The home of a command -/

section Home

variable {root : Xml.Node} {context : Context} {name : String} {command : Command}
  {entity : Entity} {stretches : List Stretch}

/-- The entity whose bindings have the overloads of a command: the handle of a method,
or the command itself. -/
def IsHome (name : String) (command : Command) (entity : Entity) : Prop :=
  (entity.kind = .command ∧ entity.name = name ∧ command.owner = none) ∨
    (entity.kind = .handle ∧ command.owner = some entity.name)

/-- Exactly one of the stretches has the overloads of a command. -/
def WrittenOnce (stretches : List Stretch) (name : String) (owner : Option String) : Prop :=
  ∃ block, stretches.filter (·.isOf name) = [.overloads name owner block]

/-- What is around the methods of a handle has no overloads. -/
theorem filter_handle (guard handleName : String) (methods : List Stretch) :
    (guardedStretches guard (classStretches handleName methods) ++ [Stretch.other [""]]).filter
      (·.isOf name) = methods.filter (·.isOf name) := by
  unfold guardedStretches classStretches
  split <;> simp

/-- A handle writes its methods once and no other commands. -/
theorem handleStretches_filter {handle : Handle} {handleName : String}
    (hdistinct : handle.commands.Nodup)
    (h : handleStretches context handleName handle = .ok stretches) :
    (name ∈ handle.commands → WrittenOnce stretches name (some handleName)) ∧
      (name ∉ handle.commands → stretches.filter (·.isOf name) = []) := by
  obtain ⟨methods, hmethods, rfl⟩ := handleStretches_eq_ok h
  have hall : List.Forall₂ (fun method block => ∃ stretch,
      commandStretch context (some handleName) method = .ok stretch ∧ block = [stretch])
      handle.commands (methods.map fun stretch => [stretch]) :=
    List.forall₂_map_right_iff.2 ((forall₂_of_mapM hmethods).imp fun _ stretch hstretch =>
      ⟨stretch, hstretch, rfl⟩)
  have hflatten : (methods.map fun stretch => [stretch]).flatten = methods := by
    rw [← List.flatMap_def, List.flatMap_singleton']
  have hother : ∀ method, method ≠ name → ∀ block, (∃ stretch,
      commandStretch context (some handleName) method = .ok stretch ∧ block = [stretch]) →
        block.filter (·.isOf name) = [] := by
    rintro method hne block ⟨stretch, hstretch, rfl⟩
    obtain ⟨analyzed, lines, -, -, rfl⟩ := commandStretch_eq_ok hstretch
    simp [hne]
  unfold WrittenOnce
  rw [filter_handle]
  constructor
  · intro hmem
    obtain ⟨block, ⟨stretch, hstretch, rfl⟩, hkept⟩ :=
      filter_flatten_of_mem hall hdistinct hmem fun method _ hne => hother method hne
    obtain ⟨analyzed, lines, -, -, rfl⟩ := commandStretch_eq_ok hstretch
    refine ⟨lines, ?_⟩
    rw [← hflatten, hkept]
    simp
  · intro hnot
    rw [← hflatten]
    refine filter_flatten_eq_nil hall fun method hmem => ?_
    exact hother method fun heq => hnot (heq ▸ hmem)

/-- Free functions are written once, by the command that they belong to. -/
theorem freeStretches_filter (h : Prepared root context)
    (hcommand : context.spec.commands.get? name = some command) {other : String}
    (hstretches : freeStretches context other = .ok stretches) :
    (other = name → command.owner = none → WrittenOnce stretches name none) ∧
      (¬(other = name ∧ command.owner = none) → stretches.filter (·.isOf name) = []) := by
  obtain ⟨analyzed, hfound, hcases⟩ := freeStretches_eq_ok hstretches
  obtain ⟨again, hagain, -, -, hentry⟩ := exists_of_command h hfound
  have howner : other = name → analyzed.command.owner = command.owner := by
    rintro rfl
    rw [hcommand] at hagain
    rw [hentry, Option.some.inj hagain]
  rcases hcases with ⟨hmethod, rfl⟩ | ⟨hmethod, block, -, rfl⟩
  · refine ⟨fun heq hnone => ?_, fun _ => rfl⟩
    rw [Command.isMethod, howner heq, hnone] at hmethod
    cases hmethod
  · constructor
    · rintro rfl -
      exact ⟨block, by simp⟩
    · intro hnot
      have hne : other ≠ name := by
        intro heq
        rw [Command.isMethod, howner heq, Option.isSome_eq_false_iff,
          Option.isNone_iff_eq_none] at hmethod
        exact hnot ⟨heq, hmethod⟩
      simp [hne]

/-- The home of a command writes it once, and no other entity writes it. -/
theorem entityStretches_filter (h : Prepared root context)
    (hmethods : context.spec.ListsMethods)
    (hcommand : context.spec.commands.get? name = some command)
    (hstretches : entityStretches context entity = .ok stretches) :
    (IsHome name command entity → WrittenOnce stretches name command.owner) ∧
      (¬IsHome name command entity → stretches.filter (·.isOf name) = []) := by
  cases hkind : entity.kind with
  | command =>
    have hhome : IsHome name command entity ↔ entity.name = name ∧ command.owner = none := by
      simp [IsHome, hkind]
    unfold entityStretches at hstretches
    rw [hkind] at hstretches
    obtain ⟨hwrites, hnone⟩ := freeStretches_filter h hcommand hstretches
    rw [hhome]
    refine ⟨fun ⟨hname, howner⟩ => ?_, hnone⟩
    rw [howner]
    exact hwrites hname howner
  | handle =>
    unfold entityStretches at hstretches
    rw [hkind] at hstretches
    obtain ⟨handle, hhandle, hstretches⟩ := bind_eq_ok_iff.1 hstretches
    have hlisted : handle.commands = context.spec.ownedBy entity.name :=
      hmethods.listed entity.name handle (get?_of_find hhandle)
    have hdistinct : handle.commands.Nodup := by
      rw [hlisted]
      exact (Spec.ownedBy_sublist context.spec entity.name).nodup hmethods.distinct
    have hhome : IsHome name command entity ↔ name ∈ handle.commands := by
      rw [hlisted, Spec.mem_ownedBy hmethods.distinct hcommand]
      simp [IsHome, hkind]
    obtain ⟨hwrites, hnone⟩ := handleStretches_filter hdistinct hstretches
    rw [hhome]
    refine ⟨fun hmem => ?_, hnone⟩
    have howner : command.owner = some entity.name := by
      rwa [hlisted, Spec.mem_ownedBy hmethods.distinct hcommand] at hmem
    rw [howner]
    exact hwrites hmem
  | enum | flags | callback | required | scalar | struct | union =>
    have hnot : ¬IsHome name command entity := by simp [IsHome, hkind]
    refine ⟨fun hhome => absurd hhome hnot, fun _ => ?_⟩
    unfold entityStretches at hstretches
    rw [hkind] at hstretches
    obtain ⟨lines, -, hstretches⟩ := bind_eq_ok_iff.1 hstretches
    obtain rfl := Except.ok.inj hstretches
    rfl

/-- Every command has a home among the entities that are written. -/
theorem exists_home (h : Prepared root context) (hmethods : context.spec.ListsMethods)
    (hcommand : context.spec.commands.get? name = some command) :
    ∃ home ∈ context.entities.filter (!isResultEnum ·), IsHome name command home := by
  have hwritten : ∀ kind, kind ≠ .enum → ∀ entity ∈ context.spec.entities, entity.kind = kind →
      entity ∈ context.entities.filter (!isResultEnum ·) := by
    intro kind hkind entity hmem heq
    have hresult : isResultEnum entity = false := by
      simp [isResultEnum, heq, hkind]
    refine List.mem_filter.2 ⟨(perm_of_ordered h.ordered).mem_iff.2 hmem, ?_⟩
    rw [hresult]
    rfl
  cases howner : command.owner with
  | none =>
    obtain ⟨entity, hmem, hname, hkind⟩ :=
      h.consistent.commands name (Table.contains_iff.2 ⟨command, hcommand⟩)
    exact ⟨entity, hwritten .command (by decide) entity hmem hkind, .inl ⟨hkind, hname, howner⟩⟩
  | some handle =>
    have hknown := hmethods.known (name, command) (Table.mem_rows_of_get? hcommand) handle howner
    obtain ⟨entity, hmem, rfl, hkind⟩ := h.consistent.handles handle hknown
    exact ⟨entity, hwritten .handle (by decide) entity hmem hkind, .inr ⟨hkind, howner⟩⟩

/-- No command has two homes. -/
theorem IsHome.name_eq {other : Entity} (h : IsHome name command entity)
    (hother : IsHome name command other) : entity.name = other.name := by
  rcases h with ⟨-, hname, howner⟩ | ⟨-, howner⟩
  · rcases hother with ⟨-, hother, -⟩ | ⟨-, hother⟩
    · rw [hname, hother]
    · rw [howner] at hother
      cases hother
  · rcases hother with ⟨-, -, hother⟩ | ⟨-, hother⟩
    · rw [howner] at hother
      cases hother
    · rw [howner] at hother
      exact Option.some.inj hother

/-- The bindings of all entities have the overloads of each command once. -/
theorem typeStretches_writtenOnce (h : Prepared root context)
    (hmethods : context.spec.ListsMethods)
    (hcommand : context.spec.commands.get? name = some command)
    (hstretches : typeStretches context = .ok stretches) :
    WrittenOnce stretches name command.owner := by
  unfold typeStretches at hstretches
  obtain ⟨blocks, hblocks, hstretches⟩ := bind_eq_ok_iff.1 hstretches
  obtain rfl := Except.ok.inj hstretches
  have hentities : (context.spec.entities).Nodup := h.consistent.distinct.of_map
  have hdistinct : (context.entities.filter (!isResultEnum ·)).Nodup :=
    ((perm_of_ordered h.ordered).nodup_iff.2 hentities).filter _
  obtain ⟨home, hmem, hhome⟩ := exists_home h hmethods hcommand
  have hother : ∀ entity ∈ context.entities.filter (!isResultEnum ·), entity ≠ home → ∀ block,
      entityStretches context entity = .ok block → block.filter (·.isOf name) = [] := by
    intro entity hentity hne block hblock
    have hnot : ¬IsHome name command entity := by
      intro hagain
      have hsame : entity = home := h.consistent.eq_of_name
        (h.mem_spec (List.mem_of_mem_filter hentity))
        (h.mem_spec (List.mem_of_mem_filter hmem)) (hagain.name_eq hhome)
      exact hne hsame
    exact (entityStretches_filter h hmethods hcommand hblock).2 hnot
  obtain ⟨block, hblock, hkept⟩ :=
    filter_flatten_of_mem (forall₂_of_mapM hblocks) hdistinct hmem hother
  unfold WrittenOnce
  rw [hkept]
  exact (entityStretches_filter h hmethods hcommand hblock).1 hhome

end Home

/-! ## Every command once -/

/-- The lines fall into stretches.  Those with overloads have both overloads of a command of
the registry, in the class of its handle or as free functions, the other lines are the bindings
of the same registry without commands, and every command has exactly one stretch. -/
structure EmitsOnce (context : Context) (lines : List String) (stretches : List Stretch) :
    Prop where
  lines_eq : linesOf stretches = lines
  written : ∀ stretch ∈ stretches, stretch.IsWritten context stretches
  others : typeLines context.withoutCommands = .ok (otherLinesOf stretches)
  once : ∀ name command, context.spec.commands.get? name = some command →
    WrittenOnce stretches name command.owner

/-- Every command of a registry is in the list of its handle or in none, the lists are in
the order of the document, and the overloads of every command are written exactly once. -/
theorem commands_emitted_once {root : Xml.Node} {spec : Spec}
    (hread : Spec.ofRegistry root = .ok spec) :
    spec.InDocumentOrder root ∧
      (∀ name command, spec.commands.get? name = some command →
        spec.MethodOnce name command) ∧
      ∀ context lines, prepare root = .ok context → typeLines context = .ok lines →
        context.spec = spec ∧ ∃ stretches, EmitsOnce context lines stretches := by
  obtain ⟨hmethods, hcommands⟩ := Registry.methods_of_ofRegistry hread
  have hspec := Registry.consistent_of_ofRegistry hread
  refine ⟨hmethods.inDocumentOrder hcommands, fun name command hcommand => ?_, ?_⟩
  · exact hmethods.methodOnce hcommands.owners hspec hcommand
  · intro context lines hprepare hlines
    have hprepared := prepare_eq_ok_iff.1 hprepare
    have hsame : context.spec = spec := by
      have hagain := hprepared.read
      rw [hread] at hagain
      exact (Except.ok.inj hagain).symm
    subst hsame
    rw [← typeStretches_lines] at hlines
    cases hstretches : typeStretches context with
    | error failure =>
      rw [hstretches] at hlines
      cases hlines
    | ok stretches =>
      rw [hstretches] at hlines
      refine ⟨rfl, stretches, Except.ok.inj hlines, ?_, ?_, fun name command hcommand => ?_⟩
      · exact typeStretches_written hprepared hmethods hstretches
      · exact typeStretches_otherLines hstretches
      · exact typeStretches_writtenOnce hprepared hmethods hcommand hstretches

/-- The small registry has a method and a free function, and both are written once. -/
theorem sample_commands_emitted_once :
    ∃ spec context lines stretches, Spec.ofRegistry (sampleRegistry "4") = .ok spec ∧
      prepare (sampleRegistry "4") = .ok context ∧ typeLines context = .ok lines ∧
      EmitsOnce context lines stretches ∧ WrittenOnce stretches "resetDevice" (some "Device") ∧
      WrittenOnce stretches "load" none := by
  have hsample : ∃ context, prepare (sampleRegistry "4") = .ok context ∧
      ((typeLines context).toOption.any (fun _ => true) &&
        (context.spec.commands.get? "resetDevice").any (·.owner == some "Device") &&
        (context.spec.commands.get? "load").any (·.owner == none)) = true :=
    exists_prepare_of_inOrder (fun context => (typeLines context).toOption.any (fun _ => true) &&
        (context.spec.commands.get? "resetDevice").any (·.owner == some "Device") &&
        (context.spec.commands.get? "load").any (·.owner == none)) (by decide +kernel)
  obtain ⟨context, hprepare, hall⟩ := hsample
  obtain ⟨⟨hlines, hreset⟩, hload⟩ := by simpa only [Bool.and_eq_true] using hall
  obtain ⟨reset, hreset, hresetOwner⟩ := (Option.any_eq_true _ _).1 hreset
  obtain ⟨load, hload, hloadOwner⟩ := (Option.any_eq_true _ _).1 hload
  have hread := (prepare_eq_ok_iff.1 hprepare).read
  obtain ⟨lines, hwritten, -⟩ := exists_of_any hlines
  obtain ⟨-, stretches, hemitted⟩ :=
    (commands_emitted_once hread).2.2 context lines hprepare hwritten
  have hfirst := hemitted.once _ reset hreset
  have hsecond := hemitted.once _ load hload
  rw [beq_iff_eq.1 hresetOwner] at hfirst
  rw [beq_iff_eq.1 hloadOwner] at hsecond
  exact ⟨context.spec, context, lines, stretches, hread, hprepare, hwritten, hemitted, hfirst,
    hsecond⟩

end Wrapper

end VulkanBindings
