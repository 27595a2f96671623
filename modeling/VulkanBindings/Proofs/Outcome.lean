import Mathlib.Data.List.Forall2
import VulkanBindings.Failure

/-!
# What a computation comes to

The readers and writers of this library are computations that yield a value or
fail.  `Meets` states both sides at once: what holds of the value, and what
holds of the failure.  The lemmas below follow the way such computations are
put together, so that a reader is described by what is known of its parts:
`meets_bind` for one step after another, `Meets.foldlM` for a loop over a list
with an invariant, and `Meets.mapM` for a list of results.

A computation that can only fail with a fault of the registry is lifted into
one with more failures; `meets_lift_registry` and its companions carry a statement
along.
-/

namespace VulkanBindings

variable {ε δ α β : Type}

/-- The computation yields a value with the first property, or fails with the
second. -/
def Meets (result : Except ε α) (value : α → Prop) (failure : ε → Prop) : Prop :=
  match result with
  | .ok a => value a
  | .error e => failure e

variable {value : α → Prop} {failure : ε → Prop}

instance decidableMeets [DecidablePred value] [DecidablePred failure] (result : Except ε α) :
    Decidable (Meets result value failure) :=
  match result with
  | .ok a => inferInstanceAs (Decidable (value a))
  | .error e => inferInstanceAs (Decidable (failure e))

@[simp] theorem meets_ok {a : α} : Meets (.ok a : Except ε α) value failure ↔ value a := Iff.rfl

@[simp] theorem meets_error {e : ε} : Meets (.error e : Except ε α) value failure ↔ failure e :=
  Iff.rfl

/-- What a step comes to is the start of what the whole comes to. -/
theorem meets_bind {x : Except ε α} {f : α → Except ε β} {result : β → Prop} :
    Meets (x >>= f) result failure ↔ Meets x (fun a => Meets (f a) result failure) failure := by
  cases x with
  | ok a => exact Iff.rfl
  | error e => exact Iff.rfl

theorem meets_map {x : Except ε α} {f : α → β} {result : β → Prop} :
    Meets (x.map f) result failure ↔ Meets x (fun a => result (f a)) failure := by
  cases x with
  | ok a => exact Iff.rfl
  | error e => exact Iff.rfl

theorem meets_mapError {x : Except ε α} {f : ε → δ} {failure : δ → Prop} :
    Meets (x.mapError f) value failure ↔ Meets x value fun e => failure (f e) := by
  cases x with
  | ok a => exact Iff.rfl
  | error e => exact Iff.rfl

namespace Meets

theorem of_ok {x : Except ε α} (h : Meets x value failure) {a : α} (ha : x = .ok a) : value a := by
  subst ha
  exact h

theorem of_error {x : Except ε α} (h : Meets x value failure) {e : ε} (he : x = .error e) :
    failure e := by
  subst he
  exact h

theorem mono {x : Except ε α} {weaker : α → Prop} {weakerFailure : ε → Prop}
    (h : Meets x value failure) (hvalue : ∀ a, value a → weaker a)
    (hfailure : ∀ e, failure e → weakerFailure e) : Meets x weaker weakerFailure := by
  cases x with
  | ok a => exact hvalue a h
  | error e => exact hfailure e h

/-- Nothing is claimed of a failure. -/
theorem ofValues {x : Except ε α} (h : ∀ a, x = .ok a → value a) : Meets x value fun _ => True := by
  cases x with
  | ok a => exact h a rfl
  | error e => trivial

/-- The value is the one that the computation yields. -/
theorem self (x : Except ε α) : Meets x (fun a => x = .ok a) fun _ => True :=
  ofValues fun _ h => h

/-- Only what holds of the failure is used further. -/
theorem yields {x : Except ε α} (h : Meets x value failure) :
    Meets x (fun a => x = .ok a) failure := by
  cases x with
  | ok a => exact rfl
  | error e => exact h

/-- Only what holds of the value is used further. -/
theorem imp {x : Except ε α} {weaker : α → Prop} (h : Meets x value failure)
    (hvalue : ∀ a, value a → weaker a) : Meets x weaker failure :=
  h.mono hvalue fun _ he => he

/-- A computation that never fails does not fail in any particular way. -/
theorem never {x : Except ε α} (h : Meets x value fun _ => False) : Meets x value failure :=
  h.mono (fun _ => id) fun _ => False.elim

/-- What a loop comes to, by an invariant on the items that are done and the state that
they led to. -/
theorem foldlM_along {step : β → α → Except ε β} (invariant : List α → β → Prop) {items : List α}
    {start : β} (hstart : invariant [] start)
    (hstep : ∀ done state item, item ∈ items → invariant done state →
      Meets (step state item) (invariant (done ++ [item])) failure) :
    Meets (items.foldlM step start) (invariant items) failure := by
  suffices h : ∀ done, invariant done start →
      Meets (items.foldlM step start) (invariant (done ++ items)) failure from h [] hstart
  intro done hdone
  clear hstart
  induction items generalizing start done with
  | nil =>
    rw [List.append_nil]
    exact hdone
  | cons item items ih =>
    rw [List.foldlM_cons, meets_bind]
    refine (hstep done start item List.mem_cons_self hdone).imp fun next hnext => ?_
    have hrest := ih (fun done state other hother =>
      hstep done state other (List.mem_cons_of_mem _ hother)) (done ++ [item]) hnext
    rwa [List.append_assoc] at hrest

/-- What a loop comes to, by an invariant that each step keeps. -/
theorem foldlM {step : β → α → Except ε β} (invariant : β → Prop) {items : List α} {start : β}
    (hstart : invariant start)
    (hstep : ∀ state item, item ∈ items → invariant state →
      Meets (step state item) invariant failure) :
    Meets (items.foldlM step start) invariant failure :=
  foldlM_along (fun _ => invariant) hstart fun _ => hstep

/-- What a list of computations comes to: each result belongs to its item. -/
theorem mapM {step : α → Except ε β} {related : α → β → Prop} {items : List α}
    (hstep : ∀ item ∈ items, Meets (step item) (related item) failure) :
    Meets (items.mapM step) (List.Forall₂ related items) failure := by
  induction items with
  | nil =>
    rw [List.mapM_nil]
    exact .nil
  | cons item items ih =>
    rw [List.mapM_cons, meets_bind]
    refine (hstep item List.mem_cons_self).imp fun first hfirst => ?_
    rw [meets_bind]
    have hothers := ih fun other hother => hstep other (List.mem_cons_of_mem _ hother)
    exact hothers.imp fun rest hrest => .cons hfirst hrest

/-- A list of computations of which only the failures are known. -/
theorem mapM_any {step : α → Except ε β} {items : List α}
    (hstep : ∀ item ∈ items, Meets (step item) (fun _ => True) failure) :
    Meets (items.mapM step) (fun _ => True) failure :=
  (mapM hstep).imp fun _ _ => trivial

end Meets

/-! ## Values -/

/-- The value of two steps is that of the second, at a value of the first. -/
theorem bind_eq_ok_iff {x : Except ε α} {f : α → Except ε β} {b : β} :
    x >>= f = .ok b ↔ ∃ a, x = .ok a ∧ f a = .ok b := by
  cases x with
  | ok a =>
    constructor
    · intro h
      exact ⟨a, rfl, h⟩
    · rintro ⟨a, ha, hb⟩
      cases ha
      exact hb
  | error e =>
    constructor
    · intro h
      cases h
    · rintro ⟨a, ha, -⟩
      cases ha

theorem toOption_eq_some {x : Except ε α} {a : α} : x.toOption = some a ↔ x = .ok a := by
  cases x with
  | ok b => simp [Except.toOption]
  | error e => simp [Except.toOption]

/-- A result with a property can be computed. -/
theorem exists_of_any {x : Except ε α} {property : α → Bool}
    (h : x.toOption.any property = true) : ∃ a, x = .ok a ∧ property a = true := by
  cases x with
  | error e => cases h
  | ok a => exact ⟨a, rfl, h⟩

theorem mapError_eq_ok_iff {x : Except ε α} {f : ε → δ} {a : α} :
    x.mapError f = .ok a ↔ x = .ok a := by
  cases x with
  | ok b => exact ⟨fun h => congrArg _ (Except.ok.inj h), fun h => congrArg _ (Except.ok.inj h)⟩
  | error e =>
    constructor
    · intro h
      cases h
    · intro h
      cases h

/-- Each value of a list of computations is that of its item. -/
theorem forall₂_of_mapM {f : α → Except ε β} {items : List α} {values : List β}
    (h : items.mapM f = .ok values) :
    List.Forall₂ (fun item value => f item = .ok value) items values :=
  (Meets.mapM fun _ _ => .ofValues fun _ hvalue => hvalue).of_ok h

/-- The values of a list of computations are the values of its items. -/
theorem mem_of_mapM {f : α → Except ε β} {items : List α} {values : List β}
    (h : items.mapM f = .ok values) {value : β} :
    value ∈ values ↔ ∃ item ∈ items, f item = .ok value := by
  have hall := forall₂_of_mapM h
  clear h
  induction hall with
  | nil => simp
  | @cons item first items values hfirst _ ih =>
    have hhead : value = first ↔ f item = .ok value := by rw [hfirst, Except.ok.injEq, eq_comm]
    simp only [List.mem_cons, exists_eq_or_imp, hhead, ih]

/-- Every item of a list of computations has its value. -/
theorem exists_of_mem_mapM {f : α → Except ε β} {items : List α} {values : List β}
    (h : items.mapM f = .ok values) {item : α} (hitem : item ∈ items) :
    ∃ value ∈ values, f item = .ok value := by
  have hall := forall₂_of_mapM h
  obtain ⟨index, hindex, rfl⟩ := List.mem_iff_getElem.1 hitem
  have hvalue : index < values.length := hall.length_eq ▸ hindex
  exact ⟨values[index], List.getElem_mem hvalue, hall.get hindex hvalue⟩

/-- The values of a list of computations as a function of the items. -/
theorem exists_eq_map_of_mapM {f : α → Except ε β} {items : List α} {values : List β}
    (fallback : β) (h : items.mapM f = .ok values) :
    ∃ g : α → β, values = items.map g ∧ ∀ item ∈ items, f item = .ok (g item) := by
  refine ⟨fun item => (f item).toOption.getD fallback, ?_, fun item hitem => ?_⟩
  · have hall : List.Forall₂ (fun item value => (f item).toOption.getD fallback = value)
        items values :=
      (forall₂_of_mapM h).imp fun item value hvalue => by rw [hvalue]; rfl
    exact (List.forall₂_eq_eq_eq ▸ List.forall₂_map_left_iff.2 hall).symm
  · obtain ⟨value, -, hvalue⟩ := exists_of_mem_mapM h hitem
    dsimp only
    rw [hvalue]
    rfl

/-- Going through a list of computations comes to the item: all before it yield a value. -/
inductive ComesTo (f : α → Except ε β) (item : α) : List α → Prop where
  | here (rest : List α) : ComesTo f item (item :: rest)
  | later {other : α} {value : β} {rest : List α} (hother : f other = .ok value)
      (hrest : ComesTo f item rest) : ComesTo f item (other :: rest)

theorem ComesTo.mem {f : α → Except ε β} {item : α} {items : List α} (h : ComesTo f item items) :
    item ∈ items := by
  induction h with
  | here rest => exact List.mem_cons_self
  | later _ _ ih => exact List.mem_cons_of_mem _ ih

/-- A list of computations fails like the item that it comes to and that fails. -/
theorem mapM_eq_error_iff {f : α → Except ε β} {items : List α} {e : ε} :
    items.mapM f = .error e ↔ ∃ item, ComesTo f item items ∧ f item = .error e := by
  induction items with
  | nil =>
    refine iff_of_false nofun ?_
    rintro ⟨item, hcomes, -⟩
    cases hcomes
  | cons first items ih =>
    rw [List.mapM_cons]
    cases hfirst : f first with
    | error other =>
      constructor
      · intro h
        obtain rfl := Except.error.inj h
        exact ⟨first, .here items, hfirst⟩
      · rintro ⟨item, hcomes, hitem⟩
        cases hcomes with
        | here => exact congrArg Except.error (Except.error.inj (hfirst.symm.trans hitem))
        | later hother => cases hfirst.symm.trans hother
    | ok value =>
      have hrest : (items.mapM f >>= fun values => (pure (value :: values) : Except ε (List β))) =
          .error e ↔ items.mapM f = .error e := by
        cases items.mapM f with
        | ok values => exact iff_of_false nofun nofun
        | error other => exact Iff.rfl
      refine (hrest.trans ih).trans ⟨?_, ?_⟩
      · rintro ⟨item, hcomes, hitem⟩
        exact ⟨item, .later hfirst hcomes, hitem⟩
      · rintro ⟨item, hcomes, hitem⟩
        cases hcomes with
        | here => cases hfirst.symm.trans hitem
        | later _ hcomes => exact ⟨item, hcomes, hitem⟩

/-- A loop that succeeds comes by each of its items, and goes from state to state in one
way only. -/
theorem exists_step {failure : ε → Prop} {step : β → α → Except ε β} (related : β → β → Prop)
    {items : List α} {start final : β} (hrefl : ∀ state, related state state)
    (htrans : ∀ {first second third}, related first second → related second third →
      related first third)
    (hstep : ∀ state item, item ∈ items → related start state →
      Meets (step state item) (related state) failure)
    (h : items.foldlM step start = .ok final) {item : α} (hitem : item ∈ items) :
    ∃ before after, related start before ∧ step before item = .ok after ∧ related after final := by
  obtain ⟨front, back, rfl⟩ := List.append_of_mem hitem
  rw [List.foldlM_append] at h
  obtain ⟨before, hbefore, h⟩ := bind_eq_ok_iff.1 h
  rw [List.foldlM_cons] at h
  obtain ⟨after, hafter, hfinal⟩ := bind_eq_ok_iff.1 h
  have hfront : Meets (front.foldlM step start) (related start) failure :=
    .foldlM _ (hrefl start) fun state other hother hstate =>
      (hstep state other (List.mem_append_left _ hother) hstate).imp fun _ => htrans hstate
  have hreached := hfront.of_ok hbefore
  have hnext := (hstep before item hitem hreached).of_ok hafter
  have hback : Meets (back.foldlM step after) (related after) failure :=
    .foldlM _ (hrefl after) fun state other hother hstate =>
      (hstep state other (List.mem_append_right _ (List.mem_cons_of_mem _ hother))
        (htrans hreached (htrans hnext hstate))).imp fun _ => htrans hstate
  exact ⟨before, after, hreached, hafter, hback.of_ok hfinal⟩

/-! ## Loops -/

/-- Going through a list, each item leads from one state to the next. -/
inductive Along (change : α → β → β → Prop) (start : β) : List α → β → Prop where
  | nil : Along change start [] start
  | snoc {done : List α} {state next : β} {item : α} (hdone : Along change start done state)
    (hitem : change item state next) : Along change start (done ++ [item]) next

/-- A loop that succeeds goes through its items. -/
theorem Along.of_foldlM {step : β → α → Except ε β} {change : α → β → β → Prop} {items : List α}
    {start final : β} (h : items.foldlM step start = .ok final)
    (hstep : ∀ state item next, item ∈ items → step state item = .ok next →
      change item state next) : Along change start items final := by
  have hloop : Meets (items.foldlM step start) (Along change start items) fun _ => True := by
    refine .foldlM_along (Along change start) .nil fun done state item hitem hdone => ?_
    exact .ofValues fun next hnext => .snoc hdone (hstep state item next hitem hnext)
  exact hloop.of_ok h

/-- What each item keeps is kept by all of them. -/
theorem Along.invariant {change : α → β → β → Prop} {items : List α} {start final : β}
    (invariant : β → Prop) (h : Along change start items final) (hstart : invariant start)
    (hstep : ∀ item state next, change item state next → invariant state → invariant next) :
    invariant final := by
  induction h with
  | nil => exact hstart
  | snoc _ hitem ih => exact hstep _ _ _ hitem ih

/-- A loop that succeeds also does so with other steps, if these come to the same. -/
theorem foldlM_of_steps {step other : β → α → Except ε β} {items : List α} {start final : β}
    (h : items.foldlM step start = .ok final)
    (hsteps : ∀ state item next, item ∈ items → step state item = .ok next →
      other state item = .ok next) : items.foldlM other start = .ok final := by
  induction items generalizing start with
  | nil => exact h
  | cons item items ih =>
    rw [List.foldlM_cons] at h ⊢
    obtain ⟨next, hnext, hrest⟩ := bind_eq_ok_iff.1 h
    rw [hsteps start item next List.mem_cons_self hnext]
    show items.foldlM other next = .ok final
    apply ih hrest
    intro state item' next' hmem
    exact hsteps state item' next' (List.mem_cons_of_mem item hmem)

/-- A loop that succeeds does so without the items that leave the state as it is. -/
theorem foldlM_filter_of_skips {step : β → α → Except ε β} {items : List α} {start final : β}
    (keep : α → Bool) (h : items.foldlM step start = .ok final)
    (hskip : ∀ state item next, item ∈ items → keep item = false → step state item = .ok next →
      next = state) : (items.filter keep).foldlM step start = .ok final := by
  induction items generalizing start with
  | nil => exact h
  | cons item items ih =>
    rw [List.foldlM_cons] at h
    obtain ⟨next, hnext, hrest⟩ := bind_eq_ok_iff.1 h
    have hothers : (items.filter keep).foldlM step next = .ok final := by
      apply ih hrest
      intro state other later hother
      exact hskip state other later (List.mem_cons_of_mem item hother)
    cases hkeep : keep item with
    | false =>
      obtain rfl := hskip start item next List.mem_cons_self hkeep hnext
      rw [List.filter_cons_of_neg (by simp [hkeep])]
      exact hothers
    | true =>
      rw [List.filter_cons_of_pos hkeep, List.foldlM_cons, hnext]
      exact hothers

section Changed

variable {γ : Type}

/-- A loop over the parts of all items is a loop of loops. -/
theorem foldlM_flatMap (step : β → α → Except ε β) (parts : γ → List α) (items : List γ)
    (start : β) : (items.flatMap parts).foldlM step start =
      items.foldlM (fun state item => (parts item).foldlM step state) start := by
  induction items generalizing start with
  | nil => rfl
  | cons item items ih =>
    rw [List.flatMap_cons, List.foldlM_append, List.foldlM_cons]
    simp only [ih]

theorem map_bind (x : Except ε α) (f : α → Except ε β) (g : β → γ) :
    (x >>= f).map g = x >>= fun a => (f a).map g := by
  cases x <;> rfl

/-- A list of results, each of which is changed afterwards. -/
theorem map_mapM (f : α → Except ε β) (g : β → γ) (items : List α) :
    (items.mapM f).map (List.map g) = items.mapM fun item => (f item).map g := by
  induction items with
  | nil => rfl
  | cons item items ih =>
    rw [List.mapM_cons, List.mapM_cons, map_bind, ← ih]
    cases f item with
    | error e => rfl
    | ok b =>
      show ((items.mapM f) >>= fun rest => pure (b :: rest)).map (List.map g) = _
      rw [map_bind]
      cases items.mapM f <;> rfl

end Changed

/-! ## One computation in place of another -/

/-- Whatever the first computation yields, the second one yields as well. -/
def Persists (x y : Except ε α) : Prop :=
  ∀ a, x = .ok a → y = .ok a

namespace Persists

variable {x y : Except ε α}

theorem refl (x : Except ε α) : Persists x x := fun _ => id

theorem error {e : ε} : Persists (.error e) y := by
  intro a ha
  cases ha

/-- One step after another may be replaced by steps that yield the same. -/
theorem bind {f g : α → Except ε β} (h : Persists x y) (hnext : ∀ a, Persists (f a) (g a)) :
    Persists (x >>= f) (y >>= g) := by
  intro b hb
  obtain ⟨a, ha, hb⟩ := bind_eq_ok_iff.1 hb
  exact bind_eq_ok_iff.2 ⟨a, h a ha, hnext a b hb⟩

theorem mapError {f g : ε → δ} (h : Persists x y) : Persists (x.mapError f) (y.mapError g) := by
  intro a ha
  exact mapError_eq_ok_iff.2 (h a (mapError_eq_ok_iff.1 ha))

end Persists

/-! ## Faults as failures -/

section Lifting

variable {failure : Failure → Prop}

theorem meets_lift_registry {x : Except Registry.Fault α} :
    Meets (liftM x : Except Failure α) value failure ↔
      Meets x value fun fault => failure (.registry fault) :=
  meets_mapError

/-- The value of two steps of which the first knows defects of the registry only. -/
theorem bind_registry_eq_ok_iff {x : Except Registry.Fault α} {f : α → Except Failure β} {b : β} :
    (liftM x : Except Failure α) >>= f = .ok b ↔ ∃ a, x = .ok a ∧ f a = .ok b := by
  have hlift : ∀ a, (liftM x : Except Failure α) = .ok a ↔ x = .ok a := fun a => mapError_eq_ok_iff
  simp only [bind_eq_ok_iff, hlift]

/-- A computation that knows defects of the registry only, among failures that allow
for all of them. -/
theorem meets_lift_defects (hdefects : ∀ fault, failure (.registry fault))
    {x : Except Registry.Fault α} (h : Meets x value fun _ => True) :
    Meets (liftM x : Except Failure α) value failure :=
  meets_lift_registry.2 (h.mono (fun _ => id) fun fault _ => hdefects fault)

theorem meets_lift_text {x : Except Text.Fault α} :
    Meets (liftM x : Except Failure α) value failure ↔
      Meets x value fun fault => failure (.text fault) :=
  meets_mapError

theorem meets_lift_deadlock {x : Except Deadlock α} :
    Meets (liftM x : Except Failure α) value failure ↔
      Meets x value fun deadlock => failure (.deadlock deadlock) :=
  meets_mapError

end Lifting

end VulkanBindings
