/-
**Computations that may fail.**

A computation in stages succeeds only if every stage does, so the results of its stages are there.

* `exists_of_bind_eq_ok`, `mapError_eq_ok_iff`: what the stages before a success gave.
* `bind_eq_ok`: a success, stage by stage.
* `bind_eq_error`, `exists_of_mapError_eq_error`: which stage a failure comes from.
* `bind_eq_map_bind`: a change that each stage hands on to the next shows in the result.
* `toOption_bind`, `toOption_eq_some_iff`: what is left of a computation if its failures are forgotten.
* `map_eq_of_mapM`, `exists_mapM_eq_some`: when something is made of each of many things, and what.
-/

namespace SecretSource

variable {ε δ α α' β β' : Type}

/-- Two stages succeed only if the first does and the second does with its result. -/
theorem exists_of_bind_eq_ok {first : Except ε α} {second : α → Except ε β} {result : β}
    (done : first >>= second = .ok result) :
    ∃ between, first = .ok between ∧ second between = .ok result := by
  cases first with
  | error failure => cases done
  | ok between => exact ⟨between, rfl, done⟩

/-- Two stages succeed if the first does and the second does with its result. -/
theorem bind_eq_ok {first : Except ε α} {second : α → Except ε β} {between : α} {result : β}
    (stage : first = .ok between) (done : second between = .ok result) : first >>= second = .ok result := by
  rw [stage]
  exact done

/-- Another failure makes no success. -/
theorem mapError_eq_ok_iff {stage : Except ε α} {change : ε → δ} {result : α} :
    stage.mapError change = .ok result ↔ stage = .ok result := by
  cases stage with
  | error failure => exact iff_of_false nofun nofun
  | ok given => exact ⟨fun same => by cases same; rfl, fun same => by cases same; rfl⟩

/-- Two stages fail only if the first does, or the second does with its result. -/
theorem bind_eq_error {first : Except ε α} {second : α → Except ε β} {failure : ε}
    (fails : first >>= second = .error failure) :
    first = .error failure ∨ ∃ between, first = .ok between ∧ second between = .error failure := by
  cases first with
  | error earlier => exact Or.inl (congrArg Except.error (Except.error.inj fails))
  | ok between => exact Or.inr ⟨between, rfl, fails⟩

/-- A failure that is changed was there before. -/
theorem exists_of_mapError_eq_error {stage : Except ε α} {change : ε → δ} {failure : δ}
    (fails : stage.mapError change = .error failure) :
    ∃ earlier, stage = .error earlier ∧ change earlier = failure := by
  cases stage with
  | error earlier => exact ⟨earlier, rfl, Except.error.inj fails⟩
  | ok given => cases fails

/-- A result that is changed was there before. -/
theorem exists_of_map_eq_ok {stage : Except ε α} {change : α → β} {result : β}
    (done : stage.map change = .ok result) : ∃ given, stage = .ok given ∧ change given = result := by
  cases stage with
  | error failure => cases done
  | ok given => exact ⟨given, rfl, Except.ok.inj done⟩

/-- A check that passes has nothing else to give. -/
theorem eq_ok_of_isOk {check : Except ε Unit} (passes : check.isOk = true) : check = .ok () := by
  cases check with
  | error failure => cases passes
  | ok => rfl

/-- If the result of the first stage is changed, and the second stage hands the change on, then the result of
both is changed. -/
theorem bind_eq_map_bind {first : Except ε α} {first' : Except ε α'} {second : α → Except ε β}
    {second' : α' → Except ε β'} {change : α → α'} {change' : β → β'} (stage : first' = first.map change)
    (handsOn : ∀ given, second' (change given) = (second given).map change') :
    first' >>= second' = (first >>= second).map change' := by
  subst stage
  cases first with
  | error failure => rfl
  | ok given => exact handsOn given

/-- If the result of the second stage is changed, so is the result of both. -/
theorem bind_eq_map_bind_right {first : Except ε α} {second : α → Except ε β} {second' : α → Except ε β'}
    {change : β → β'} (changes : ∀ given, second' given = (second given).map change) :
    first >>= second' = (first >>= second).map change := by
  cases first with
  | error failure => rfl
  | ok given => exact changes given

/-! ### Forgetting failures -/

theorem toOption_eq_some_iff {stage : Except ε α} {result : α} :
    stage.toOption = some result ↔ stage = .ok result := by
  cases stage <;> simp [Except.toOption]

@[simp] theorem toOption_map (stage : Except ε α) (change : α → β) :
    (stage.map change).toOption = stage.toOption.map change := by
  cases stage <;> rfl

@[simp] theorem toOption_mapError (stage : Except ε α) (change : ε → δ) :
    (stage.mapError change).toOption = stage.toOption := by
  cases stage <;> rfl

@[simp] theorem toOption_bind (first : Except ε α) (second : α → Except ε β) :
    (first >>= second).toOption = first.toOption.bind fun given => (second given).toOption := by
  cases first <;> rfl

/-! ### Making one thing of each -/

theorem mapM_eq_some_of_map {make : α → Option β} {items : List α} {made : List β}
    (each : items.map make = made.map some) : items.mapM make = some made := by
  induction items generalizing made with
  | nil =>
    cases made with
    | nil => rfl
    | cons value values => cases each
  | cons item rest ih =>
    cases made with
    | nil => cases each
    | cons value values =>
      obtain ⟨first, others⟩ := List.cons.inj each
      rw [List.mapM_cons, first, ih others]
      rfl

theorem map_eq_of_mapM {make : α → Option β} {items : List α} {made : List β}
    (all : items.mapM make = some made) : items.map make = made.map some := by
  induction items generalizing made with
  | nil =>
    cases all
    rfl
  | cons item rest ih =>
    rw [List.mapM_cons] at all
    obtain ⟨value, first, all⟩ := Option.bind_eq_some_iff.mp all
    obtain ⟨values, others, all⟩ := Option.bind_eq_some_iff.mp all
    cases all
    rw [List.map_cons, List.map_cons, first, ih others]

/-- Everything made was made of something. -/
theorem exists_of_mem_of_mapM {make : α → Option β} {items : List α} {made : List β}
    (all : items.mapM make = some made) {value : β} (member : value ∈ made) :
    ∃ item ∈ items, make item = some value := by
  have inside : some value ∈ items.map make := by
    rw [map_eq_of_mapM all]
    exact List.mem_map_of_mem member
  exact List.mem_map.mp inside

/-- What makes the same of each makes the same of all. -/
theorem mapM_eq_some_of_each {make make' : α → Option β} {items : List α} {made : List β}
    (all : items.mapM make = some made)
    (each : ∀ item ∈ items, ∀ value, make item = some value → make' item = some value) :
    items.mapM make' = some made := by
  refine mapM_eq_some_of_map (Eq.trans ?_ (map_eq_of_mapM all))
  refine List.map_congr_left fun item member => ?_
  have inside : make item ∈ made.map some := by
    rw [← map_eq_of_mapM all]
    exact List.mem_map_of_mem member
  obtain ⟨value, -, same⟩ := List.mem_map.mp inside
  rw [← same, each item member value same.symm]

/-- If something can be made of each, something can be made of all. -/
theorem exists_mapM_eq_some {make : α → Option β} {items : List α}
    (each : ∀ item ∈ items, ∃ value, make item = some value) : ∃ made, items.mapM make = some made := by
  induction items with
  | nil => exact ⟨[], rfl⟩
  | cons item rest ih =>
    obtain ⟨value, first⟩ := each item (by simp)
    obtain ⟨values, others⟩ := ih fun item member => each item (by simp [member])
    exact ⟨value :: values, by rw [List.mapM_cons, first, others]; rfl⟩

end SecretSource
