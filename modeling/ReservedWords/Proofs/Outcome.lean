import Mathlib.Data.List.Basic

/-!
Computations that may fail. A computation that succeeds has succeeded in all its steps, so what
every step keeps holds at the end.
-/

namespace ReservedWords

variable {ε α β : Type}

/-- A sequence of two steps succeeds if and only if both do. -/
theorem bind_eq_ok {first : Except ε α} {next : α → Except ε β} {result : β}
    : (first >>= next) = .ok result ↔ ∃ value, first = .ok value ∧ next value = .ok result := by
  cases first with
  | error error => exact ⟨nofun, nofun⟩
  | ok value =>
    refine ⟨fun done => ⟨value, rfl, done⟩, ?_⟩
    rintro ⟨other, same, done⟩
    cases same
    exact done

/-- A sequence of two steps fails if and only if one of them does. -/
theorem bind_eq_error {first : Except ε α} {next : α → Except ε β} {error : ε}
    : (first >>= next) = .error error
      ↔ first = .error error ∨ ∃ value, first = .ok value ∧ next value = .error error := by
  cases first with
  | error other => simp [bind, Except.bind]
  | ok value => simp [bind, Except.bind]

/-- What every step of a fold keeps holds at its end, by induction on the items. -/
theorem foldlM_preserves {step : β → α → Except ε β} {holds : β → Prop} {items : List α}
    (keeps
      : ∀ item ∈ items,
          ∀ {before after}, holds before → step before item = .ok after → holds after)
    {first last : β} (start : holds first) (done : items.foldlM step first = .ok last)
    : holds last := by
  induction items generalizing first with
  | nil =>
    cases done
    exact start
  | cons item rest ih =>
    rw [List.foldlM_cons, bind_eq_ok] at done
    obtain ⟨next, stepped, remaining⟩ := done
    refine ih (fun later member => keeps later (List.mem_cons_of_mem _ member)) ?_ remaining
    exact keeps item List.mem_cons_self start stepped

/-- What the steps add up to holds at the end, by induction on the items. -/
theorem foldlM_collects {γ : Type} {step : β → α → Except ε β} {holds : List γ → β → Prop}
    {adds : α → List γ} {items : List α}
    (each
      : ∀ item ∈ items,
          ∀ {known before after},
            holds known before → step before item = .ok after → holds (known ++ adds item) after)
    {known : List γ} {first last : β} (start : holds known first)
    (done : items.foldlM step first = .ok last)
    : holds (known ++ items.flatMap adds) last := by
  induction items generalizing known first with
  | nil =>
    cases done
    rwa [List.flatMap_nil, List.append_nil]
  | cons item rest ih =>
    rw [List.foldlM_cons, bind_eq_ok] at done
    obtain ⟨next, stepped, remaining⟩ := done
    rw [List.flatMap_cons, ← List.append_assoc]
    refine ih (fun later member => each later (List.mem_cons_of_mem _ member)) ?_ remaining
    exact each item List.mem_cons_self start stepped

/-- Steps that succeed where others do, with the same results, come to the same end. -/
theorem foldlM_eq_ok_of_step {step other : β → α → Except ε β} {items : List α}
    (each
      : ∀ item ∈ items,
          ∀ {before after}, step before item = .ok after → other before item = .ok after)
    {first last : β} (done : items.foldlM step first = .ok last)
    : items.foldlM other first = .ok last := by
  induction items generalizing first with
  | nil => exact done
  | cons item rest ih =>
    rw [List.foldlM_cons, bind_eq_ok] at done
    obtain ⟨next, stepped, remaining⟩ := done
    rw [List.foldlM_cons, each item List.mem_cons_self stepped]
    exact ih (fun later member => each later (List.mem_cons_of_mem _ member)) remaining

/-- Two folds keep a relation if every step does that only one of them takes, and every step that
both take, by induction on the items of the first and on those of the second before the next that
both have. -/
theorem foldlM_related {step : β → α → Except ε β} {related : β → β → Prop} {shared : α → Bool}
    {items others : List α} (same : items.filter shared = others.filter shared)
    (left
      : ∀ item ∈ items,
          ¬ shared item
          → ∀ {first second after},
              related first second → step first item = .ok after → related after second)
    (right
      : ∀ item ∈ others,
          ¬ shared item
          → ∀ {first second after},
              related first second → step second item = .ok after → related first after)
    (both
      : ∀ item ∈ items,
          shared item
          → ∀ {first second next after},
              related first second
              → step first item = .ok next
              → step second item = .ok after
              → related next after)
    {first second last finish : β} (start : related first second)
    (done : items.foldlM step first = .ok last) (redone : others.foldlM step second = .ok finish)
    : related last finish := by
  induction items generalizing others first second with
  | nil =>
    cases done
    have alone : ∀ item ∈ others, ¬ shared item := List.filter_eq_nil_iff.mp same.symm
    exact foldlM_preserves (fun item member _ _ held stepped =>
      right item member (alone item member) held stepped) start redone
  | cons item rest ih =>
    rw [List.foldlM_cons, bind_eq_ok] at done
    obtain ⟨next, stepped, remaining⟩ := done
    have later := fun other member => left other (List.mem_cons_of_mem _ member)
    have after := fun other member => both other (List.mem_cons_of_mem _ member)
    by_cases common : shared item
    · rw [List.filter_cons_of_pos common] at same
      obtain ⟨before, others, rfl, alone, -, same⟩ := List.filter_eq_cons_iff.mp same.symm
      rw [List.foldlM_append, bind_eq_ok] at redone
      obtain ⟨middle, begun, redone⟩ := redone
      rw [List.foldlM_cons, bind_eq_ok] at redone
      obtain ⟨between, restepped, redone⟩ := redone
      have reached : related first middle :=
        foldlM_preserves (fun other member _ _ held stepped =>
          right other (List.mem_append_left _ member) (alone other member) held stepped) start begun
      refine ih same.symm later ?_ after ?_ remaining redone
      · exact fun other member =>
          right other (List.mem_append_right _ (List.mem_cons_of_mem _ member))
      · exact both item List.mem_cons_self common reached stepped restepped
    · rw [List.filter_cons_of_neg common] at same
      refine ih same later right after ?_ remaining redone
      exact left item List.mem_cons_self common start stepped

/-- A step without a result succeeds for all items if and only if it does for each. -/
theorem forM_eq_ok {step : α → Except ε Unit} {items : List α}
    : items.forM step = .ok () ↔ ∀ item ∈ items, step item = .ok () := by
  induction items with
  | nil => exact ⟨fun _ => nofun, fun _ => rfl⟩
  | cons item rest ih =>
    have step_first : (item :: rest).forM step = step item >>= fun _ => rest.forM step := rfl
    rw [step_first, bind_eq_ok, List.forall_mem_cons]
    constructor
    · rintro ⟨⟨⟩, here, later⟩
      exact ⟨here, ih.mp later⟩
    · rintro ⟨here, later⟩
      exact ⟨(), here, ih.mpr later⟩

/-- A step for every item succeeds if and only if all do, by induction on the items. -/
theorem mapM_eq_ok {f : α → Except ε β} {items : List α} {results : List β}
    : items.mapM f = .ok results ↔ items.map f = results.map .ok := by
  induction items generalizing results with
  | nil => cases results <;> simp [pure, Except.pure]
  | cons item rest ih =>
    rw [List.mapM_cons, bind_eq_ok]
    constructor
    · rintro ⟨first, here, done⟩
      obtain ⟨others, later, same⟩ := bind_eq_ok.mp done
      cases same
      rw [List.map_cons, List.map_cons, here, ih.mp later]
    · intro same
      obtain ⟨first, others, rfl, here, later⟩ := List.map_eq_cons_iff.mp same.symm
      exact ⟨first, here.symm, bind_eq_ok.mpr ⟨others, ih.mpr later.symm, rfl⟩⟩

-----------------------------------------------------------------------------------------
-- The errors of a computation
-----------------------------------------------------------------------------------------

/-- A computation that ends in no other errors than allowed. -/
def Confined (allowed : ε → Prop) (outcome : Except ε α) : Prop :=
  ∀ error, outcome = .error error → allowed error

variable {allowed : ε → Prop}

@[simp]
theorem confined_ok (value : α) : Confined allowed (.ok value) :=
  nofun

@[simp]
theorem confined_pure (value : α) : Confined allowed (pure value) :=
  nofun

@[simp]
theorem confined_error {error : ε} : Confined allowed (.error error : Except ε α) ↔ allowed error :=
  ⟨fun confined => confined error rfl, fun holds _ same => Except.error.inj same ▸ holds⟩

theorem Confined.mono {others : ε → Prop} {outcome : Except ε α}
    (confined : Confined allowed outcome) (weaker : ∀ error, allowed error → others error)
    : Confined others outcome :=
  fun error failed => weaker error (confined error failed)

theorem Confined.bind {first : Except ε α} {next : α → Except ε β} (start : Confined allowed first)
    (later : ∀ value, first = .ok value → Confined allowed (next value))
    : Confined allowed (first >>= next) := by
  cases first with
  | error error => exact confined_error.mpr (start error rfl)
  | ok value => exact later value rfl

theorem Confined.map {outcome : Except ε α} (confined : Confined allowed outcome) (f : α → β)
    : Confined allowed (outcome.map f) := by
  cases outcome with
  | error error => exact confined_error.mpr (confined error rfl)
  | ok value => exact confined_ok (f value)

/-- A fold is confined if every step is that starts where something holds which the steps keep, by
induction on the items. -/
theorem confined_foldlM_of_preserves {step : β → α → Except ε β} {holds : β → Prop}
    {items : List α}
    (keeps
      : ∀ item ∈ items,
          ∀ {before after}, holds before → step before item = .ok after → holds after)
    (each : ∀ item ∈ items, ∀ state, holds state → Confined allowed (step state item)) {first : β}
    (start : holds first)
    : Confined allowed (items.foldlM step first) := by
  induction items generalizing first with
  | nil => exact confined_pure first
  | cons item rest ih =>
    rw [List.foldlM_cons]
    refine (each item List.mem_cons_self first start).bind fun next stepped => ih ?_ ?_ ?_
    · exact fun later member => keeps later (List.mem_cons_of_mem _ member)
    · exact fun later member => each later (List.mem_cons_of_mem _ member)
    · exact keeps item List.mem_cons_self start stepped

theorem confined_foldlM {step : β → α → Except ε β} {items : List α} {first : β}
    (each : ∀ item ∈ items, ∀ state, Confined allowed (step state item))
    : Confined allowed (items.foldlM step first) :=
  confined_foldlM_of_preserves (fun _ _ _ _ _ _ => trivial)
    (fun item member state (_ : True) => each item member state) trivial

theorem confined_forM {step : α → Except ε Unit} {items : List α}
    (each : ∀ item ∈ items, Confined allowed (step item))
    : Confined allowed (items.forM step) := by
  induction items with
  | nil => exact confined_pure ()
  | cons item rest ih =>
    refine (each item List.mem_cons_self).bind fun _ _ => ih ?_
    exact fun later member => each later (List.mem_cons_of_mem _ member)

theorem confined_mapM {step : α → Except ε β} {items : List α}
    (each : ∀ item ∈ items, Confined allowed (step item))
    : Confined allowed (items.mapM step) := by
  induction items with
  | nil => exact confined_pure []
  | cons item rest ih =>
    rw [List.mapM_cons]
    refine (each item List.mem_cons_self).bind fun value _ => Confined.bind (ih ?_) fun _ _ => ?_
    · exact fun later member => each later (List.mem_cons_of_mem _ member)
    · exact confined_pure _

end ReservedWords
