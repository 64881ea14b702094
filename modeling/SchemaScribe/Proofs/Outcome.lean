import Mathlib.Data.List.Forall2

/-!
# Outcomes of sequences

A sequence succeeds when each of its parts does, and fails with the failure of the first part that does
not. The laws of model building take sequences apart by these two statements, and lists of parts by one more
(`mapM_eq_ok`).
-/

namespace SchemaScribe

variable {ε : Type u} {ε' : Type x} {α β : Type v} {γ : Type w}

theorem bind_eq_ok {x : Except ε α} {f : α → Except ε β} {b : β} :
    x >>= f = .ok b ↔ ∃ a, x = .ok a ∧ f a = .ok b := by
  cases x with
  | error e =>
    refine ⟨fun h => ?_, fun ⟨_, h, _⟩ => ?_⟩
    · cases h
    · cases h
  | ok a =>
    refine ⟨fun h => ⟨a, rfl, h⟩, fun ⟨_, h, h'⟩ => ?_⟩
    cases h
    exact h'

theorem bind_eq_error {x : Except ε α} {f : α → Except ε β} {e : ε} :
    x >>= f = .error e ↔ x = .error e ∨ ∃ a, x = .ok a ∧ f a = .error e := by
  cases x with
  | error e' =>
    refine ⟨fun h => .inl (by cases h; rfl), fun h => ?_⟩
    rcases h with h | ⟨_, h, _⟩
    · cases h
      rfl
    · cases h
  | ok a =>
    refine ⟨fun h => .inr ⟨a, rfl, h⟩, fun h => ?_⟩
    rcases h with h | ⟨_, h, h'⟩
    · cases h
    · cases h
      exact h'

theorem toOption_eq_some {x : Except ε α} {a : α} : x.toOption = some a ↔ x = .ok a := by
  cases x with
  | error e =>
    refine ⟨fun h => ?_, fun h => ?_⟩
    · cases h
    · cases h
  | ok a' =>
    show some a' = some a ↔ _
    rw [Option.some_inj, Except.ok.injEq]

/-- Of a closed run a test of the result can be computed. -/
theorem exists_ok_of_any {x : Except ε α} {p : α → Bool} (h : x.toOption.any p = true) :
    ∃ a, x = .ok a ∧ p a = true := by
  cases x with
  | error _ => cases h
  | ok a => exact ⟨a, rfl, h⟩

/-- What a test of the result says holds of every result there is. -/
theorem of_all {x : Except ε α} {p : α → Bool} (h : x.toOption.all p = true) {a : α} (ha : x = .ok a) :
    p a = true := by
  rw [ha] at h
  exact h

theorem mapError_eq_ok {x : Except ε α} {f : ε → ε'} {a : α} :
    x.mapError f = .ok a ↔ x = .ok a := by
  cases x with
  | error e =>
    constructor
    · intro h
      cases h
    · intro h
      cases h
  | ok b => exact ⟨fun h => by cases h; rfl, fun h => by cases h; rfl⟩

/-- A list of parts succeeds when each part does. -/
theorem mapM_eq_ok {f : γ → Except ε β} :
    ∀ {items : List γ} {read : List β},
      items.mapM f = .ok read ↔ List.Forall₂ (fun item b => f item = .ok b) items read
  | [], read => by
    rw [List.mapM_nil, List.forall₂_nil_left_iff]
    exact ⟨fun h => by cases h; rfl, fun h => by rw [h]; rfl⟩
  | item :: rest, read => by
    rw [List.mapM_cons, bind_eq_ok, List.forall₂_cons_left_iff]
    simp only [bind_eq_ok, mapM_eq_ok]
    constructor
    · rintro ⟨b, hb, more, hmore, h⟩
      cases h
      exact ⟨b, more, hb, hmore, rfl⟩
    · rintro ⟨b, more, hb, hmore, rfl⟩
      exact ⟨b, hb, more, hmore, rfl⟩

/-- What is read is read of an item. -/
theorem exists_of_mem_read {R : γ → β → Prop} {items : List γ} {read : List β}
    (h : List.Forall₂ R items read) {b : β} (hb : b ∈ read) : ∃ item ∈ items, R item b := by
  induction h with
  | nil => cases hb
  | cons hhead _ ih =>
    rcases List.mem_cons.mp hb with rfl | hb
    · exact ⟨_, List.mem_cons_self, hhead⟩
    · obtain ⟨item, hitem, hR⟩ := ih hb
      exact ⟨item, List.mem_cons_of_mem _ hitem, hR⟩

end SchemaScribe
