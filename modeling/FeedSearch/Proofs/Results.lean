-- Results that may be errors: what is known of the parts of one that is none, and
-- when two of them look alike, whatever their errors say.

namespace FeedSearch

variable {ε ε' α β γ δ : Type}

/-! ## Results that are no errors -/

theorem map_eq_ok {x : Except ε α} {f : α → β} {b : β} (h : x.map f = .ok b) :
    ∃ a, x = .ok a ∧ f a = b := by
  cases x with
  | error e => cases h
  | ok a => exact ⟨a, rfl, Except.ok.inj h⟩

theorem mapError_eq_ok {x : Except ε α} {f : ε → ε'} {a : α} (h : x.mapError f = .ok a) :
    x = .ok a := by
  cases x with
  | error e => cases h
  | ok a' => exact congrArg Except.ok (Except.ok.inj h)

theorem bind_eq_ok {x : Except ε α} {f : α → Except ε β} {b : β} (h : x >>= f = .ok b) :
    ∃ a, x = .ok a ∧ f a = .ok b := by
  cases x with
  | error e => cases h
  | ok a => exact ⟨a, rfl, h⟩

/-! ## Results without their errors -/

theorem toOption_eq_some {x : Except ε α} {a : α} (h : x.toOption = some a) : x = .ok a := by
  cases x with
  | error e => cases h
  | ok a' => exact congrArg Except.ok (Option.some.inj h)

theorem toOption_map (x : Except ε α) (f : α → β) : (x.map f).toOption = x.toOption.map f := by
  cases x <;> rfl

theorem toOption_mapError (x : Except ε α) (f : ε → ε') :
    (x.mapError f).toOption = x.toOption := by
  cases x <;> rfl

theorem toOption_bind (x : Except ε α) (f : α → Except ε β) :
    (x >>= f).toOption = x.toOption.bind fun a => (f a).toOption := by
  cases x <;> rfl

/-- A step that always fails for one element fails for a list with it. -/
theorem foldlM_toOption_of_mem {f : β → α → Except ε β} {a : α} (h : ∀ b, (f b a).toOption = none)
    {l : List α} (ha : a ∈ l) (b : β) : (l.foldlM f b).toOption = none := by
  induction l generalizing b with
  | nil => cases ha
  | cons a' l ih =>
    rw [List.foldlM_cons, toOption_bind]
    rcases List.mem_cons.mp ha with rfl | ha
    · rw [h, Option.bind_none]
    · cases (f b a').toOption with
      | none => rfl
      | some b' => exact ih ha b'

/-! ## Results that look alike -/

/-- Two results are both errors, or both are none and look the same. -/
def Alike (look : α → γ) (x x' : Except ε α) : Prop :=
  x.toOption.map look = x'.toOption.map look

variable {look : α → γ} {x x' : Except ε α}

theorem Alike.of_none (h : x.toOption = none) (h' : x'.toOption = none) : Alike look x x' := by
  unfold Alike
  rw [h, h']

theorem Alike.ok {a a' : α} (h : look a = look a') :
    Alike look (.ok a : Except ε α) (.ok a') := congrArg some h

theorem Alike.cases (h : Alike look x x') :
    (x.toOption = none ∧ x'.toOption = none) ∨
      ∃ a a', x = .ok a ∧ x' = .ok a' ∧ look a = look a' := by
  cases x with
  | error e =>
    cases x' with
    | error e' => exact Or.inl ⟨rfl, rfl⟩
    | ok a' => cases h
  | ok a =>
    cases x' with
    | error e' => cases h
    | ok a' => exact Or.inr ⟨a, a', rfl, rfl, Option.some.inj h⟩

/-- Results that look alike may be carried on by steps that do not see a difference. -/
theorem Alike.bind (h : Alike look x x') {f f' : α → Except ε β} {look' : β → δ}
    (hf : ∀ a a', x = .ok a → x' = .ok a' → look a = look a' → Alike look' (f a) (f' a')) :
    Alike look' (x >>= f) (x' >>= f') := by
  obtain ⟨hx, hx'⟩ | ⟨a, a', hx, hx', hlook⟩ := h.cases
  · apply Alike.of_none
    · rw [toOption_bind, hx, Option.bind_none]
    · rw [toOption_bind, hx', Option.bind_none]
  · have hok := hf a a' hx hx' hlook
    rw [hx, hx']
    exact hok

theorem Alike.map (h : Alike look x x') {f f' : α → β} {look' : β → δ}
    (hf : ∀ a a', look a = look a' → look' (f a) = look' (f' a')) :
    Alike look' (x.map f) (x'.map f') := by
  obtain ⟨hx, hx'⟩ | ⟨a, a', rfl, rfl, hlook⟩ := h.cases
  · apply Alike.of_none
    · rw [toOption_map, hx, Option.map_none]
    · rw [toOption_map, hx', Option.map_none]
  · exact .ok (hf a a' hlook)

end FeedSearch
