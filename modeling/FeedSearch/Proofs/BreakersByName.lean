-- The breakers of all providers: what an operation on one name does to the
-- breaker of that name, and that it leaves the breakers of all others.
import FeedSearch.Breakers

namespace FeedSearch.Breakers

/-- The breaker of a name, a new one if there is none yet. -/
def current (bs : Breakers) (name : String) : Breaker := (bs.find? name).getD .fresh

/-! ## Changing one breaker -/

@[simp] theorem modify_config (bs : Breakers) (name : String) (f : Breaker → Breaker) :
    (bs.modify name f).config = bs.config := rfl

/-- A change of the breaker of one name, as every name sees it. -/
theorem find?_modify (bs : Breakers) (name other : String) (f : Breaker → Breaker) :
    (bs.modify name f).find? other =
      (bs.find? other).map fun b => if other = name then f b else b := by
  unfold modify find?
  simp only
  induction bs.entries with
  | nil => rfl
  | cons e rest ih =>
    obtain ⟨n, b⟩ := e
    have hhead : (if (n == name) = true then (n, f b) else (n, b)) =
        (n, if n = name then f b else b) := by
      by_cases hn : n = name <;> simp [hn]
    rw [List.map_cons, hhead, List.lookup_cons, List.lookup_cons, ih]
    by_cases ho : other = n
    · simp [ho]
    · have hne : (other == n) = false := by simp [ho]
      simp only [hne]

theorem find?_modify_self (bs : Breakers) (name : String) (f : Breaker → Breaker) :
    (bs.modify name f).find? name = (bs.find? name).map f := by
  simp [find?_modify]

theorem find?_modify_ne (bs : Breakers) {name other : String} (f : Breaker → Breaker)
    (ho : other ≠ name) : (bs.modify name f).find? other = bs.find? other := by
  simp [find?_modify, ho]

/-! ## Making a breaker -/

@[simp] theorem ensure_config (bs : Breakers) (name : String) :
    (bs.ensure name).2.config = bs.config := by
  unfold ensure insertNew
  cases h : bs.find? name <;> rfl

theorem ensure_fst (bs : Breakers) (name : String) : (bs.ensure name).1 = bs.current name := by
  unfold ensure insertNew current
  cases h : bs.find? name with
  | some b => rfl
  | none =>
    unfold find? at h
    simp [find?, List.lookup_append, h]

theorem find?_ensure_self (bs : Breakers) (name : String) :
    (bs.ensure name).2.find? name = some (bs.current name) := by
  unfold ensure insertNew current
  cases h : bs.find? name with
  | some b => exact h
  | none =>
    unfold find? at h
    simp [find?, List.lookup_append, h]

theorem find?_ensure_ne (bs : Breakers) {name other : String} (ho : other ≠ name) :
    (bs.ensure name).2.find? other = bs.find? other := by
  unfold ensure insertNew
  cases h : bs.find? name with
  | some b => rfl
  | none =>
    have hne : (other == name) = false := by simp [ho]
    simp [find?, List.lookup_append, List.lookup_cons, hne]

/-! ## Asking for a call -/

/-- Whether a call of a provider may start. -/
def admits (bs : Breakers) (name : String) (now : Instant) : Bool := (bs.enter name now).1

theorem admits_eq (bs : Breakers) (name : String) (now : Instant) :
    bs.admits name now = ((bs.current name).enter bs.config now).1 := by
  simp only [admits, enter, ensure_fst, ensure_config]

@[simp] theorem enter_config (bs : Breakers) (name : String) (now : Instant) :
    (bs.enter name now).2.config = bs.config := by
  simp only [enter, modify_config, ensure_config]

theorem find?_enter_self (bs : Breakers) (name : String) (now : Instant) :
    (bs.enter name now).2.find? name = some ((bs.current name).enter bs.config now).2 := by
  simp only [enter, find?_modify_self, find?_ensure_self, ensure_fst, ensure_config,
    Option.map_some]

theorem find?_enter_ne (bs : Breakers) {name other : String} (now : Instant)
    (ho : other ≠ name) : (bs.enter name now).2.find? other = bs.find? other := by
  simp only [enter, find?_modify_ne _ _ ho, find?_ensure_ne _ ho]

theorem admits_enter_ne (bs : Breakers) {name other : String} (now : Instant) (later : Instant)
    (ho : other ≠ name) : (bs.enter name now).2.admits other later = bs.admits other later := by
  simp only [admits_eq, current, enter_config, find?_enter_ne _ _ ho]

/-! ## Breakers that are not open -/

theorem enter_of_ne_opened {b : Breaker} (c : BreakerConfig) (now : Instant)
    (h : b.state ≠ .opened) : b.enter c now = (true, b) := by
  unfold Breaker.enter
  split
  · rename_i ho; exact absurd ho h
  · rfl

theorem admits_of_ne_opened {bs : Breakers} {name : String} (now : Instant)
    (h : (bs.current name).state ≠ .opened) : bs.admits name now = true := by
  rw [admits_eq, enter_of_ne_opened _ _ h]

theorem current_enter_of_ne_opened {bs : Breakers} {name : String} (now : Instant)
    (h : (bs.current name).state ≠ .opened) :
    ((bs.enter name now).2.find? name).getD .fresh = bs.current name := by
  rw [find?_enter_self, enter_of_ne_opened _ _ h]
  rfl

end FeedSearch.Breakers
