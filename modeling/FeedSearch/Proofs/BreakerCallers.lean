-- Many callers of the breakers at once. A caller looks for the breaker of a name and, if
-- there is none, comes back to make it; others come in between. A breaker is known by its
-- place: it is made behind all others, and nothing moves it. All callers of one name get
-- one place, and the breaker there has taken every change that any of them made.
import FeedSearch.Proofs.BreakersByName
import Mathlib.Data.List.Infix
import Mathlib.Data.List.Nodup

namespace FeedSearch.Breakers

/-! ## Breakers by place -/

def names (bs : Breakers) : List String := bs.entries.map Prod.fst

/-- Where the breaker of a name is. -/
def place? (bs : Breakers) (name : String) : Option Nat := bs.names.idxOf? name

/-- Changes the breaker at a place. -/
def changeAt (bs : Breakers) (p : Nat) (f : Breaker → Breaker) : Breakers :=
  { bs with entries := bs.entries.modify p (Prod.map id f) }

section Places

variable {bs : Breakers} {name other : String} {p : Nat} {f : Breaker → Breaker}

/-- A name is found where its place is. -/
theorem find?_eq_place? (bs : Breakers) (name : String) :
    bs.find? name = (bs.place? name).bind fun p => bs.entries[p]?.map Prod.snd := by
  unfold find? place? names
  induction bs.entries with
  | nil => rfl
  | cons e rest ih =>
    rw [List.lookup_cons, List.map_cons, List.idxOf?_cons]
    by_cases he : e.1 = name
    · simp [he]
    · have hahead : (e.1 == name) = false := beq_false_of_ne he
      have hbehind : (name == e.1) = false := beq_false_of_ne (Ne.symm he)
      simp only [hahead, hbehind, Bool.false_eq_true, if_false]
      rw [ih, Option.bind_map]
      rfl

theorem names_getElem?_of_place? (h : bs.place? name = some p) : bs.names[p]? = some name := by
  obtain ⟨hp, hname, _⟩ := List.idxOf?_eq_some_iff.mp h
  rw [List.getElem?_eq_getElem hp, hname]

theorem place?_eq_none_iff : bs.place? name = none ↔ name ∉ bs.names := List.idxOf?_eq_none_iff

theorem exists_place? (h : name ∈ bs.names) : ∃ p, bs.place? name = some p :=
  Option.ne_none_iff_exists'.mp fun hnone => place?_eq_none_iff.mp hnone h

theorem find?_eq_none_iff : bs.find? name = none ↔ name ∉ bs.names := by
  unfold find? names
  rw [List.lookup_eq_none_iff]
  simp only [List.mem_map, not_exists, not_and, bne_iff_ne]
  exact ⟨fun h e he hname => h e he hname.symm, fun h e he hname => h e he hname.symm⟩

/-- A breaker is made behind all others, if there is none of its name. -/
theorem insertNew_cases (bs : Breakers) (name : String) :
    (name ∈ bs.names ∧ bs.insertNew name = bs) ∨
      (name ∉ bs.names ∧
        bs.insertNew name = { bs with entries := bs.entries ++ [(name, .fresh)] }) := by
  unfold insertNew
  cases hf : bs.find? name with
  | some b =>
    refine Or.inl ⟨by_contra fun hnone => ?_, rfl⟩
    rw [find?_eq_none_iff.mpr hnone] at hf
    cases hf
  | none => exact Or.inr ⟨find?_eq_none_iff.mp hf, rfl⟩

theorem entries_prefix_insertNew (bs : Breakers) (name : String) :
    bs.entries <+: (bs.insertNew name).entries := by
  rcases bs.insertNew_cases name with ⟨_, hsame⟩ | ⟨_, hnew⟩
  · rw [hsame]
  · rw [hnew]
    exact List.prefix_append _ _

theorem mem_names_insertNew :
    other ∈ (bs.insertNew name).names ↔ other ∈ bs.names ∨ other = name := by
  rcases bs.insertNew_cases name with ⟨hmem, hsame⟩ | ⟨_, hnew⟩
  · rw [hsame]
    exact ⟨Or.inl, fun h => h.elim id fun heq => heq ▸ hmem⟩
  · rw [hnew]
    simp [names]

theorem nodup_names_insertNew (h : bs.names.Nodup) (name : String) :
    (bs.insertNew name).names.Nodup := by
  rcases bs.insertNew_cases name with ⟨_, hsame⟩ | ⟨hout, hnew⟩
  · rw [hsame]
    exact h
  · have happend : (bs.insertNew name).names = bs.names ++ [name] := by
      rw [hnew]
      simp [names]
    rw [happend]
    exact List.nodup_append.mpr ⟨h, List.nodup_singleton name, fun a ha b hb hab =>
      hout (List.mem_singleton.mp hb ▸ hab ▸ ha)⟩

theorem ensure_snd (bs : Breakers) (name : String) : (bs.ensure name).2 = bs.insertNew name := by
  unfold ensure insertNew
  cases bs.find? name <;> rfl

theorem exists_place?_insertNew (bs : Breakers) (name : String) :
    ∃ p, (bs.insertNew name).place? name = some p :=
  exists_place? (mem_names_insertNew.mpr (Or.inr rfl))

theorem names_changeAt (bs : Breakers) (p : Nat) (f : Breaker → Breaker) :
    (bs.changeAt p f).names = bs.names := by
  unfold changeAt names
  refine List.ext_getElem? fun i => ?_
  rw [List.getElem?_map, List.getElem?_modify, List.getElem?_map]
  cases bs.entries[i]? with
  | none => rfl
  | some e => by_cases hi : p = i <;> simp [hi]

/-- The breaker at the place of a name is the breaker of that name. -/
theorem changeAt_eq_modify (hnodup : bs.names.Nodup) (hp : bs.names[p]? = some name) :
    bs.changeAt p f = bs.modify name f := by
  have hlt : p < bs.names.length := (List.getElem?_eq_some_iff.mp hp).1
  unfold changeAt modify
  refine congrArg (Breakers.mk bs.config) (List.ext_getElem? fun i => ?_)
  rw [List.getElem?_modify, List.getElem?_map]
  cases he : bs.entries[i]? with
  | none => rfl
  | some e =>
    have hname : bs.names[i]? = some e.1 := by simp [names, he]
    have hiff : p = i ↔ e.1 = name := by
      rw [← List.getElem?_inj hlt hnodup, hp, hname, Option.some_inj]
      exact eq_comm
    by_cases hi : p = i
    · simp [hi, hiff.mp hi, Prod.map]
    · simp [hi, mt hiff.mpr hi]

end Places

/-! ## Callers -/

/-- How far a caller has come: it is about to look; it has seen that there is no breaker of its
name; it holds the breaker at a place. -/
inductive Caller where
  | looking (name : String)
  | missing (name : String)
  | holding (name : String) (place : Nat)
  deriving DecidableEq, Repr

namespace Caller

def name : Caller → String
  | looking name => name
  | missing name => name
  | holding name _ => name

/-- The sections that a caller has behind it. -/
def stage : Caller → Nat
  | looking _ => 0
  | missing _ => 1
  | holding _ _ => 2

/-- What a caller goes on with after it has looked. -/
def told (name : String) : Option Nat → Caller
  | none => missing name
  | some p => holding name p

theorem name_told (name : String) (p? : Option Nat) : (told name p?).name = name := by
  cases p? <;> rfl

theorem stage_told_pos (name : String) (p? : Option Nat) : 0 < (told name p?).stage := by
  cases p? with
  | none => exact Nat.zero_lt_one
  | some p => exact Nat.zero_lt_two

theorem stage_le (c : Caller) : c.stage ≤ 2 := by
  cases c <;> simp [stage]

theorem exists_holding {c : Caller} (h : 2 ≤ c.stage) : ∃ p, c = holding c.name p := by
  cases c with
  | looking name => exact absurd h (Nat.not_le.mpr Nat.zero_lt_two)
  | missing name => exact absurd h (Nat.not_le.mpr Nat.one_lt_two)
  | holding name p => exact ⟨p, rfl⟩

end Caller

/-- Breakers with all their callers, and every change that a caller has made to the breaker that it
holds, with the name by which it got it. -/
structure Shared where
  breakers : Breakers
  callers : List Caller
  changes : List (String × (Breaker → Breaker))

/-- What is not interrupted: a caller comes for a name, looks for its breaker, makes it if it is
still not there, changes the breaker that it holds; somebody takes a breaker that is there. -/
inductive Step where
  | ask (name : String)
  | look (caller : Nat)
  | make (caller : Nat)
  | change (caller : Nat) (f : Breaker → Breaker)
  | take (name : String)

/-- What changes have made of the breaker of a name. -/
def changed (changes : List (String × (Breaker → Breaker))) (name : String) : Breaker :=
  changes.foldl (fun b c => if c.1 = name then c.2 b else b) .fresh

theorem changed_append (changes : List (String × (Breaker → Breaker))) (name other : String)
    (f : Breaker → Breaker) : changed (changes ++ [(name, f)]) other =
      if name = other then f (changed changes other) else changed changes other := by
  unfold changed
  rw [List.foldl_append]
  rfl

theorem changed_of_not_mem {changes : List (String × (Breaker → Breaker))} {name : String}
    (h : ∀ c ∈ changes, c.1 ≠ name) : changed changes name = .fresh := by
  unfold changed
  induction changes with
  | nil => rfl
  | cons c rest ih =>
    rw [List.foldl_cons, if_neg (h c List.mem_cons_self)]
    exact ih fun c' hc' => h c' (List.mem_cons_of_mem c hc')

namespace Shared

def start (config : BreakerConfig) : Shared :=
  { breakers := .empty config, callers := [], changes := [] }

/-- A caller that is not at a section does not go through it. -/
def act (w : Shared) : Step → Shared
  | .ask name => { w with callers := w.callers ++ [.looking name] }
  | .look n =>
    match w.callers[n]? with
    | some (.looking name) =>
      { w with callers := w.callers.set n (.told name (w.breakers.place? name)) }
    | _ => w
  | .make n =>
    match w.callers[n]? with
    | some (.missing name) =>
      let breakers := w.breakers.insertNew name
      { w with breakers, callers := w.callers.set n (.told name (breakers.place? name)) }
    | _ => w
  | .change n f =>
    match w.callers[n]? with
    | some (.holding name p) =>
      { w with breakers := w.breakers.changeAt p f, changes := w.changes ++ [(name, f)] }
    | _ => w
  | .take name =>
    match w.breakers.place? name with
    | some p => { w with callers := w.callers ++ [.holding name p] }
    | none => w

def play (w : Shared) (steps : List Step) : Shared := steps.foldl act w

variable {w : Shared} {n k p q : Nat} {name : String} {c : Caller}

/-! ## What a section does -/

theorem look_cases (w : Shared) (n : Nat) : w.act (.look n) = w ∨
    ∃ name, w.callers[n]? = some (.looking name) ∧ w.act (.look n) =
      { w with callers := w.callers.set n (.told name (w.breakers.place? name)) } := by
  simp only [act]
  split
  · rename_i name hc
    exact Or.inr ⟨name, hc, rfl⟩
  · exact Or.inl rfl

theorem make_cases (w : Shared) (n : Nat) : w.act (.make n) = w ∨
    ∃ name p, w.callers[n]? = some (.missing name) ∧
      (w.breakers.insertNew name).place? name = some p ∧ w.act (.make n) =
        { w with
          breakers := w.breakers.insertNew name
          callers := w.callers.set n (.holding name p) } := by
  simp only [act]
  split
  · rename_i name hc
    obtain ⟨p, hp⟩ := w.breakers.exists_place?_insertNew name
    refine Or.inr ⟨name, p, hc, hp, ?_⟩
    rw [hp]
    rfl
  · exact Or.inl rfl

theorem change_cases (w : Shared) (n : Nat) (f : Breaker → Breaker) : w.act (.change n f) = w ∨
    ∃ name p, w.callers[n]? = some (.holding name p) ∧ w.act (.change n f) =
      { w with
        breakers := w.breakers.changeAt p f
        changes := w.changes ++ [(name, f)] } := by
  simp only [act]
  split
  · rename_i name p hc
    exact Or.inr ⟨name, p, hc, rfl⟩
  · exact Or.inl rfl

theorem take_cases (w : Shared) (name : String) : w.act (.take name) = w ∨
    ∃ p, w.breakers.place? name = some p ∧
      w.act (.take name) = { w with callers := w.callers ++ [.holding name p] } := by
  simp only [act]
  split
  · rename_i p hp
    exact Or.inr ⟨p, hp, rfl⟩
  · exact Or.inl rfl

/-- A caller whose sections nobody comes between gets the breaker that the program gives it. -/
theorem undisturbed (w : Shared) (name : String) :
    let n := w.callers.length
    let w' := w.play [.ask name, .look n, .make n]
    w'.breakers = (w.breakers.ensure name).2 ∧
      ∃ p, w'.callers = w.callers ++ [.holding name p] ∧
        w'.breakers.entries[p]?.map Prod.snd = some (w.breakers.ensure name).1 := by
  intro n w'
  have hplay : ∃ p, w'.breakers = w.breakers.insertNew name ∧
      (w.breakers.insertNew name).place? name = some p ∧
        w'.callers = w.callers ++ [.holding name p] := by
    rcases w.breakers.insertNew_cases name with ⟨hmem, hsame⟩ | ⟨hout, _⟩
    · obtain ⟨p, hp⟩ := exists_place? hmem
      exact ⟨p, by simp [w', n, play, act, hp, Caller.told, hsame], hsame.symm ▸ hp,
        by simp [w', n, play, act, hp, Caller.told]⟩
    · obtain ⟨p, hp⟩ := w.breakers.exists_place?_insertNew name
      have hnone := place?_eq_none_iff.mpr hout
      exact ⟨p, by simp [w', n, play, act, hnone, Caller.told], hp,
        by simp [w', n, play, act, hnone, hp, Caller.told]⟩
  obtain ⟨p, hbreakers, hp, hcallers⟩ := hplay
  have hfound := w.breakers.find?_ensure_self name
  rw [ensure_snd, find?_eq_place?, hp, ← ensure_fst] at hfound
  exact ⟨hbreakers.trans (w.breakers.ensure_snd name).symm, p, hcallers, hbreakers ▸ hfound⟩

/-- Sections at which a caller does not change the breaker that it holds make a breaker at most. -/
theorem breakers_act (w : Shared) {s : Step} (hs : ∀ n f, s ≠ .change n f) :
    (w.act s).breakers = w.breakers ∨ ∃ name, (w.act s).breakers = w.breakers.insertNew name := by
  cases s with
  | ask name => exact Or.inl rfl
  | look n =>
    rcases w.look_cases n with hsame | ⟨_, _, hlooked⟩
    · exact Or.inl (congrArg breakers hsame)
    · exact Or.inl (by rw [hlooked])
  | make n =>
    rcases w.make_cases n with hsame | ⟨name, _, _, _, hmade⟩
    · exact Or.inl (congrArg breakers hsame)
    · exact Or.inr ⟨name, by rw [hmade]⟩
  | change n f => exact absurd rfl (hs n f)
  | take name =>
    rcases w.take_cases name with hsame | ⟨_, _, htaken⟩
    · exact Or.inl (congrArg breakers hsame)
    · exact Or.inl (by rw [htaken])

/-- They leave the breakers that are there as they are and where they are. -/
theorem entries_prefix_act (w : Shared) {s : Step} (hs : ∀ n f, s ≠ .change n f) :
    w.breakers.entries <+: (w.act s).breakers.entries := by
  rcases w.breakers_act hs with hsame | ⟨name, hmade⟩
  · rw [hsame]
  · rw [hmade]
    exact w.breakers.entries_prefix_insertNew name

theorem names_prefix_act (w : Shared) (s : Step) :
    w.breakers.names <+: (w.act s).breakers.names := by
  by_cases hs : ∃ n f, s = .change n f
  · obtain ⟨n, f, rfl⟩ := hs
    rcases w.change_cases n f with hsame | ⟨_, p, _, hchanged⟩
    · rw [hsame]
    · rw [hchanged, names_changeAt]
  · exact (w.entries_prefix_act fun n f h => hs ⟨n, f, h⟩).map Prod.fst

theorem names_prefix_play (w : Shared) (steps : List Step) :
    w.breakers.names <+: (w.play steps).breakers.names := by
  induction steps generalizing w with
  | nil => exact List.prefix_rfl
  | cons s rest ih => exact (w.names_prefix_act s).trans (ih (w.act s))

/-! ## Callers go on -/

/-- A new caller comes at the end, and one caller at most gets further. -/
theorem callers_act (w : Shared) (s : Step) :
    (w.act s).callers = w.callers ∨ (∃ c, (w.act s).callers = w.callers ++ [c]) ∨
      ∃ n c c', w.callers[n]? = some c ∧ c'.name = c.name ∧ c.stage < c'.stage ∧
        (w.act s).callers = w.callers.set n c' := by
  cases s with
  | ask name => exact Or.inr (Or.inl ⟨_, rfl⟩)
  | look n =>
    rcases w.look_cases n with hsame | ⟨name, hc, hlooked⟩
    · exact Or.inl (congrArg callers hsame)
    · exact Or.inr (Or.inr ⟨n, _, _, hc, Caller.name_told name _, Caller.stage_told_pos name _,
        congrArg callers hlooked⟩)
  | make n =>
    rcases w.make_cases n with hsame | ⟨name, p, hc, _, hmade⟩
    · exact Or.inl (congrArg callers hsame)
    · exact Or.inr (Or.inr ⟨n, .missing name, .holding name p, hc, rfl, Nat.one_lt_two,
        congrArg callers hmade⟩)
  | change n f =>
    rcases w.change_cases n f with hsame | ⟨_, _, _, hchanged⟩
    · exact Or.inl (congrArg callers hsame)
    · exact Or.inl (hchanged ▸ rfl)
  | take name =>
    rcases w.take_cases name with hsame | ⟨p, _, htaken⟩
    · exact Or.inl (congrArg callers hsame)
    · exact Or.inr (Or.inl ⟨_, congrArg callers htaken⟩)

/-- A caller stays as it is, or gets further with its name. -/
theorem caller_act (s : Step) (h : w.callers[n]? = some c) :
    ∃ c', (w.act s).callers[n]? = some c' ∧ (c' = c ∨ c'.name = c.name ∧ c.stage < c'.stage) := by
  have hn : n < w.callers.length := (List.getElem?_eq_some_iff.mp h).1
  rcases w.callers_act s with hsame | ⟨_, hnew⟩ | ⟨m, d, d', hd, hname, hstage, hset⟩
  · exact ⟨c, hsame ▸ h, Or.inl rfl⟩
  · exact ⟨c, by rw [hnew, List.getElem?_append_left hn, h], Or.inl rfl⟩
  · by_cases hm : m = n
    · subst hm
      obtain rfl : c = d := Option.some.inj (h.symm.trans hd)
      exact ⟨d', by rw [hset, List.getElem?_set_self hn], Or.inr ⟨hname, hstage⟩⟩
    · exact ⟨c, by rw [hset, List.getElem?_set_ne hm, h], Or.inl rfl⟩

/-- A caller keeps the breaker that it holds. -/
theorem holding_act (s : Step) (h : w.callers[n]? = some (.holding name p)) :
    (w.act s).callers[n]? = some (.holding name p) := by
  obtain ⟨c, hc, rfl | ⟨_, hstage⟩⟩ := caller_act s h
  · exact hc
  · -- There is no section after the last.
    exact absurd c.stage_le (Nat.not_le.mpr hstage)

theorem holding_play (steps : List Step) (h : w.callers[n]? = some (.holding name p)) :
    (w.play steps).callers[n]? = some (.holding name p) := by
  induction steps generalizing w with
  | nil => exact h
  | cons s rest ih => exact ih (holding_act s h)

/-- The caller with a number asks for a name and has a number of sections behind it. -/
def Past (w : Shared) (n : Nat) (name : String) (k : Nat) : Prop :=
  ∃ c, w.callers[n]? = some c ∧ c.name = name ∧ k ≤ c.stage

theorem Past.act (h : w.Past n name k) (s : Step) : (w.act s).Past n name k := by
  obtain ⟨c, hc, rfl, hk⟩ := h
  obtain ⟨c', hc', rfl | ⟨hname, hstage⟩⟩ := caller_act s hc
  · exact ⟨c', hc', rfl, hk⟩
  · exact ⟨c', hc', hname, Nat.le_trans hk (Nat.le_of_lt hstage)⟩

theorem Past.play (h : w.Past n name k) (steps : List Step) : (w.play steps).Past n name k := by
  induction steps generalizing w with
  | nil => exact h
  | cons s rest ih => exact ih (h.act s)

theorem Past.look (h : w.Past n name 0) : (w.act (.look n)).Past n name 1 := by
  obtain ⟨c, hc, rfl, _⟩ := h
  have hn : n < w.callers.length := (List.getElem?_eq_some_iff.mp hc).1
  cases c with
  | looking name =>
    have hlooked : (w.act (.look n)).callers =
        w.callers.set n (.told name (w.breakers.place? name)) := by simp [Shared.act, hc]
    refine ⟨.told name (w.breakers.place? name), ?_, Caller.name_told name _,
      Caller.stage_told_pos name _⟩
    rw [hlooked, List.getElem?_set_self hn]
  | missing name => exact Past.act ⟨.missing name, hc, rfl, Nat.le_refl 1⟩ _
  | holding name p => exact Past.act ⟨.holding name p, hc, rfl, Nat.le_succ 1⟩ _

theorem Past.make (h : w.Past n name 1) : (w.act (.make n)).Past n name 2 := by
  obtain ⟨c, hc, rfl, hstage⟩ := h
  have hn : n < w.callers.length := (List.getElem?_eq_some_iff.mp hc).1
  cases c with
  | looking name => exact absurd hstage (Nat.not_succ_le_zero 0)
  | missing name =>
    obtain ⟨p, hp⟩ := w.breakers.exists_place?_insertNew name
    have hmade : (w.act (.make n)).callers = w.callers.set n (.holding name p) := by
      simp [Shared.act, hc, hp, Caller.told]
    refine ⟨.holding name p, ?_, rfl, Nat.le_refl 2⟩
    rw [hmade, List.getElem?_set_self hn]
  | holding name p => exact Past.act ⟨.holding name p, hc, rfl, Nat.le_refl 2⟩ _

/-- A caller that has been through its sections has a breaker, whoever comes between. -/
theorem caller_gets_breaker (w : Shared) (name : String) (waiting between : List Step) :
    let n := w.callers.length
    let looked := ((w.act (.ask name)).play waiting).act (.look n)
    ∃ p, ((looked.play between).act (.make n)).callers[n]? = some (.holding name p) := by
  intro n looked
  have hasked : (w.act (.ask name)).Past n name 0 :=
    ⟨.looking name, List.getElem?_concat_length, rfl, Nat.le_refl 0⟩
  obtain ⟨c, hc, rfl, hstage⟩ := (((hasked.play waiting).look).play between).make
  obtain ⟨p, hp⟩ := Caller.exists_holding hstage
  exact ⟨p, hp ▸ hc⟩

/-! ## One breaker of each name -/

theorem mem_holding_act (s : Step) (h : .holding name p ∈ w.callers) :
    .holding name p ∈ (w.act s).callers := by
  obtain ⟨n, hn⟩ := List.mem_iff_getElem?.mp h
  exact List.mem_of_getElem? (holding_act s hn)

/-- Every name has one breaker, which somebody holds. It has taken the changes of all that hold the
breaker of its name, and nothing else. -/
structure Sound (w : Shared) : Prop where
  nodup : w.breakers.names.Nodup
  held : ∀ {name p}, .holding name p ∈ w.callers → w.breakers.names[p]? = some name
  wanted : ∀ {name}, name ∈ w.breakers.names → ∃ p, .holding name p ∈ w.callers
  states : ∀ e ∈ w.breakers.entries, e.2 = changed w.changes e.1
  known : ∀ c ∈ w.changes, c.1 ∈ w.breakers.names

namespace Sound

theorem start (config : BreakerConfig) : (Shared.start config).Sound where
  nodup := List.nodup_nil
  held := nofun
  wanted := nofun
  states := nofun
  known := nofun

/-- A section that leaves the breakers alone, and gives callers what is there. -/
theorem of_eq (h : w.Sound) (s : Step) (hbreakers : (w.act s).breakers = w.breakers)
    (hchanges : (w.act s).changes = w.changes)
    (hheld : ∀ name p, .holding name p ∈ (w.act s).callers →
      .holding name p ∈ w.callers ∨ w.breakers.place? name = some p) : (w.act s).Sound where
  nodup := hbreakers ▸ h.nodup
  held {name p} hmem := by
    rw [hbreakers]
    rcases hheld name p hmem with hbefore | hplace
    · exact h.held hbefore
    · exact names_getElem?_of_place? hplace
  wanted hname := by
    obtain ⟨p, hp⟩ := h.wanted (hbreakers ▸ hname)
    exact ⟨p, mem_holding_act s hp⟩
  states := by
    rw [hbreakers, hchanges]
    exact h.states
  known := by
    rw [hbreakers, hchanges]
    exact h.known

theorem look (h : w.Sound) (n : Nat) : (w.act (.look n)).Sound := by
  rcases w.look_cases n with hsame | ⟨name, _, hlooked⟩
  · exact hsame.symm ▸ h
  · refine h.of_eq (.look n) (by rw [hlooked]) (by rw [hlooked]) ?_
    intro other p hmem
    rw [hlooked] at hmem
    rcases List.mem_or_eq_of_mem_set hmem with hbefore | htold
    · exact Or.inl hbefore
    · cases hp : w.breakers.place? name with
      | none =>
        rw [hp] at htold
        cases htold
      | some q =>
        rw [hp] at htold
        cases htold
        exact Or.inr hp

theorem make (h : w.Sound) (n : Nat) : (w.act (.make n)).Sound := by
  rcases w.make_cases n with hsame | ⟨name, p, hmissing, hp, hmade⟩
  · exact hsame.symm ▸ h
  · have hn : n < w.callers.length := (List.getElem?_eq_some_iff.mp hmissing).1
    have hbreakers : (w.act (.make n)).breakers = w.breakers.insertNew name :=
      congrArg breakers hmade
    have hprefix : w.breakers.names <+: (w.breakers.insertNew name).names :=
      (w.breakers.entries_prefix_insertNew name).map Prod.fst
    refine ⟨?_, ?_, ?_, ?_, ?_⟩
    · rw [hbreakers]
      exact nodup_names_insertNew h.nodup name
    · intro other q hmem
      rw [hbreakers]
      rw [hmade] at hmem
      rcases List.mem_or_eq_of_mem_set hmem with hbefore | hnew
      · obtain ⟨hlt, hname⟩ := List.getElem?_eq_some_iff.mp (h.held hbefore)
        exact hname ▸ List.prefix_iff_getElem?.mp hprefix q hlt
      · cases hnew
        exact names_getElem?_of_place? hp
    · intro other hother
      rw [hbreakers] at hother
      rcases mem_names_insertNew.mp hother with hbefore | rfl
      · obtain ⟨q, hq⟩ := h.wanted hbefore
        exact ⟨q, mem_holding_act _ hq⟩
      · exact ⟨p, hmade ▸ List.mem_set hn _⟩
    · rw [hmade]
      rcases w.breakers.insertNew_cases name with ⟨_, hsame⟩ | ⟨hout, hnew⟩
      · exact hsame.symm ▸ h.states
      · intro e he
        rw [hnew] at he
        rcases List.mem_append.mp he with hbefore | hlast
        · exact h.states e hbefore
        · -- Nobody can have changed the breaker of a name that has just come in.
          obtain rfl := List.mem_singleton.mp hlast
          exact (changed_of_not_mem fun c hc (hname : c.1 = name) =>
            hout (hname ▸ h.known c hc)).symm
    · rw [hmade]
      exact fun c hc => hprefix.subset (h.known c hc)

theorem change (h : w.Sound) (n : Nat) (f : Breaker → Breaker) : (w.act (.change n f)).Sound := by
  rcases w.change_cases n f with hsame | ⟨name, p, hholding, hchanged⟩
  · exact hsame.symm ▸ h
  · have hname : w.breakers.names[p]? = some name := h.held (List.mem_of_getElem? hholding)
    have hnames := w.breakers.names_changeAt p f
    rw [hchanged]
    refine ⟨hnames.symm ▸ h.nodup, fun hmem => hnames.symm ▸ h.held hmem,
      fun hmem => h.wanted (hnames ▸ hmem), ?_, ?_⟩
    · intro e he
      rw [changeAt_eq_modify h.nodup hname] at he
      obtain ⟨e', he', rfl⟩ := List.mem_map.mp he
      by_cases hother : e'.1 = name
      · simp [hother, changed_append, h.states e' he']
      · simp [hother, changed_append, Ne.symm hother, h.states e' he']
    · intro c hc
      rw [hnames]
      rcases List.mem_append.mp hc with hbefore | hlast
      · exact h.known c hbefore
      · obtain rfl := List.mem_singleton.mp hlast
        exact List.mem_of_getElem? hname

theorem act (h : w.Sound) (s : Step) : (w.act s).Sound := by
  cases s with
  | ask name =>
    refine h.of_eq (.ask name) rfl rfl fun other p hmem => Or.inl ?_
    rcases List.mem_append.mp hmem with hbefore | hlast
    · exact hbefore
    · cases List.mem_singleton.mp hlast
  | look n => exact h.look n
  | make n => exact h.make n
  | change n f => exact h.change n f
  | take name =>
    rcases w.take_cases name with hsame | ⟨q, hq, htaken⟩
    · exact hsame.symm ▸ h
    · refine h.of_eq (.take name) (by rw [htaken]) (by rw [htaken]) ?_
      intro other p hmem
      rw [htaken] at hmem
      rcases List.mem_append.mp hmem with hbefore | hlast
      · exact Or.inl hbefore
      · cases List.mem_singleton.mp hlast
        exact Or.inr hq

theorem play (h : w.Sound) (steps : List Step) : (w.play steps).Sound := by
  induction steps generalizing w with
  | nil => exact h
  | cons s rest ih => exact ih (h.act s)

/-- A caller holds the breaker of its name, with the changes that callers of that name have made. -/
theorem at_place (h : w.Sound) (hmem : .holding name p ∈ w.callers) :
    w.breakers.entries[p]? = some (name, changed w.changes name) := by
  have hname : (w.breakers.entries[p]?).map Prod.fst = some name := by
    rw [← List.getElem?_map]
    exact h.held hmem
  obtain ⟨e, he, rfl⟩ := Option.map_eq_some_iff.mp hname
  rw [he, ← h.states e (List.mem_of_getElem? he)]

/-- A caller changes the breaker of its name. -/
theorem change_eq_modify (h : w.Sound) (hn : w.callers[n]? = some (.holding name p))
    (f : Breaker → Breaker) : (w.act (.change n f)).breakers = w.breakers.modify name f := by
  have hchanged : (w.act (.change n f)).breakers = w.breakers.changeAt p f := by
    simp only [Shared.act, hn]
  rw [hchanged]
  exact changeAt_eq_modify h.nodup (h.held (List.mem_of_getElem? hn))

/-- All that hold the breaker of one name hold the same. -/
theorem one_place (h : w.Sound) (hp : .holding name p ∈ w.callers)
    (hq : .holding name q ∈ w.callers) : p = q := by
  have hlt : p < w.breakers.names.length := (List.getElem?_eq_some_iff.mp (h.held hp)).1
  exact (List.getElem?_inj hlt h.nodup).mp ((h.held hp).trans (h.held hq).symm)

end Sound

end Shared

end FeedSearch.Breakers
