-- Decoders that read the same into different types. What one of them reads, the
-- other reads as well, only carried over: lists and structures carry over what
-- their items and fields do, in JSON as in XML.
import FeedSearch.Json.Decode
import FeedSearch.Proofs.Results
import FeedSearch.Xml.Decode
import Mathlib.Data.List.Forall2

namespace FeedSearch

variable {α β σ τ : Type}

/-- The first fields of a name in two lists of fields that belong together. -/
theorem find?_forall₂ {R : α → β → Prop} {p : α → Bool} {p' : β → Bool} {as : List α}
    {bs : List β} (h : List.Forall₂ R as bs) (hp : ∀ {a b}, R a b → p' b = p a) :
    (as.find? p = none ∧ bs.find? p' = none) ∨
      ∃ a b, as.find? p = some a ∧ bs.find? p' = some b ∧ R a b := by
  induction h with
  | nil => exact Or.inl ⟨rfl, rfl⟩
  | @cons a b as bs hab _ ih =>
    rw [List.find?_cons, List.find?_cons, hp hab]
    cases p a with
    | true => exact Or.inr ⟨a, b, rfl, rfl, hab⟩
    | false => exact ih

/-! ## JSON -/

namespace Json

theorem refuse_map (f : α → β) (expected : String) (n : Node) :
    (refuse expected n : Except Failure β) = (refuse expected n).map f := by
  cases n with
  | text start stop s =>
    obtain ⟨strict, lenient⟩ := s
    cases strict <;> rfl
  | plain start stop v =>
    obtain ⟨strict, lenient⟩ := v
    cases strict <;> rfl
  | list start items ending => rfl
  | object start members ending => rfl
  | absent b => rfl

theorem settle_map (f : α → β) (leave : Nat → Nat) (x : Except Failure α) :
    settle leave (x.map f) = (settle leave x).map f := by
  cases x with
  | ok a => rfl
  | error e => cases e <;> rfl

theorem float_map (f : α → β) (offset : Nat) (x : Except Shape.Mismatch α) :
    float offset (x.map f) = (float offset x).map f := by
  cases x <;> rfl

/-- A decoder reads what another one reads, carried over into another type. -/
def Carries (f : α → β) (decode : Decoder α) (decode' : Decoder β) : Prop :=
  ∀ r n, decode' r n = (decode r n).map f

theorem Carries.mapM {f : α → β} {decode : Decoder α} {decode' : Decoder β}
    (h : Carries f decode decode') (r : Reader) (nodes : List Node) :
    nodes.mapM (decode' r) = (nodes.mapM (decode r)).map (List.map f) := by
  induction nodes with
  | nil => rfl
  | cons n nodes ih =>
    rw [List.mapM_cons, List.mapM_cons, ih, h r n]
    cases decode r n with
    | error e => rfl
    | ok a => cases nodes.mapM (decode r) <;> rfl

theorem Carries.list {f : α → β} {decode : Decoder α} {decode' : Decoder β}
    (h : Carries f decode decode') :
    Carries (List.map f) (decodeList decode) (decodeList decode') := by
  intro r n
  cases n with
  | list start items ending =>
    simp only [decodeList, bind, Except.bind]
    cases r.enter start with
    | error e => rfl
    | ok inner =>
      simp only
      rw [h.mapM]
      cases items.mapM (decode inner) with
      | error e => rfl
      | ok values =>
        simp only [Except.map]
        cases ending.check <;> rfl
  | text start stop s => exact refuse_map _ _ (.text start stop s)
  | plain start stop v => exact refuse_map _ _ (.plain start stop v)
  | object start members ending => rfl
  | absent b => rfl

/-- A field fills one structure as it fills another one. -/
structure Slot.Carries (g : σ → τ) (slot : Slot σ) (slot' : Slot τ) : Prop where
  name : slot'.name = slot.name
  mayLack : slot'.mayLack = slot.mayLack
  isFilled : ∀ s, slot'.isFilled (g s) = slot.isFilled s
  fill : ∀ r n s, slot'.fill r n (g s) = (slot.fill r n s).map g

/-- The structures of one layout carry over into those of another one. -/
structure Layout.Carries (g : σ → τ) (f : α → β) (layout : Layout σ α) (layout' : Layout τ β) :
    Prop where
  title : layout'.title = layout.title
  slots : List.Forall₂ (Slot.Carries g) layout.slots layout'.slots
  empty : layout'.empty = g layout.empty
  build : ∀ s, layout'.build (g s) = (layout.build s).map f

section Structures

variable {g : σ → τ} {f : α → β} {slots : List (Slot σ)} {slots' : List (Slot τ)}

theorem fillMember_carries (h : List.Forall₂ (Slot.Carries g) slots slots') (r : Reader) (s : σ)
    (member : Key × Node) :
    fillMember slots' r (g s) member = (fillMember slots r s member).map g := by
  unfold fillMember
  cases locate member.1.name with
  | error e => rfl
  | ok name =>
    simp only [bind, Except.bind]
    have hname {slot : Slot σ} {slot' : Slot τ} (h : slot.Carries g slot') :
        (slot'.name == name) = (slot.name == name) := by rw [h.name]
    obtain ⟨hnone, hnone'⟩ | ⟨slot, slot', hsome, hsome', hslot⟩ := find?_forall₂ h hname
    · rw [hnone, hnone']
      simp only
      cases member.2.lenientFault? <;> rfl
    · rw [hsome, hsome']
      simp only [hslot.isFilled, hslot.fill]
      split <;> rfl

theorem foldlM_carries (h : List.Forall₂ (Slot.Carries g) slots slots') (r : Reader)
    (members : List (Key × Node)) (s : σ) :
    members.foldlM (fillMember slots' r) (g s) = (members.foldlM (fillMember slots r) s).map g := by
  induction members generalizing s with
  | nil => rfl
  | cons member members ih =>
    rw [List.foldlM_cons, List.foldlM_cons, fillMember_carries h]
    cases fillMember slots r s member with
    | error e => rfl
    | ok s₁ => exact ih s₁

theorem fillItems_carries (h : List.Forall₂ (Slot.Carries g) slots slots') (expected : String)
    (r : Reader) (ending : Ending) (count : Nat) (items : List Node) (s : σ) :
    fillItems expected r ending count slots' items (g s) =
      (fillItems expected r ending count slots items s).map fun read => (read.1, g read.2) := by
  induction h generalizing count items s with
  | nil => cases items <;> rfl
  | @cons slot slot' slots slots' hslot _ ih =>
    cases items with
    | nil =>
      simp only [fillItems, hslot.mayLack, bind, Except.bind]
      cases ending.check with
      | error e => rfl
      | ok _ =>
        simp only
        split
        · exact ih (count + 1) [] s
        · rfl
    | cons item items =>
      simp only [fillItems, hslot.fill, bind, Except.bind]
      cases slot.fill r item s with
      | error e => rfl
      | ok s₁ => exact ih (count + 1) items s₁

theorem Layout.Carries.struct {layout : Layout σ α} {layout' : Layout τ β}
    (h : layout.Carries g f layout') :
    Json.Carries f (decodeStruct layout) (decodeStruct layout') := by
  intro r n
  cases n with
  | object start members ending =>
    simp only [decodeStruct, bind, Except.bind]
    cases r.enter start with
    | error e => rfl
    | ok inner =>
      simp only
      rw [h.empty, foldlM_carries h.slots, ← settle_map]
      congr 1
      cases members.foldlM (fillMember layout.slots inner) layout.empty with
      | error e => rfl
      | ok s =>
        simp only [Except.map]
        cases ending.check with
        | error e => rfl
        | ok _ =>
          simp only [h.build]
          exact float_map _ _ _
  | list start items ending =>
    simp only [decodeStruct, bind, Except.bind, h.title, ← h.slots.length_eq]
    cases r.enter start with
    | error e => rfl
    | ok inner =>
      simp only
      rw [h.empty, fillItems_carries h.slots, ← settle_map]
      congr 1
      cases fillItems _ inner ending 0 layout.slots items layout.empty with
      | error e => rfl
      | ok read =>
        simp only [Except.map]
        cases endOfItems read.1 ending with
        | error e => rfl
        | ok _ =>
          simp only [h.build]
          exact float_map _ _ _
  | text start stop s =>
    simp only [decodeStruct, h.title]
    exact refuse_map _ _ _
  | plain start stop v =>
    simp only [decodeStruct, h.title]
    exact refuse_map _ _ _
  | absent b =>
    simp only [decodeStruct, h.title]
    exact refuse_map _ _ _

end Structures

/-- What is read of a whole text carries over. -/
theorem decode_carries {f : α → β} {decoder : Decoder α} {decoder' : Decoder β}
    (h : Carries f decoder decoder') (text : String) :
    decode decoder' text = (decode decoder text).map f := by
  unfold decode
  simp only
  rw [h]
  cases decoder { text := text.toList, depth := maxDepth } (Document.ofText text.toList).root with
  | ok a => cases (Document.ofText text.toList).trailing <;> rfl
  | error e => cases e <;> rfl

end Json

/-! ## XML -/

namespace Xml

/-- A reader reads what another one reads, carried over into another type. -/
def Carries (f : α → β) (read : Reader α) (read' : Reader β) : Prop :=
  ∀ tag children ending, read' tag children ending = (read tag children ending).map f

/-- A field fills one structure as it fills another one. -/
structure Slot.Carries (g : σ → τ) (slot : Slot σ) (slot' : Slot τ) : Prop where
  name : slot'.name = slot.name
  repeats : slot'.repeats = slot.repeats
  title : slot'.title = slot.title
  isFilled : ∀ s, slot'.isFilled (g s) = slot.isFilled s
  fill : ∀ s, Xml.Carries g (slot.fill s) (slot'.fill (g s))

section Structures

variable {g : σ → τ} {slots : List (Slot σ)} {slots' : List (Slot τ)}

/-- The fields whose elements stand side by side, if there are such, belong together. -/
inductive Current (g : σ → τ) :
    Option (List Char × Slot σ) → Option (List Char × Slot τ) → Prop where
  | none : Current g none none
  | some {name : List Char} {slot : Slot σ} {slot' : Slot τ} (h : slot.Carries g slot') :
      Current g (some (name, slot)) (some (name, slot'))

theorem Current.filter {current : Option (List Char × Slot σ)}
    {current' : Option (List Char × Slot τ)} (h : Current g current current') (name : List Char) :
    Current g (current.filter (·.1 == name)) (current'.filter (·.1 == name)) := by
  cases h with
  | none => exact .none
  | @some name' slot slot' h =>
    cases hname : name' == name with
    | true => simpa [Option.filter, hname] using Current.some h
    | false => simpa [Option.filter, hname] using Current.none

theorem fillChildren_carries (h : List.Forall₂ (Slot.Carries g) slots slots') (name : List Char)
    (ending : Option Break) (nodes : List Node) {current : Option (List Char × Slot σ)}
    {current' : Option (List Char × Slot τ)} (hcurrent : Current g current current') (s : σ) :
    fillChildren slots' name ending current' (g s) nodes =
      (fillChildren slots name ending current s nodes).map g := by
  induction nodes generalizing current current' s with
  | nil =>
    simp only [fillChildren]
    cases checkEnding name ending <;> rfl
  | cons node nodes ih =>
    cases node with
    | text content =>
      simp only [fillChildren]
      cases checkText content with
      | error e => rfl
      | ok t =>
        simp only [bind, Except.bind]
        cases hcurrent with
        | none => exact ih .none s
        | some hslot => simp only [hslot.title]; rfl
    | element tag children inner =>
      have hfilter := hcurrent.filter tag.name
      simp only [fillChildren]
      generalize current.filter (·.1 == tag.name) = same at hfilter
      generalize current'.filter (·.1 == tag.name) = same' at hfilter
      cases hfilter with
      | @some _ slot slot' hslot =>
        simp only [bind, Except.bind, hslot.fill s tag children inner]
        cases slot.fill s tag children inner with
        | error e => rfl
        | ok s₁ => exact ih hcurrent s₁
      | none =>
        have hname {slot : Slot σ} {slot' : Slot τ} (h : slot.Carries g slot') :
            (slot'.name.toList == localName tag.name) =
              (slot.name.toList == localName tag.name) := by rw [h.name]
        obtain ⟨hnone, hnone'⟩ | ⟨slot, slot', hsome, hsome', hslot⟩ := find?_forall₂ h hname
        · simp only [hnone, hnone', bind, Except.bind]
          cases skipElement tag.name inner children with
          | error e => rfl
          | ok _ => exact ih .none s
        · simp only [hsome, hsome', hslot.isFilled, hslot.name, hslot.repeats, bind, Except.bind,
            hslot.fill s tag children inner]
          split
          · rfl
          · cases slot.fill s tag children inner with
            | error e => rfl
            | ok s₁ =>
              simp only [Except.map]
              split
              · exact ih (.some hslot) s₁
              · exact ih .none s₁

theorem readStruct_carries (h : List.Forall₂ (Slot.Carries g) slots slots') (empty : σ) :
    Carries g (readStruct slots empty) (readStruct slots' (g empty)) := by
  intro tag children ending
  simp only [readStruct]
  cases checkAttributes tag with
  | error e => rfl
  | ok _ => exact fillChildren_carries h tag.name ending children .none empty

end Structures

theorem readRoot_carries {f : α → β} {read : Reader α} {read' : Reader β} (h : Carries f read read')
    (title : String) (document : Document) :
    readRoot title read' document = (readRoot title read document).map f := by
  unfold readRoot
  split
  · exact h _ _ _
  · rename_i content _ _
    cases checkText content <;> rfl
  · split <;> rfl

end Xml

end FeedSearch
