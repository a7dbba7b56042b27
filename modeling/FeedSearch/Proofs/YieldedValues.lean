-- What decoders can give. A property of all that the decoder of an item reads holds
-- of the items of a list and of a value that may be null, and what the fields of a
-- structure keep as they are filled holds of all that are read.
import FeedSearch.Json.Decode
import FeedSearch.Proofs.Results

namespace FeedSearch.Json

variable {α σ : Type}

/-! ## Values and lists of them -/

/-- All that a decoder reads has a property. -/
def Yields (P : α → Prop) (decode : Decoder α) : Prop := ∀ ⦃r n a⦄, decode r n = .ok a → P a

/-- A refused node has no value. -/
theorem refuse_ne_ok (expected : String) (n : Node) (a : α) : refuse expected n ≠ .ok a := by
  intro h
  cases n with
  | text start stop s =>
    obtain ⟨t, _, h⟩ := bind_eq_ok h
    cases h
  | plain start stop v =>
    obtain ⟨t, _, h⟩ := bind_eq_ok h
    cases h
  | list start items ending => cases h
  | object start members ending => cases h
  | absent b => cases h

theorem decodeCount_yields (expected : String) :
    Yields (· ≤ Number.maxCount) (decodeCount expected) := by
  intro r n a h
  unfold decodeCount at h
  split at h
  · split at h
    · rename_i hfits
      exact Except.ok.inj h ▸ hfits
    · cases h
  · cases h
  · exact absurd h (refuse_ne_ok _ _ _)

theorem Yields.option {P : α → Prop} {decode : Decoder α} (hd : Yields P decode) :
    Yields (fun x : Option α => ∀ a ∈ x, P a) (decodeOption decode) := by
  intro r n x h a ha
  unfold decodeOption at h
  split at h
  · obtain rfl := Except.ok.inj h
    cases ha
  · split at h
    · cases h
    · obtain ⟨b, hb, rfl⟩ := map_eq_ok h
      exact Option.some.inj ha ▸ hd hb
  · obtain ⟨b, hb, rfl⟩ := map_eq_ok h
    exact Option.some.inj ha ▸ hd hb

theorem Yields.mapM {P : α → Prop} {decode : Decoder α} (hd : Yields P decode) {r : Reader}
    {nodes : List Node} {values : List α} (h : nodes.mapM (decode r) = .ok values) :
    ∀ a ∈ values, P a := by
  induction nodes generalizing values with
  | nil =>
    obtain rfl := Except.ok.inj h
    exact nofun
  | cons n nodes ih =>
    rw [List.mapM_cons] at h
    obtain ⟨a, ha, h⟩ := bind_eq_ok h
    obtain ⟨rest, hrest, h⟩ := bind_eq_ok h
    obtain rfl := Except.ok.inj h
    exact List.forall_mem_cons.mpr ⟨hd ha, ih hrest⟩

theorem Yields.list {P : α → Prop} {decode : Decoder α} (hd : Yields P decode) :
    Yields (fun l : List α => ∀ a ∈ l, P a) (decodeList decode) := by
  intro r n l h
  unfold decodeList at h
  split at h
  · obtain ⟨inner, _, h⟩ := bind_eq_ok h
    obtain ⟨values, hvalues, h⟩ := bind_eq_ok h
    obtain ⟨_, _, h⟩ := bind_eq_ok h
    obtain rfl := Except.ok.inj h
    exact hd.mapM hvalues
  · exact absurd h (refuse_ne_ok _ _ _)

/-! ## Structures -/

/-- A field keeps what holds of the structure. -/
def Slot.Keeps (I : σ → Prop) (slot : Slot σ) : Prop :=
  ∀ ⦃r n s s'⦄, slot.fill r n s = .ok s' → I s → I s'

theorem Slot.of_keeps {I : σ → Prop} {P : α → Prop} {decode : Decoder α} {get : σ → Option α}
    {set : α → σ → σ} (name : String) (mayLack : Bool) (hd : Yields P decode)
    (hset : ∀ a s, P a → I s → I (set a s)) :
    (Slot.of name mayLack decode get set).Keeps I := by
  intro r n s s' h hs
  obtain ⟨a, ha, rfl⟩ := map_eq_ok h
  exact hset a s (hd ha) hs

section Structures

variable {I : σ → Prop} {slots : List (Slot σ)}

theorem foldlM_keeps (h : ∀ slot ∈ slots, slot.Keeps I) {r : Reader} {members : List (Key × Node)}
    {s s' : σ} (hfold : members.foldlM (fillMember slots r) s = .ok s') (hs : I s) : I s' := by
  induction members generalizing s with
  | nil => exact Except.ok.inj hfold ▸ hs
  | cons member members ih =>
    rw [List.foldlM_cons] at hfold
    obtain ⟨s₁, hmember, hfold⟩ := bind_eq_ok hfold
    apply ih hfold
    obtain ⟨name, _, hmember⟩ := bind_eq_ok hmember
    split at hmember
    · rename_i slot hslot
      split at hmember
      · cases hmember
      · exact h slot (List.mem_of_find?_eq_some hslot) hmember hs
    · split at hmember
      · cases hmember
      · exact Except.ok.inj hmember ▸ hs

theorem fillItems_keeps (h : ∀ slot ∈ slots, slot.Keeps I) {expected : String} {r : Reader}
    {ending : Ending} {count : Nat} {items : List Node} {s : σ} {read : List Node × σ}
    (hfill : fillItems expected r ending count slots items s = .ok read) (hs : I s) :
    I read.2 := by
  induction slots generalizing count items s with
  | nil =>
    cases items <;> exact Except.ok.inj hfill ▸ hs
  | cons slot slots ih =>
    obtain ⟨hslot, hslots⟩ := List.forall_mem_cons.mp h
    cases items with
    | nil =>
      simp only [fillItems] at hfill
      obtain ⟨_, _, hfill⟩ := bind_eq_ok hfill
      split at hfill
      · exact ih hslots hfill hs
      · cases hfill
    | cons item items =>
      simp only [fillItems] at hfill
      obtain ⟨s₁, hitem, hfill⟩ := bind_eq_ok hfill
      exact ih hslots hfill (hslot hitem hs)

theorem settle_eq_ok {leave : Nat → Nat} {x : Except Failure α} {a : α}
    (h : settle leave x = .ok a) : x = .ok a := by
  cases x with
  | ok b => exact h
  | error e => cases e <;> cases h

theorem float_eq_ok {offset : Nat} {x : Except Shape.Mismatch α} {a : α}
    (h : float offset x = .ok a) : x = .ok a := by
  cases x with
  | ok b => exact congrArg Except.ok (Except.ok.inj h)
  | error e => cases h

/-- Nothing is left over of a list that is read as a structure, and it has its end. -/
theorem endOfItems_eq_ok {left : List Node} {ending : Ending} {u : Unit}
    (h : endOfItems left ending = .ok u) : left = [] ∧ ∃ stop, ending = .closed stop := by
  cases left with
  | nil =>
    cases ending with
    | closed stop => exact ⟨rfl, stop, rfl⟩
    | broken b =>
      simp only [endOfItems] at h
      split at h <;> cases h
  | cons n left =>
    cases n with
    | absent b =>
      simp only [endOfItems] at h
      split at h <;> cases h
    | _ => cases h

/-- What a structure is read of: an object that has its end and whose members fill the fields, or
a list that has its end and whose entries do, with none left over. -/
inductive ReadAs (layout : Layout σ α) (r : Reader) (a : α) : Node → Prop where
  | object {start stop : Nat} {members : List (Key × Node)} {inner : Reader} {s : σ}
      (henter : r.enter start = .ok inner)
      (hmembers : members.foldlM (fillMember layout.slots inner) layout.empty = .ok s)
      (hbuild : layout.build s = .ok a) : ReadAs layout r a (.object start members (.closed stop))
  | list {start stop : Nat} {entries : List Node} {inner : Reader} {expected : String} {s : σ}
      (henter : r.enter start = .ok inner)
      (hentries : fillItems expected inner (.closed stop) 0 layout.slots entries layout.empty =
        .ok ([], s))
      (hbuild : layout.build s = .ok a) : ReadAs layout r a (.list start entries (.closed stop))

theorem readAs_of_decodeStruct {layout : Layout σ α} {r : Reader} {n : Node} {a : α}
    (h : decodeStruct layout r n = .ok a) : ReadAs layout r a n := by
  cases n with
  | text start stop s => exact absurd h (refuse_ne_ok _ (.text start stop s) a)
  | plain start stop w => exact absurd h (refuse_ne_ok _ (.plain start stop w) a)
  | absent b => cases h
  | object start members ending =>
    obtain ⟨inner, henter, h⟩ := bind_eq_ok h
    obtain ⟨s, hmembers, h⟩ := bind_eq_ok (settle_eq_ok h)
    obtain ⟨_, hending, h⟩ := bind_eq_ok h
    cases ending with
    | closed stop => exact .object henter hmembers (float_eq_ok h)
    | broken b => cases hending
  | list start entries ending =>
    obtain ⟨inner, henter, h⟩ := bind_eq_ok h
    obtain ⟨⟨left, s⟩, hentries, h⟩ := bind_eq_ok (settle_eq_ok h)
    obtain ⟨_, hending, h⟩ := bind_eq_ok h
    obtain ⟨rfl, stop, rfl⟩ := endOfItems_eq_ok hending
    exact .list henter hentries (float_eq_ok h)

/-- A structure is built of fields that all slots have kept in order. -/
theorem decodeStruct_yields {layout : Layout σ α} (h : ∀ slot ∈ layout.slots, slot.Keeps I)
    (hempty : I layout.empty) :
    Yields (fun a => ∃ s, I s ∧ layout.build s = .ok a) (decodeStruct layout) := by
  intro r n a hd
  cases readAs_of_decodeStruct hd with
  | object _ hmembers hbuild => exact ⟨_, foldlM_keeps h hmembers hempty, hbuild⟩
  | list _ hentries hbuild => exact ⟨_, fillItems_keeps h hentries hempty, hbuild⟩

end Structures

/-! ## Documents -/

theorem decode_eq_ok {decoder : Decoder α} {text : String} {a : α}
    (h : decode decoder text = .ok a) :
    decoder ⟨text.toList, maxDepth⟩ (Document.ofText text.toList).root = .ok a ∧
      (Document.ofText text.toList).trailing = none := by
  unfold decode at h
  simp only at h
  split at h
  · rename_i hread htrailing
    exact ⟨hread.trans (congrArg Except.ok (Except.ok.inj h)), htrailing⟩
  · cases h
  · cases h
  · cases h

theorem Yields.decode {P : α → Prop} {decoder : Decoder α} (hd : Yields P decoder) {text : String}
    {a : α} (h : decode decoder text = .ok a) : P a := hd (decode_eq_ok h).1

end FeedSearch.Json
