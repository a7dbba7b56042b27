-- Ids as numbers. Where the id of an item is a text of digits it may as well be the
-- number: as long as this is a signed number of 64 bits the same records are read,
-- and with any other number the whole feed is lost.
import FeedSearch.Proofs.NullMembers
import FeedSearch.Proofs.SwappedIds
import FeedSearch.Proofs.YieldedValues
import Mathlib.Algebra.Group.Int.Defs

namespace FeedSearch

namespace Json

/-! ## Numbers that are no whole ones -/

/-- A number of no 64 bits is read as a float, if it is read at all. -/
theorem Numeral.float?_eq (n : Numeral) : ∃ bits : Option UInt64, n.float? = bits.map .float := by
  unfold Numeral.float?
  simp only
  split
  · cases scaledFloat? _ _ with
    | none => exact ⟨none, rfl⟩
    | some f => exact ⟨some _, rfl⟩
  · split
    · exact ⟨none, rfl⟩
    · exact ⟨some _, rfl⟩

end Json

namespace Feed

open Json

/-- A whole number is an id if it is a signed one of 64 bits. -/
theorem idForm?_ofInt (n : Int) :
    idForm? (.plain ((Figure.ofInt n).numeral.value?.map Scalar.number)) =
      if Number.fitsSigned n then some (toString n) else none := by
  have hsize : Number.signSize ≤ Number.maxCount := by decide
  have hfloat : idForm? (.plain ((Figure.ofInt n).numeral.float?.map Scalar.number)) = none := by
    obtain ⟨bits, hbits⟩ := (Figure.ofInt n).numeral.float?_eq
    rw [hbits]
    cases bits <;> rfl
  rw [Figure.value?_ofInt]
  simp only [Number.fitsSigned, Bool.and_eq_true, decide_eq_true_eq]
  by_cases hfits : n.natAbs ≤ Number.maxCount
  · rw [if_pos hfits]
    by_cases hn : n < 0
    · rw [if_pos hn]
      by_cases hsigned : n.natAbs ≤ Number.signSize
      · rw [if_pos hsigned, if_pos ⟨by omega, by omega⟩]
        rfl
      · rw [if_neg hsigned, if_neg (by omega)]
        rfl
    · rw [if_neg hn]
      obtain ⟨k, rfl⟩ : ∃ k : Nat, n = k := ⟨n.natAbs, by omega⟩
      have htext : toString (k : Int) = toString k := by simp [Int.repr_eq_if]
      have hcount : idForm? (.plain (some (.number (.count k)))) =
          if k < Number.signSize then some (toString k) else none := rfl
      rw [Int.natAbs_natCast, Option.map_some, hcount, htext]
      exact if_congr (by omega) rfl rfl
  · rw [if_neg hfits, hfloat, if_neg (by omega)]

/-! ## What is left of a value -/

variable {α β σ : Type}

/-- What is left of a value if an id in it has been swapped, and swapped ids are lost. -/
def leftOf (lost swapped : Bool) (a : α) : Option α := if swapped && lost then none else some a

section Left

variable {lost : Bool}

theorem leftOf_map (b : Bool) (a : α) (f : α → β) :
    (leftOf lost b a).map f = leftOf lost b (f a) := by
  unfold leftOf
  split <;> rfl

/-- Two parts are left if both are. -/
theorem leftOf_bind (b c : Bool) (a : α) (a' : β) {f : α → Option β}
    (hf : f a = leftOf lost c a') : (leftOf lost b a).bind f = leftOf lost (b || c) a' := by
  cases lost <;> cases b <;> cases c <;> simp_all [leftOf]

end Left

/-! ## Decoders -/

/-- A decoder at a place reads the same of two trees that are the same but for ids, or nothing if a
swapped id is lost. It refuses a value that cannot be read. -/
structure Keeps (x : String) (v : Option Scalar) (lost : Bool) (p : Place) (decode : Decoder α) :
    Prop where
  reads : ∀ {b : Bool} {r r' : Reader} {n n' : Node} {a : α}, Swapped x v b p n n' →
    r.depth = r'.depth → decode r n = .ok a → (decode r' n').toOption = leftOf lost b a
  refuses : ∀ {r : Reader} {start stop : Nat} {e : Fault} {a : α},
    decode r (.plain start stop ⟨.error e, none⟩) ≠ .ok a

section Values

variable {x : String} {v : Option Scalar} {lost : Bool} {p : Place}

/-- What a swapped id tells: it stands for the id, or for no id at all. -/
structure Tells (x : String) (v : Option Scalar) (lost : Bool) : Prop where
  id : idForm? (.plain v) = leftOf lost true x
  notNull : v ≠ some .null

/-- A decoder of values without parts tells nodes apart by what they show. -/
theorem Keeps.of_read {decode : Decoder α} {read? : Form → Option α}
    (hread : ∀ {f : Form} (r : Reader) {n : Node}, Shows f n → (decode r n).toOption = read? f)
    (hunread : read? (.plain none) = none)
    (hparts : ∀ {r : Reader} {n : Node}, n.isClosed = true → (decode r n).toOption = none)
    (hid : p = .id → ∀ {a : α}, read? (.text (some x)) = some a →
      read? (.plain v) = leftOf lost true a) :
    Keeps x v lost p decode where
  reads := by
    intro b r r' n n' a h _ ha
    have hsome : (decode r n).toOption = some a := congrArg Except.toOption ha
    cases h with
    | id hs hw =>
      rw [hread r (.text hs)] at hsome
      exact (hread r' (.plain hw)).trans (hid rfl hsome)
    | text hs =>
      rw [hread r (.text hs)] at hsome
      exact (hread r' (.text rfl)).trans hsome
    | plain hw =>
      rw [hread r (.plain hw)] at hsome
      exact (hread r' (.plain rfl)).trans hsome
    | list =>
      rw [hparts rfl] at hsome
      cases hsome
    | object =>
      rw [hparts rfl] at hsome
      cases hsome
  refuses := by
    intro r start stop e a ha
    have hnone := hread r (.plain rfl : Shows (.plain none) (.plain start stop ⟨.error e, none⟩))
    rw [ha, hunread] at hnone
    cases hnone

theorem decodeText_keeps (hp : p ≠ .id) : Keeps x v lost p decodeText := by
  refine .of_read decodeText_toOption rfl (fun {r n} h => ?_) fun hid => absurd hid hp
  cases n with
  | list => rfl
  | object => rfl
  | _ => cases h

theorem decodeCount_keeps (expected : String) (hp : p ≠ .id) :
    Keeps x v lost p (decodeCount expected) := by
  refine .of_read (decodeCount_toOption expected) rfl (fun {r n} h => ?_) fun hid => absurd hid hp
  cases n with
  | list => rfl
  | object => rfl
  | _ => cases h

theorem decodeId_keeps (hv : Tells x v lost) : Keeps x v lost p decodeId := by
  refine .of_read decodeId_toOption rfl (fun {r n} h => ?_) fun _ a hx => ?_
  · unfold decodeId decodeAny
    cases n with
    | list => split <;> rfl
    | object => split <;> rfl
    | _ => cases h
  · obtain rfl := Option.some.inj hx
    exact hv.id

/-- A word or a number that is not null is read, or refused, as if there were no option. -/
theorem Keeps.option_plain {decode : Decoder α} (h : Keeps x v lost p decode) (r : Reader)
    (start stop : Nat) (w : Except Fault Scalar) :
    (decodeOption decode r (.plain start stop ⟨w, none⟩)).toOption =
      if w.toOption = some .null then some none
      else (decode r (.plain start stop ⟨w, none⟩)).toOption.map some := by
  cases w with
  | error e =>
    have hrefused : (decode r (.plain start stop ⟨.error e, none⟩)).toOption = none := by
      cases hd : decode r (.plain start stop ⟨.error e, none⟩) with
      | error => rfl
      | ok a => exact absurd hd h.refuses
    rw [hrefused, if_neg (by simp [Except.toOption])]
    simp only [decodeOption]
    split
    · rfl
    · rw [toOption_map, hrefused]
  | ok w =>
    cases w with
    | null => rfl
    | truth b => exact toOption_map _ _
    | number m => exact toOption_map _ _

theorem Keeps.option {decode : Decoder α} (h : Keeps x v lost p decode) (hv : Tells x v lost) :
    Keeps x v lost p (decodeOption decode) where
  reads := by
    intro b r r' n n' a hn hdepth ha
    -- a value that is no null is read on both sides
    have hvalue : (decode r n).toOption.map some = some a →
        (decode r' n').toOption.map some = leftOf lost b a := by
      intro hsome
      obtain ⟨a₀, ha₀, rfl⟩ := Option.map_eq_some_iff.mp hsome
      rw [h.reads hn hdepth (toOption_eq_some ha₀), leftOf_map]
    have hsome : (decodeOption decode r n).toOption = some a := congrArg Except.toOption ha
    cases hn with
    | id hs hw =>
      rw [h.option_plain, hw, if_neg hv.notNull]
      exact hvalue ((toOption_map _ _).symm.trans hsome)
    | text => exact (toOption_map _ _).trans (hvalue ((toOption_map _ _).symm.trans hsome))
    | list => exact (toOption_map _ _).trans (hvalue ((toOption_map _ _).symm.trans hsome))
    | object => exact (toOption_map _ _).trans (hvalue ((toOption_map _ _).symm.trans hsome))
    | plain hw =>
      rw [h.option_plain] at hsome ⊢
      rw [← hw]
      split
      · rename_i hnull
        rw [if_pos hnull] at hsome
        exact hsome
      · rename_i hnull
        rw [if_neg hnull] at hsome
        exact hvalue hsome
  refuses := by
    intro r start stop e a ha
    have hnone := h.option_plain r start stop (.error e)
    rw [ha, if_neg (by simp [Except.toOption])] at hnone
    cases hd : decode r (.plain start stop ⟨.error e, none⟩) with
    | error =>
      rw [hd] at hnone
      cases hnone
    | ok a => exact h.refuses hd

/-! ## Lists -/

theorem Keeps.mapM {decode : Decoder α} {i : Nat} (h : ∀ i, Keeps x v lost (p.nth i) decode)
    {b : Bool} {items items' : List Node} (hitems : SwappedItems x v b p i items items')
    {r r' : Reader} (hdepth : r.depth = r'.depth) {values : List α}
    (hvalues : items.mapM (decode r) = .ok values) :
    (items'.mapM (decode r')).toOption = leftOf lost b values := by
  induction items generalizing b i items' values with
  | nil =>
    cases hitems
    obtain rfl := Except.ok.inj hvalues
    rfl
  | cons n items ih =>
    cases hitems with
    | cons hn hrest =>
      rw [List.mapM_cons] at hvalues ⊢
      obtain ⟨a, ha, hvalues⟩ := bind_eq_ok hvalues
      obtain ⟨rest, hmap, hvalues⟩ := bind_eq_ok hvalues
      obtain rfl := Except.ok.inj hvalues
      rw [toOption_bind, (h i).reads hn hdepth ha]
      refine leftOf_bind _ _ _ _ ?_
      rw [toOption_bind, ih hrest hmap, ← leftOf_map _ rest (a :: ·)]
      cases leftOf lost _ rest <;> rfl

theorem enter_eq_ok {r r' inner : Reader} {start : Nat} (hdepth : r.depth = r'.depth)
    (h : r.enter start = .ok inner) (start' : Nat) :
    ∃ inner', r'.enter start' = .ok inner' ∧ inner.depth = inner'.depth := by
  unfold Reader.enter at h ⊢
  rw [← hdepth]
  cases hr : r.depth with
  | zero =>
    rw [hr] at h
    cases h
  | succ depth =>
    rw [hr] at h
    obtain rfl := Except.ok.inj h
    exact ⟨_, rfl, rfl⟩

theorem Keeps.list {decode : Decoder α} (h : ∀ i, Keeps x v lost (p.nth i) decode) (hp : p ≠ .id) :
    Keeps x v lost p (decodeList decode) where
  reads := by
    intro b r r' n n' values hn hdepth hvalues
    cases hn with
    | id => exact absurd rfl hp
    | @text _ start stop _ _ s =>
      exact absurd hvalues (refuse_ne_ok "a sequence" (.text start stop ⟨s, none⟩) values)
    | @plain _ start stop _ _ w =>
      exact absurd hvalues (refuse_ne_ok "a sequence" (.plain start stop ⟨w, none⟩) values)
    | object => cases hvalues
    | @list _ _ _ _ start' _ _ items' hitems =>
      obtain ⟨inner, hinner, hvalues⟩ := bind_eq_ok hvalues
      obtain ⟨read, hread, hvalues⟩ := bind_eq_ok hvalues
      obtain rfl : read = values := Except.ok.inj hvalues
      obtain ⟨inner', hinner', hsame⟩ := enter_eq_ok hdepth hinner start'
      have hread' := Keeps.mapM h hitems hsame hread
      simp only [decodeList, hinner', bind, Except.bind]
      rw [← hread']
      cases items'.mapM (decode inner') <;> rfl
  refuses {_ start stop e values} :=
    refuse_ne_ok "a sequence" (.plain start stop ⟨.error e, none⟩) values

/-! ## Structures -/

/-- A field that keeps what is read of it. -/
def SlotKeeps (x : String) (v : Option Scalar) (lost : Bool) (p : Place) (slot : Slot σ) : Prop :=
  ∀ ⦃b r r' n n' s s₁⦄, Swapped x v b p n n' → r.depth = r'.depth → slot.fill r n s = .ok s₁ →
    (slot.fill r' n' s).toOption = leftOf lost b s₁

theorem Keeps.slot {decode : Decoder α} (h : Keeps x v lost p decode) (name : String)
    (mayLack : Bool) (get : σ → Option α) (set : α → σ → σ) :
    SlotKeeps x v lost p (.of name mayLack decode get set) := by
  intro b r r' n n' s s₁ hn hdepth hs
  obtain ⟨a, ha, rfl⟩ := map_eq_ok hs
  simp only [Slot.of]
  rw [toOption_map, h.reads hn hdepth ha, leftOf_map]

mutual

/-- No id lies below a place that is for nothing in particular. -/
theorem swapped_other {b : Bool} {p : Place} {n n' : Node} (hp : p = .other) :
    Swapped x v b p n n' → b = false
  | .id _ _ => by cases hp
  | .text _ => rfl
  | .plain _ => rfl
  | .list h => swappedItems_other hp h
  | .object h => swappedMembers_other hp h

theorem swappedItems_other {b : Bool} {p : Place} {i : Nat} {items items' : List Node}
    (hp : p = .other) :
    SwappedItems x v b p i items items' → b = false
  | .nil => rfl
  | .cons h hrest => by
    have hfirst := swapped_other (by rw [hp, Place.other_nth]) h
    rw [hfirst, swappedItems_other hp hrest]
    rfl

theorem swappedMembers_other {b : Bool} {p : Place} {members members' : List (Key × Node)}
    (hp : p = .other) :
    SwappedMembers x v b p members members' → b = false
  | .nil => rfl
  | .cons _ h hrest => by
    have hfirst := swapped_other (by rw [hp, Place.other_member]) h
    rw [hfirst, swappedMembers_other hp hrest]
    rfl

end

theorem Swapped.lenientFault? {b : Bool} {n n' : Node} (h : Swapped x v b p n n') :
    n'.lenientFault? = none := by
  cases h <;> rfl

/-- A layout whose fields keep what is read of them, by name and by order. -/
structure LayoutKeeps (x : String) (v : Option Scalar) (lost : Bool) (p : Place)
    (layout : Layout σ α) : Prop where
  member : ∀ slot ∈ layout.slots, SlotKeeps x v lost (p.member (some slot.name)) slot
  unknown : ∀ name, (∀ slot ∈ layout.slots, slot.name ≠ name) → p.member (some name) = .other
  nth : ∀ i slot, layout.slots[i]? = some slot → SlotKeeps x v lost (p.nth i) slot

section Structures

variable {layout : Layout σ α} {b : Bool} {r r' : Reader} {s s₁ : σ}

theorem LayoutKeeps.fillMember (h : LayoutKeeps x v lost p layout) {key key' : Key} {n n' : Node}
    (hname : key.name.toOption = key'.name.toOption)
    (hn : Swapped x v b (p.member key.name.toOption) n n') (hdepth : r.depth = r'.depth)
    (hs : fillMember layout.slots r s (key, n) = .ok s₁) :
    (fillMember layout.slots r' s (key', n')).toOption = leftOf lost b s₁ := by
  obtain ⟨name, hlocated, hs⟩ := bind_eq_ok hs
  have hkey : key.name = .ok name := by
    rw [← toOption_eq_some ((locate_toOption _).symm.trans (congrArg Except.toOption hlocated))]
  have hkey' : key'.name = .ok name := by
    rw [hkey] at hname
    exact toOption_eq_some hname.symm
  rw [hkey] at hn
  have hlocated' : locate key'.name = .ok name := by rw [hkey']; rfl
  simp only [Json.fillMember, hlocated', bind, Except.bind]
  split at hs
  · rename_i slot hslot
    split at hs
    · cases hs
    · rename_i hfilled
      have hslotName : slot.name = name := by simpa using List.find?_some hslot
      simp only [hfilled]
      have hkeeps := h.member slot (List.mem_of_find?_eq_some hslot)
      rw [hslotName] at hkeeps
      exact hkeeps hn hdepth hs
  · rename_i hslot
    have hunknown : ∀ slot ∈ layout.slots, slot.name ≠ name := fun slot hmem => by
      simpa using List.find?_eq_none.mp hslot slot hmem
    simp only [hn.lenientFault?]
    split at hs
    · cases hs
    · obtain rfl := Except.ok.inj hs
      rw [swapped_other (h.unknown name hunknown) hn]
      rfl

theorem LayoutKeeps.foldlM (h : LayoutKeeps x v lost p layout)
    {members members' : List (Key × Node)}
    (hmembers : SwappedMembers x v b p members members') (hdepth : r.depth = r'.depth)
    (hs : members.foldlM (Json.fillMember layout.slots r) s = .ok s₁) :
    (members'.foldlM (Json.fillMember layout.slots r') s).toOption = leftOf lost b s₁ := by
  induction members generalizing b members' s with
  | nil =>
    cases hmembers
    obtain rfl := Except.ok.inj hs
    rfl
  | cons member members ih =>
    cases hmembers with
    | cons hname hn hrest =>
      rw [List.foldlM_cons] at hs ⊢
      obtain ⟨s₂, hs₂, hs⟩ := bind_eq_ok hs
      rw [toOption_bind, h.fillMember hname hn hdepth hs₂]
      exact leftOf_bind _ _ _ _ (ih hrest hs)

/-- The fields in order keep what is read of them, if nothing is left over. -/
theorem fillItems_leftOf {slots : List (Slot σ)} {i : Nat} {expected : String}
    {ending ending' : Ending} {count : Nat} (hclosed : ending'.check = .ok ())
    (h : ∀ j slot, slots[j]? = some slot → SlotKeeps x v lost (p.nth (i + j)) slot)
    {items items' : List Node} (hitems : SwappedItems x v b p i items items')
    (hdepth : r.depth = r'.depth)
    (hs : fillItems expected r ending count slots items s = .ok ([], s₁)) :
    (fillItems expected r' ending' count slots items' s).toOption = leftOf lost b ([], s₁) := by
  induction slots generalizing b i items items' count s with
  | nil =>
    cases hitems with
    | nil =>
      cases hs
      rfl
    | cons => cases hs
  | cons slot slots ih =>
    have hrest : ∀ j slot, slots[j]? = some slot → SlotKeeps x v lost (p.nth (i + 1 + j)) slot := by
      intro j slot hslot
      rw [Nat.add_right_comm, Nat.add_assoc]
      exact h (j + 1) slot hslot
    cases hitems with
    | nil =>
      simp only [fillItems] at hs ⊢
      obtain ⟨_, _, hs⟩ := bind_eq_ok hs
      rw [hclosed]
      split at hs
      · rename_i hlack
        simp only [bind, Except.bind, hlack, if_true]
        exact ih hrest .nil hs
      · cases hs
    | cons hn hitems =>
      simp only [fillItems] at hs ⊢
      obtain ⟨s₂, hs₂, hs⟩ := bind_eq_ok hs
      rw [toOption_bind, h 0 slot rfl hn hdepth hs₂]
      exact leftOf_bind _ _ _ _ (ih hrest hitems hs)

theorem LayoutKeeps.struct (h : LayoutKeeps x v lost p layout) (hp : p ≠ .id) :
    Keeps x v lost p (decodeStruct layout) where
  reads := by
    intro b r r' n n' a hn hdepth ha
    cases hn with
    | id => exact absurd rfl hp
    | @text _ start stop _ _ s =>
      exact absurd ha (refuse_ne_ok _ (.text start stop ⟨s, none⟩) a)
    | @plain _ start stop _ _ w =>
      exact absurd ha (refuse_ne_ok _ (.plain start stop ⟨w, none⟩) a)
    | @object _ _ _ _ start' stop' _ members' hmembers =>
      cases readAs_of_decodeStruct ha with
      | @object _ _ _ inner s hinner hs hbuild =>
        obtain ⟨inner', hinner', hsame⟩ := enter_eq_ok hdepth hinner start'
        rw [decodeStruct_object, hinner']
        refine (Option.bind_some _ _).trans ?_
        rw [h.foldlM hmembers hsame hs, leftOf_bind b false s a, Bool.or_false]
        rw [hbuild]
        rfl
    | @list _ _ _ _ start' stop' _ items' hitems =>
      cases readAs_of_decodeStruct ha with
      | @list _ _ _ inner expected s hinner hs hbuild =>
        obtain ⟨inner', hinner', hsame⟩ := enter_eq_ok hdepth hinner start'
        have hclosed : (Ending.closed stop').check = .ok () := rfl
        rw [decodeStruct_list expected, hinner']
        refine (Option.bind_some _ _).trans ?_
        rw [fillItems_leftOf hclosed (by simpa using h.nth) hitems hsame hs,
          leftOf_bind b false ([], s) a, Bool.or_false]
        show (layout.build s).toOption = leftOf lost false a
        rw [hbuild]
        rfl
  refuses {_ start stop e a} := refuse_ne_ok _ (.plain start stop ⟨.error e, none⟩) a

end Structures

/-! ## The feed -/

theorem metrics_keeps (hv : Tells x v lost) :
    Keeps x v lost .other (decodeStruct metricsLayout) := by
  have hcount : Keeps x v lost .other (decodeOption (decodeCount "u64")) :=
    (decodeCount_keeps "u64" (by decide)).option hv
  have hslots : ∀ slot ∈ metricsLayout.slots, SlotKeeps x v lost .other slot := by
    simp only [metricsLayout, List.forall_mem_cons]
    exact ⟨hcount.slot .., hcount.slot .., hcount.slot .., hcount.slot ..,
      List.forall_mem_nil _⟩
  refine LayoutKeeps.struct ⟨fun slot hslot => ?_, fun name _ => ?_, fun i slot hslot => ?_⟩
    (by decide)
  · rw [Place.other_member]
    exact hslots slot hslot
  · exact Place.other_member _
  · rw [Place.other_nth]
    exact hslots slot (List.mem_of_getElem? hslot)

theorem item_keeps (hv : Tells x v lost) : Keeps x v lost .item (decodeStruct itemLayout) := by
  have hid : Keeps x v lost .id (decodeOption decodeId) := (decodeId_keeps hv).option hv
  have htext : Keeps x v lost .other (decodeOption decodeText) :=
    (decodeText_keeps (by decide)).option hv
  have hmetrics : Keeps x v lost .other (decodeOption (decodeStruct metricsLayout)) :=
    (metrics_keeps hv).option hv
  have hothers : ∀ slot ∈ itemLayout.slots.tail, SlotKeeps x v lost .other slot := by
    simp only [itemLayout, List.tail_cons, List.forall_mem_cons]
    exact ⟨htext.slot .., htext.slot .., hmetrics.slot .., htext.slot .., List.forall_mem_nil _⟩
  refine LayoutKeeps.struct ⟨?_, fun name hname => ?_, fun i slot hslot => ?_⟩ (by decide)
  · simp only [itemLayout, List.forall_mem_cons]
    exact ⟨hid.slot .., htext.slot .., htext.slot .., hmetrics.slot .., htext.slot ..,
      List.forall_mem_nil _⟩
  · exact Place.item_member fun he => hname _ (.head _) he.symm
  · cases i with
    | zero =>
      obtain rfl := Option.some.inj hslot
      exact hid.slot ..
    | succ i => exact hothers slot (List.mem_of_getElem? hslot)

theorem feed_keeps (hv : Tells x v lost) : Keeps x v lost .feed (decodeStruct feedLayout) := by
  have hcontents : Keeps x v lost .contents (decodeList (decodeStruct itemLayout)) :=
    .list (fun _ => item_keeps hv) (by decide)
  refine LayoutKeeps.struct ⟨?_, fun name hname => ?_, fun i slot hslot => ?_⟩ (by decide)
  · simp only [feedLayout, List.forall_mem_singleton]
    exact hcontents.slot ..
  · exact Place.feed_member fun he => hname _ (.head _) he.symm
  · cases i with
    | zero =>
      obtain rfl := Option.some.inj hslot
      exact hcontents.slot ..
    | succ i => cases hslot

end Values

/-! ## Records -/

/-- What a whole number in place of an id tells. -/
theorem tells_ofInt (n : Int) :
    Tells (toString n) ((Figure.ofInt n).numeral.value?.map Scalar.number)
      (!Number.fitsSigned n) where
  id := by
    rw [idForm?_ofInt]
    cases Number.fitsSigned n <;> rfl
  notNull := by
    cases (Figure.ofInt n).numeral.value? with
    | none => exact nofun
    | some m => exact nofun

theorem jsonItems_swapped {before behind : List Char} (hbefore : IdComesAfter before) {q : Quote}
    {n : Int} (hq : q.content? = some (toString n)) {its : List Item}
    (h : jsonItems (String.ofList (before ++ (q.chars ++ behind))) = .ok its) :
    (jsonItems (String.ofList (before ++ ((toString n).toList ++ behind)))).toOption =
      leftOf (!Number.fitsSigned n) true its := by
  obtain ⟨root, hrun, hread⟩ := (decode_struct_iff _).mp h
  rw [String.toList_ofList] at hrun
  obtain ⟨root', hrun', hroot⟩ := exists_swapped hbefore hq (f := .ofInt n) rfl hrun
  rw [Figure.chars_ofInt, ← String.toList_ofList (l := _ ++ _)] at hrun'
  rw [jsonItems, decode_toOption hrun']
  refine (feed_keeps (tells_ofInt n)).reads hroot ?_ hread
  rfl

/-- Where a feed has a text of digits as the id of an item, it may have the number as well: the same
records are read as long as it is a signed number of 64 bits, and none with any other number. -/
theorem an_id_may_be_written_as_a_number {before behind : String} {q : Quote} {n : Int}
    (hbefore : IdComesAfter before.toList) (hq : q.content? = some (toString n))
    {provider : String} {kind : Option Kind} {fetchedAt : Time.Moment} {rs : List Record}
    (h : records .json provider (before ++ String.ofList q.chars ++ behind) kind fetchedAt =
      .ok rs) :
    (records .json provider (before ++ toString n ++ behind) kind fetchedAt).toOption =
      if Number.fitsSigned n then some rs else none := by
  have hquoted : before ++ String.ofList q.chars ++ behind =
      String.ofList (before.toList ++ (q.chars ++ behind.toList)) := by
    rw [← String.toList_inj]
    simp
  have hnumber : before ++ toString n ++ behind =
      String.ofList (before.toList ++ ((toString n).toList ++ behind.toList)) := by
    rw [← String.toList_inj]
    simp
  obtain ⟨its, hitems, rfl⟩ := map_eq_ok h
  rw [hquoted] at hitems
  rw [hnumber, records, toOption_map, items, toOption_mapError,
    jsonItems_swapped hbefore hq (mapError_eq_ok hitems), leftOf_map]
  cases Number.fitsSigned n <;> rfl

/-- The front of a feed up to the id of its first item. -/
def feedFront : String := "\x7b\"contents\":[\x7b\"title\":\"T\",\"id\":"

def feedEnd : String := "\x7d]\x7d"

/-- The smallest signed number of 64 bits may be an id in both notations. -/
theorem the_smallest_id_may_be_a_number :
    IdComesAfter feedFront.toList ∧
    (Quote.ofPlain "-9223372036854775808" (by decide)).content? =
      some (toString (-9223372036854775808 : Int)) ∧
    records .json "p" (feedFront ++ "\"-9223372036854775808\"" ++ feedEnd) none ⟨0, 0⟩ =
      .ok [.unseen "p" "p_-9223372036854775808" "T"] ∧
    (records .json "p" (feedFront ++ "-9223372036854775808" ++ feedEnd) none ⟨0, 0⟩).toOption =
      some [.unseen "p" "p_-9223372036854775808" "T"] := by
  have hplace : IdComesAfter feedFront.toList := by decide +kernel
  have hid : (Quote.ofPlain "-9223372036854775808" (by decide)).content? =
      some (toString (-9223372036854775808 : Int)) := by decide +kernel
  have hquoted : records .json "p" (feedFront ++ "\"-9223372036854775808\"" ++ feedEnd) none
      ⟨0, 0⟩ = .ok [.unseen "p" "p_-9223372036854775808" "T"] := by decide +kernel
  have hnumber := an_id_may_be_written_as_a_number hplace hid hquoted
  exact ⟨hplace, hid, hquoted, hnumber⟩

/-- The number after the largest signed one of 64 bits loses the feed, as a text it is an id. -/
theorem a_larger_number_loses_its_feed :
    IdComesAfter feedFront.toList ∧
    (Quote.ofPlain "9223372036854775808" (by decide)).content? =
      some (toString (9223372036854775808 : Int)) ∧
    (-2 ^ 63 : Int) ≤ 9223372036854775808 ∧ (9223372036854775808 : Int) < 2 ^ 64 ∧
    records .json "p" (feedFront ++ "\"9223372036854775808\"" ++ feedEnd) none ⟨0, 0⟩ =
      .ok [.unseen "p" "p_9223372036854775808" "T"] ∧
    (records .json "p" (feedFront ++ "9223372036854775808" ++ feedEnd) none ⟨0, 0⟩).toOption =
      none := by
  refine ⟨?_, ?_, ?_, ?_, ?_, ?_⟩ <;> decide +kernel

end Feed

end FeedSearch
