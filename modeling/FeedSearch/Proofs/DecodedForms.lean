-- What decoders make of forms. They tell nodes apart by what the nodes show, not by
-- where they stand, and some differences they do not see: whether a member that may
-- be null is null or is left out, for one.
import FeedSearch.Json.Decode
import FeedSearch.Proofs.JsonTrees

namespace FeedSearch.Json

variable {α β σ τ : Type}

/-! ## Decoders that do not see a difference -/

/-- A decoder sees no difference between forms in a relation: it refuses the nodes that show them
both, or what it reads looks alike. A value that cannot be read it refuses. -/
structure Blind (decode : Decoder α) (look : α → β) (T : Form → Form → Prop) : Prop where
  alike : ∀ {f f' : Form} {r r' : Reader} {n n' : Node}, T f f' → f.NoRepeats →
    r.depth = r'.depth → Shows f n → Shows f' n' → Alike look (decode r n) (decode r' n')
  refuses : ∀ {r : Reader} {start stop : Nat} {e : Fault},
    (decode r (.plain start stop ⟨.error e, none⟩)).toOption = none

theorem Blind.mono {decode : Decoder α} {look : α → β} {T T' : Form → Form → Prop}
    (h : Blind decode look T) (hT : ∀ {f f'}, T' f f' → T f f') : Blind decode look T' where
  alike h' := h.alike (hT h')
  refuses := h.refuses

theorem refuse_toOption (expected : String) (n : Node) :
    (refuse expected n : Except Failure α).toOption = none := by
  cases n with
  | text start stop s =>
    obtain ⟨strict, lenient⟩ := s
    cases strict <;> rfl
  | plain start stop v =>
    obtain ⟨strict, lenient⟩ := v
    cases strict <;> rfl
  | list start items ending => rfl
  | object start members ending => rfl
  | absent b => rfl

theorem locate_toOption (x : Except Fault α) : (locate x).toOption = x.toOption := by
  cases x <;> rfl

theorem settle_toOption (leave : Nat → Nat) (x : Except Failure α) :
    (settle leave x).toOption = x.toOption := by
  cases x with
  | error e => cases e <;> rfl
  | ok a => rfl

theorem float_toOption (offset : Nat) (x : Except Shape.Mismatch α) :
    (float offset x).toOption = x.toOption := by
  cases x <;> rfl

/-- Where a mismatch is found does not matter. -/
theorem alike_settle {look : α → β} {x x' : Except Failure α} (h : Alike look x x')
    (leave leave' : Nat → Nat) : Alike look (settle leave x) (settle leave' x') := by
  unfold Alike
  rw [settle_toOption, settle_toOption]
  exact h

theorem alike_float {look : α → β} {x x' : Except Shape.Mismatch α} (h : Alike look x x')
    (offset offset' : Nat) : Alike look (float offset x) (float offset' x') := by
  unfold Alike
  rw [float_toOption, float_toOption]
  exact h

/-- Inside two lists or objects, readers have the same way to go, if there is any. -/
theorem alike_enter {r r' : Reader} (hdepth : r.depth = r'.depth) (start start' : Nat) :
    Alike Reader.depth (r.enter start) (r'.enter start') := by
  unfold Alike Reader.enter
  rw [← hdepth]
  cases r.depth <;> rfl

/-! ## Values without parts -/

/-- What a decoder reads is told by the form alone. -/
theorem Blind.of_read {decode : Decoder α} {read? : Form → Option α}
    (h : ∀ {f : Form} (r : Reader) {n : Node}, Shows f n → (decode r n).toOption = read? f)
    (hunread : read? (.plain none) = none) : Blind decode id Eq where
  alike := by
    rintro f _ r r' n n' rfl _ _ hn hn'
    unfold Alike
    rw [h r hn, h r' hn']
  refuses := (h _ (.plain rfl)).trans hunread

/-- The text that a form is. -/
def Form.text? : Form → Option String
  | .text s => s
  | _ => none

theorem decodeText_toOption {f : Form} (r : Reader) {n : Node} (h : Shows f n) :
    (decodeText r n).toOption = f.text? := by
  cases h with
  | text h => exact (locate_toOption _).trans h
  | @plain _ start stop strict _ =>
    exact refuse_toOption "a string" (.plain start stop ⟨strict, none⟩)
  | list _ => rfl
  | object _ => rfl

theorem blind_decodeText : Blind decodeText id Eq := .of_read decodeText_toOption rfl

/-- The count of 64 bits that a form is. -/
def Form.count? : Form → Option Nat
  | .plain (some (.number (.count n))) => if n ≤ Number.maxCount then some n else none
  | _ => none

theorem decodeCount_toOption (expected : String) {f : Form} (r : Reader) {n : Node}
    (h : Shows f n) : (decodeCount expected r n).toOption = f.count? := by
  cases h with
  | @text _ start stop strict _ => exact refuse_toOption expected (.text start stop ⟨strict, none⟩)
  | @plain v start stop strict h =>
    subst h
    cases strict with
    | error e => rfl
    | ok v =>
      cases v with
      | null => rfl
      | truth b => rfl
      | number m =>
        cases m with
        | count n =>
          show (if n ≤ Number.maxCount then Except.ok n else _).toOption =
            if n ≤ Number.maxCount then some n else none
          split <;> rfl
        | negative n => rfl
        | float bits => rfl
  | list _ => rfl
  | object _ => rfl

theorem blind_decodeCount (expected : String) : Blind (decodeCount expected) id Eq :=
  .of_read (decodeCount_toOption expected) rfl

/-! ## Options -/

section Options

variable {decode : Decoder α} {look : α → β} {T : Form → Form → Prop}

/-- A value that is no null is read, or refused, as if there were no option. -/
theorem decodeOption_toOption (h : Blind decode look T) {f : Form} (r : Reader) {n : Node}
    (hn : Shows f n) : (decodeOption decode r n).toOption =
      if f.isNull then some none else (decode r n).toOption.map some := by
  cases hn with
  | text _ => exact toOption_map _ _
  | @plain v start stop strict hv =>
    subst hv
    cases strict with
    | error e =>
      have hrefused : (decode r (.plain start stop ⟨.error e, none⟩)).toOption = none := h.refuses
      simp only [decodeOption]
      split
      · rw [hrefused]
        rfl
      · rw [toOption_map]
        rfl
    | ok v =>
      cases v with
      | null => rfl
      | truth b => exact toOption_map _ _
      | number m => exact toOption_map _ _
  | list _ => exact toOption_map _ _
  | object _ => exact toOption_map _ _

theorem Blind.option (h : Blind decode look T) (hnull : ∀ {f f'}, T f f' → f'.isNull = f.isNull) :
    Blind (decodeOption decode) (Option.map look) T where
  alike := by
    intro f f' r r' n n' hT hno hdepth hn hn'
    have halike : Alike (Option.map look) ((decode r n).map some) ((decode r' n').map some) :=
      (h.alike hT hno hdepth hn hn').map fun a a' hlook => congrArg some hlook
    unfold Alike at halike ⊢
    rw [decodeOption_toOption h r hn, decodeOption_toOption h r' hn', hnull hT]
    split
    · rfl
    · rw [toOption_map, toOption_map] at halike
      exact halike
  refuses := by
    intro r start stop e
    rw [decodeOption_toOption h r (.plain rfl : Shows (.plain none) _), h.refuses]
    rfl

end Options

/-! ## Lists -/

/-- The items of a list, each in a relation to its own. -/
inductive EachItem (T : Form → Form → Prop) : Form → Form → Prop where
  | same (f : Form) : EachItem T f f
  | list {items items' : List Form} (h : List.Forall₂ T items items') :
      EachItem T (.list items) (.list items')

section Lists

variable {decode : Decoder α} {look : α → β} {T : Form → Form → Prop}

theorem Blind.mapM (h : Blind decode look T) {items items' : List Form}
    (hT : List.Forall₂ T items items') (hno : ∀ f ∈ items, f.NoRepeats) {r r' : Reader}
    (hdepth : r.depth = r'.depth) {nodes nodes' : List Node}
    (hn : List.Forall₂ Shows items nodes) (hn' : List.Forall₂ Shows items' nodes') :
    Alike (List.map look) (nodes.mapM (decode r)) (nodes'.mapM (decode r')) := by
  induction hT generalizing nodes nodes' with
  | nil =>
    cases hn
    cases hn'
    exact .ok rfl
  | cons hf _ ih =>
    cases hn with
    | cons hnode hn =>
      cases hn' with
      | cons hnode' hn' =>
        obtain ⟨hnof, hno⟩ := List.forall_mem_cons.mp hno
        rw [List.mapM_cons, List.mapM_cons]
        refine (h.alike hf hnof hdepth hnode hnode').bind fun a a' _ _ hlook => ?_
        refine (ih hno hn hn').bind fun as as' _ _ hlooks => ?_
        exact .ok (List.cons_eq_cons.mpr ⟨hlook, hlooks⟩)

theorem decodeList_refuses {f : Form} {r : Reader} {n : Node} (hn : Shows f n)
    (hf : ∀ items, f ≠ .list items) : (decodeList decode r n).toOption = none := by
  cases hn with
  | @text _ start stop strict _ =>
    exact refuse_toOption "a sequence" (.text start stop ⟨strict, none⟩)
  | @plain _ start stop strict _ =>
    exact refuse_toOption "a sequence" (.plain start stop ⟨strict, none⟩)
  | list _ => exact absurd rfl (hf _)
  | object _ => rfl

theorem EachItem.cases {f f' : Form} (h : EachItem T f f') (hsame : ∀ f, T f f) :
    (∃ items items', f = .list items ∧ f' = .list items' ∧ List.Forall₂ T items items') ∨
      (f' = f ∧ ∀ items, f ≠ .list items) := by
  cases h with
  | same =>
    cases f with
    | list items => exact Or.inl ⟨items, items, rfl, rfl, List.forall₂_same.mpr fun f _ => hsame f⟩
    | plain _ => exact Or.inr ⟨rfl, nofun⟩
    | text _ => exact Or.inr ⟨rfl, nofun⟩
    | object _ => exact Or.inr ⟨rfl, nofun⟩
  | list h => exact Or.inl ⟨_, _, rfl, rfl, h⟩

theorem Blind.list (h : Blind decode look T) (hsame : ∀ f, T f f) :
    Blind (decodeList decode) (List.map look) (EachItem T) where
  alike := by
    intro f f' r r' n n' hT hno hdepth hn hn'
    obtain ⟨items, items', rfl, rfl, hitems⟩ | ⟨rfl, hf⟩ := hT.cases hsame
    · cases hno with
      | list hno =>
        cases hn with
        | list hnodes =>
          cases hn' with
          | list hnodes' =>
            refine (alike_enter hdepth _ _).bind fun inner inner' _ _ hinner => ?_
            refine (h.mapM hitems hno hinner hnodes hnodes').bind fun values values' _ _ hlook => ?_
            exact .ok hlook
    · exact .of_none (decodeList_refuses hn hf) (decodeList_refuses hn' hf)
  refuses := by
    intro r start stop e
    exact refuse_toOption "a sequence" (.plain start stop ⟨.error e, none⟩)

end Lists

/-! ## Structures -/

/-- Some members are left out: each of them is null, under a name that may lack. The others are in
a relation that their names say. -/
inductive ThinMembers (lacks : String → Prop) (G : String → Form → Form → Prop) :
    List (String × Form) → List (String × Form) → Prop where
  | nil : ThinMembers lacks G [] []
  | keep {name : String} {f f' : Form} {ms ms' : List (String × Form)} (h : G name f f')
      (hrest : ThinMembers lacks G ms ms') :
      ThinMembers lacks G ((name, f) :: ms) ((name, f') :: ms')
  | drop {name : String} {ms ms' : List (String × Form)} (h : lacks name)
      (hrest : ThinMembers lacks G ms ms') : ThinMembers lacks G ((name, .null) :: ms) ms'

/-- A form that is another one with thinner members, or the same. -/
inductive Thin (lacks : String → Prop) (G : String → Form → Form → Prop) : Form → Form → Prop where
  | same (f : Form) : Thin lacks G f f
  | object {ms ms' : List (String × Form)} (h : ThinMembers lacks G ms ms') :
      Thin lacks G (.object ms) (.object ms')

section Structures

/-- Filling a field does not see a difference between forms in a relation, and leaves a structure
in which no other field looks different. -/
def Slot.Blind (slot : Slot σ) (seen : σ → τ) (T : Form → Form → Prop) : Prop :=
  ∀ {f f' : Form} {r r' : Reader} {n n' : Node} {s s' : σ}, T f f' → f.NoRepeats →
    r.depth = r'.depth → Shows f n → Shows f' n' → seen s = seen s' →
      Alike seen (slot.fill r n s) (slot.fill r' n' s')

/-- A layout whose structures look the same whether a member is null or lacks, if it may lack at
all. -/
structure Layout.Tolerates (layout : Layout σ α) (seen : σ → τ) (look : α → β)
    (lacks : String → Prop) (G : String → Form → Form → Prop) : Prop where
  same : ∀ name f, G name f f
  fill : ∀ slot ∈ layout.slots, slot.Blind seen (G slot.name)
  null : ∀ slot ∈ layout.slots, lacks slot.name → ∀ r n s, Shows .null n →
    slot.isFilled s = false → ∃ s₁, slot.fill r n s = .ok s₁ ∧ seen s₁ = seen s
  apart : ∀ slot ∈ layout.slots, ∀ other ∈ layout.slots, other.name ≠ slot.name →
    ∀ r n s s₁, slot.fill r n s = .ok s₁ → other.isFilled s₁ = other.isFilled s
  fresh : ∀ slot ∈ layout.slots, slot.isFilled layout.empty = false
  build : ∀ s s', seen s = seen s' → Alike look (layout.build s) (layout.build s')

variable {slots : List (Slot σ)} {slot : Slot σ} {name : String} {r : Reader} {s : σ}

theorem fillMember_known {start stop : Nat} {n : Node}
    (hfind : slots.find? (·.name == name) = some slot) (hfresh : slot.isFilled s = false) :
    fillMember slots r s (⟨start, stop, .ok name⟩, n) = slot.fill r n s := by
  have hname : locate (.ok name) = .ok name := rfl
  simp only [fillMember, hname, Except.bind, bind, hfind, hfresh, Bool.false_eq_true, if_false]

theorem fillMember_unknown {start stop : Nat} {n : Node}
    (hfind : slots.find? (·.name == name) = none) (hn : n.lenientFault? = none) :
    fillMember slots r s (⟨start, stop, .ok name⟩, n) = .ok s := by
  have hname : locate (.ok name) = .ok name := rfl
  simp only [fillMember, hname, Except.bind, bind, hfind, hn]

variable {layout : Layout σ α} {seen : σ → τ} {look : α → β} {lacks : String → Prop}
  {G : String → Form → Form → Prop}

/-- Members of unknown names leave a structure as it is. -/
theorem foldlM_unknown {ms : List (String × Form)} {nodes : List (Key × Node)}
    (hn : List.Forall₂ ShowsMember ms nodes)
    (hunknown : ∀ m ∈ ms, ∀ slot ∈ slots, slot.name ≠ m.1) :
    nodes.foldlM (fillMember slots r) s = .ok s := by
  induction hn with
  | nil => rfl
  | cons hm _ ih =>
    obtain ⟨hfirst, hrest⟩ := List.forall_mem_cons.mp hunknown
    cases hm with
    | mk hnode =>
      have hfind : slots.find? (·.name == _) = none :=
        List.find?_eq_none.mpr fun slot hslot => by simpa using hfirst slot hslot
      rw [List.foldlM_cons, fillMember_unknown hfind hnode.lenientFault?]
      exact ih hrest

theorem decodeStruct_object (start stop : Nat) (nodes : List (Key × Node)) :
    (decodeStruct layout r (.object start nodes (.closed stop))).toOption =
      (r.enter start).toOption.bind fun inner =>
        (nodes.foldlM (fillMember layout.slots inner) layout.empty).toOption.bind fun s =>
          (layout.build s).toOption := by
  show (r.enter start >>= fun inner =>
    settle _ (_ >>= fun s => float _ (layout.build s))).toOption = _
  rw [toOption_bind]
  congr 1
  funext inner
  rw [settle_toOption, toOption_bind]
  congr 1
  funext s
  exact float_toOption _ _

/-- What is expected only shows in what is said of a list that is too short. -/
theorem fillItems_toOption (expected expected' : String) {ending : Ending} (count : Nat)
    (slots : List (Slot σ)) (entries : List Node) (s : σ) :
    (fillItems expected r ending count slots entries s).toOption =
      (fillItems expected' r ending count slots entries s).toOption := by
  induction slots generalizing count entries s with
  | nil => cases entries <;> rfl
  | cons slot slots ih =>
    cases entries with
    | nil =>
      simp only [fillItems, toOption_bind]
      congr 1
      funext _
      split
      · exact ih (count + 1) [] s
      · rfl
    | cons n entries =>
      simp only [fillItems, toOption_bind]
      congr 1
      funext s₁
      exact ih (count + 1) entries s₁

theorem decodeStruct_list (expected : String) (start : Nat) (entries : List Node)
    (ending : Ending) :
    (decodeStruct layout r (.list start entries ending)).toOption =
      (r.enter start).toOption.bind fun inner =>
        (fillItems expected inner ending 0 layout.slots entries layout.empty).toOption.bind
          fun read => (endOfItems read.1 ending).toOption.bind fun _ =>
            (layout.build read.2).toOption := by
  show (r.enter start >>= fun inner => settle _ (fillItems _ inner ending 0 _ entries _ >>=
    fun read => endOfItems read.1 ending >>= fun _ => float _ (layout.build read.2))).toOption = _
  simp only [toOption_bind, settle_toOption, float_toOption]
  congr 1
  funext inner
  rw [fillItems_toOption _ expected]

/-- No entry of a list may be left over. -/
theorem endOfItems_cons (n : Node) (left : List Node) (ending : Ending) :
    (endOfItems (n :: left) ending).toOption = none := by
  cases n with
  | absent b =>
    unfold endOfItems
    simp only
    split <;> rfl
  | _ => rfl

theorem exists_slot (hfind : slots.find? (·.name == name) = some slot) :
    slot ∈ slots ∧ slot.name = name :=
  ⟨List.mem_of_find?_eq_some hfind, by simpa using List.find?_some hfind⟩

/-- No field of these names has been filled. -/
def Open (slots : List (Slot σ)) (names : List String) (s : σ) : Prop :=
  ∀ slot ∈ slots, slot.name ∈ names → slot.isFilled s = false

theorem Open.rest {names : List String} (h : Open slots (name :: names) s) : Open slots names s :=
  fun slot hslot hmem => h slot hslot (List.mem_cons_of_mem _ hmem)

namespace Layout.Tolerates

variable {names : List String} {f f' : Form} {r' : Reader} {n n' : Node} {s' s₁ : σ}
  {start stop start' stop' : Nat}

/-- A member leaves the fields of other names as they are. -/
theorem leaves_open (h : layout.Tolerates seen look lacks G)
    (hopen : Open layout.slots (name :: names) s) (hname : name ∉ names) (hn : Shows f n)
    (hfill : fillMember layout.slots r s (⟨start, stop, .ok name⟩, n) = .ok s₁) :
    Open layout.slots names s₁ := by
  intro other hother hmem
  have hclosed : other.isFilled s = false := hopen.rest other hother hmem
  cases hfind : layout.slots.find? (·.name == name) with
  | none =>
    rw [fillMember_unknown hfind hn.lenientFault?] at hfill
    obtain rfl := Except.ok.inj hfill
    exact hclosed
  | some slot =>
    obtain ⟨hslot, rfl⟩ := exists_slot hfind
    rw [fillMember_known hfind (hopen slot hslot List.mem_cons_self)] at hfill
    have hne : other.name ≠ slot.name := fun he => hname (he ▸ hmem)
    rw [h.apart slot hslot other hother hne r n s s₁ hfill, hclosed]

/-- A member that is kept does to both structures what looks the same. -/
theorem fillMember_alike (h : layout.Tolerates seen look lacks G) (hG : G name f f')
    (hno : f.NoRepeats) (hdepth : r.depth = r'.depth) (hn : Shows f n) (hn' : Shows f' n')
    (hs : seen s = seen s') (hopen : Open layout.slots (name :: names) s)
    (hopen' : Open layout.slots (name :: names) s') :
    Alike seen (fillMember layout.slots r s (⟨start, stop, .ok name⟩, n))
      (fillMember layout.slots r' s' (⟨start', stop', .ok name⟩, n')) := by
  cases hfind : layout.slots.find? (·.name == name) with
  | none =>
    rw [fillMember_unknown hfind hn.lenientFault?, fillMember_unknown hfind hn'.lenientFault?]
    exact .ok hs
  | some slot =>
    obtain ⟨hslot, rfl⟩ := exists_slot hfind
    rw [fillMember_known hfind (hopen slot hslot List.mem_cons_self),
      fillMember_known hfind (hopen' slot hslot List.mem_cons_self)]
    exact h.fill slot hslot hG hno hdepth hn hn' hs

/-- A member that is null under a name that may lack changes nothing that is seen. -/
theorem fillMember_null (h : layout.Tolerates seen look lacks G) (hlacks : lacks name)
    (hn : Shows .null n) (hopen : Open layout.slots (name :: names) s) :
    ∃ s₁, fillMember layout.slots r s (⟨start, stop, .ok name⟩, n) = .ok s₁ ∧ seen s₁ = seen s := by
  cases hfind : layout.slots.find? (·.name == name) with
  | none => exact ⟨s, fillMember_unknown hfind hn.lenientFault?, rfl⟩
  | some slot =>
    obtain ⟨hslot, rfl⟩ := exists_slot hfind
    have hfresh := hopen slot hslot List.mem_cons_self
    rw [fillMember_known hfind hfresh]
    exact h.null slot hslot hlacks r n s hn hfresh

/-- Filling a structure from members, or without some of them, gives structures that look the
same. -/
theorem foldlM_alike (h : layout.Tolerates seen look lacks G) {ms ms' : List (String × Form)}
    (hthin : ThinMembers lacks G ms ms') (hnames : (ms.map (·.1)).Nodup)
    (hno : ∀ m ∈ ms, m.2.NoRepeats) (hdepth : r.depth = r'.depth)
    {nodes nodes' : List (Key × Node)} (hn : List.Forall₂ ShowsMember ms nodes)
    (hn' : List.Forall₂ ShowsMember ms' nodes') (hs : seen s = seen s')
    (hopen : Open layout.slots (ms.map (·.1)) s) (hopen' : Open layout.slots (ms.map (·.1)) s') :
    Alike seen (nodes.foldlM (fillMember layout.slots r) s)
      (nodes'.foldlM (fillMember layout.slots r') s') := by
  induction hthin generalizing nodes nodes' s s' with
  | nil =>
    cases hn
    cases hn'
    exact .ok hs
  | keep hG hthin ih =>
    obtain ⟨hname, hnames⟩ := List.nodup_cons.mp hnames
    obtain ⟨hnof, hno⟩ := List.forall_mem_cons.mp hno
    cases hn with
    | cons hm hn =>
      cases hn' with
      | cons hm' hn' =>
        cases hm with
        | mk hnode =>
          cases hm' with
          | mk hnode' =>
            rw [List.foldlM_cons, List.foldlM_cons]
            refine (h.fillMember_alike hG hnof hdepth hnode hnode' hs hopen hopen').bind
              fun s₁ s₁' hs₁ hs₁' hlook => ?_
            exact ih hnames hno hn hn' hlook (h.leaves_open hopen hname hnode hs₁)
              (h.leaves_open hopen' hname hnode' hs₁')
  | drop hlacks hthin ih =>
    obtain ⟨hname, hnames⟩ := List.nodup_cons.mp hnames
    obtain ⟨_, hno⟩ := List.forall_mem_cons.mp hno
    cases hn with
    | cons hm hn =>
      cases hm with
      | mk hnode =>
        obtain ⟨s₁, hs₁, hlook⟩ := h.fillMember_null hlacks hnode hopen
        rw [List.foldlM_cons, hs₁]
        exact ih hnames hno hn hn' (hlook.trans hs) (h.leaves_open hopen hname hnode hs₁)
          hopen'.rest

/-- Filling a structure in the order of its fields does not depend on where the items stand. -/
theorem fillItems_alike (h : layout.Tolerates seen look lacks G) (expected : String)
    (hdepth : r.depth = r'.depth) {slots : List (Slot σ)} (hslots : slots ⊆ layout.slots)
    {items : List Form} (hno : ∀ f ∈ items, f.NoRepeats) {nodes nodes' : List Node}
    (hn : List.Forall₂ Shows items nodes) (hn' : List.Forall₂ Shows items nodes')
    (hs : seen s = seen s') (count stop stop' : Nat) :
    Alike (fun read => (read.1.isEmpty, seen read.2))
      (fillItems expected r (.closed stop) count slots nodes s)
      (fillItems expected r' (.closed stop') count slots nodes' s') := by
  induction slots generalizing items nodes nodes' s s' count with
  | nil =>
    have hempty : nodes.isEmpty = nodes'.isEmpty := by
      cases hn with
      | nil => cases hn'; rfl
      | cons _ _ => cases hn'; rfl
    exact .ok (Prod.ext hempty hs)
  | cons slot slots ih =>
    obtain ⟨hslot, hslots⟩ := List.cons_subset.mp hslots
    cases hn with
    | nil =>
      cases hn'
      show Alike _ (if slot.mayLack then _ else _) (if slot.mayLack then _ else _)
      split
      · exact ih hslots hno .nil .nil hs (count + 1)
      · exact .of_none rfl rfl
    | cons hnode hn =>
      cases hn' with
      | cons hnode' hn' =>
        obtain ⟨hnof, hno⟩ := List.forall_mem_cons.mp hno
        have hfill := h.fill slot hslot (h.same slot.name _) hnof hdepth hnode hnode' hs
        exact hfill.bind fun s₁ s₁' _ _ hlook => ih hslots hno hn hn' hlook (count + 1)

end Layout.Tolerates

theorem ThinMembers.refl (h : ∀ name f, G name f f) (ms : List (String × Form)) :
    ThinMembers lacks G ms ms := by
  induction ms with
  | nil => exact .nil
  | cons m ms ih => exact .keep (h m.1 m.2) ih

theorem Thin.isNull {f f' : Form} (h : Thin lacks G f f') : f'.isNull = f.isNull := by
  cases h <;> rfl

theorem decodeStruct_refuses {f : Form} {n : Node} (hn : Shows f n)
    (hlist : ∀ items, f ≠ .list items) (hobject : ∀ ms, f ≠ .object ms) :
    (decodeStruct layout r n).toOption = none := by
  cases hn with
  | @text _ start stop strict _ => exact refuse_toOption _ (.text start stop ⟨strict, none⟩)
  | @plain _ start stop strict _ => exact refuse_toOption _ (.plain start stop ⟨strict, none⟩)
  | list _ => exact absurd rfl (hlist _)
  | object _ => exact absurd rfl (hobject _)

namespace Layout.Tolerates

theorem object_alike (h : layout.Tolerates seen look lacks G) {ms ms' : List (String × Form)}
    (hthin : ThinMembers lacks G ms ms') (hno : (Form.object ms).NoRepeats) {r' : Reader}
    (hdepth : r.depth = r'.depth) {n n' : Node} (hn : Shows (.object ms) n)
    (hn' : Shows (.object ms') n') :
    Alike look (decodeStruct layout r n) (decodeStruct layout r' n') := by
  have hopen : Open layout.slots (ms.map (·.1)) layout.empty := fun slot hslot _ =>
    h.fresh slot hslot
  cases hno with
  | object hnames hno =>
    cases hn with
    | object hnodes =>
      cases hn' with
      | object hnodes' =>
        refine (alike_enter hdepth _ _).bind fun inner inner' _ _ hinner => ?_
        refine alike_settle ?_ _ _
        refine (h.foldlM_alike hthin hnames hno hinner hnodes hnodes' rfl hopen hopen).bind
          fun s s' _ _ hlook => ?_
        exact alike_float (h.build s s' hlook) _ _

theorem endOfItems_alike {left left' : List Node} (hleft : left.isEmpty = left'.isEmpty)
    (stop stop' : Nat) :
    Alike id (endOfItems left (.closed stop)) (endOfItems left' (.closed stop')) := by
  cases left with
  | nil =>
    cases left' with
    | nil => exact .ok rfl
    | cons _ _ => cases hleft
  | cons _ _ =>
    cases left' with
    | nil => cases hleft
    | cons _ _ => exact .of_none (endOfItems_cons _ _ _) (endOfItems_cons _ _ _)

theorem list_alike (h : layout.Tolerates seen look lacks G) {items : List Form}
    (hno : (Form.list items).NoRepeats) {r' : Reader} (hdepth : r.depth = r'.depth) {n n' : Node}
    (hn : Shows (.list items) n) (hn' : Shows (.list items) n') :
    Alike look (decodeStruct layout r n) (decodeStruct layout r' n') := by
  cases hno with
  | list hno =>
    cases hn with
    | list hnodes =>
      cases hn' with
      | list hnodes' =>
        refine (alike_enter hdepth _ _).bind fun inner inner' _ _ hinner => ?_
        refine alike_settle ?_ _ _
        refine (h.fillItems_alike _ hinner (List.Subset.refl _) hno hnodes hnodes' rfl 0 _ _).bind
          fun read read' _ _ hlook => ?_
        obtain ⟨left, s⟩ := read
        obtain ⟨left', s'⟩ := read'
        obtain ⟨hleft, hseen⟩ := Prod.ext_iff.mp hlook
        refine (endOfItems_alike hleft _ _).bind fun _ _ _ _ _ => ?_
        exact alike_float (h.build s s' hseen) _ _

/-- What is read of a structure looks the same whether a member that may lack is null or lacks. -/
theorem blind (h : layout.Tolerates seen look lacks G) :
    Blind (decodeStruct layout) look (Thin lacks G) where
  alike := by
    intro f f' r r' n n' hT hno hdepth hn hn'
    cases hT with
    | same =>
      cases f with
      | object ms => exact h.object_alike (.refl h.same ms) hno hdepth hn hn'
      | list items => exact h.list_alike hno hdepth hn hn'
      | plain v =>
        exact .of_none (decodeStruct_refuses hn nofun nofun) (decodeStruct_refuses hn' nofun nofun)
      | text s =>
        exact .of_none (decodeStruct_refuses hn nofun nofun) (decodeStruct_refuses hn' nofun nofun)
    | object hthin => exact h.object_alike hthin hno hdepth hn hn'
  refuses := by
    intro r start stop e
    exact refuse_toOption _ (.plain start stop ⟨.error e, none⟩)

end Layout.Tolerates

end Structures

end FeedSearch.Json
