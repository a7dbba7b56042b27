-- Null in a JSON feed. A member of the feed, of an item or of its metrics that is null
-- says what a member that is missing says, with one exception: a feed whose list of
-- items is null is refused, while a feed without the list is an empty one.
import FeedSearch.Feed.Payload
import FeedSearch.Proofs.FormsWithoutNulls

namespace FeedSearch.Feed

open Json

/-! ## Ids -/

/-- The id that a form is. -/
def idForm? : Form → Option String
  | .text s => s
  | .plain (some (.number (.count n))) => if n < Number.signSize then some (toString n) else none
  | .plain (some (.number (.negative n))) => some (toString n)
  | _ => none

theorem decodeId_toOption {f : Form} (r : Reader) {n : Node} (h : Shows f n) :
    (decodeId r n).toOption = idForm? f := by
  have hparts : ∀ n : Node, idOf? n = none → (decodeId r n).toOption = none := by
    intro n hn
    unfold decodeId decodeAny
    rw [hn]
    split <;> rfl
  cases h with
  | @text s start stop strict h =>
    subst h
    cases strict <;> rfl
  | @plain v start stop strict h =>
    subst h
    cases strict with
    | error e => rfl
    | ok v =>
      cases v with
      | null => rfl
      | truth b => rfl
      | number m =>
        cases m with
        | count n =>
          by_cases hn : n < Number.signSize
          all_goals simp [decodeId, decodeAny, Node.strictFault?, faultOf?, idOf?, idForm?, hn,
            Except.toOption]
        | negative n => rfl
        | float bits => rfl
  | list _ => exact hparts _ rfl
  | object _ => exact hparts _ rfl

theorem blind_decodeId : Blind decodeId id Eq := .of_read decodeId_toOption rfl

/-! ## Fields -/

section Fields

variable {σ τ α β : Type} {name : String} {mayLack : Bool} {decode : Decoder α} {look : α → β}
  {seen : σ → τ} {T : Form → Form → Prop}

theorem slot_blind (hdecode : Blind decode look T) {get : σ → Option α} {set : α → σ → σ}
    (hset : ∀ {a a' s s'}, look a = look a' → seen s = seen s' →
      seen (set a s) = seen (set a' s')) :
    (Slot.of name mayLack decode get set).Blind seen T := by
  intro f f' r r' n n' s s' hT hno hdepth hn hn' hs
  exact (hdecode.alike hT hno hdepth hn hn').map fun a a' hlook => hset hlook hs

theorem slot_null {get : σ → Option (Option α)} {set : Option α → σ → σ} {s : σ}
    (hset : get s = none → seen (set none s) = seen s) {r : Reader} {n : Node}
    (hn : Shows .null n)
    (hfresh : (Slot.of name mayLack (decodeOption decode) get set).isFilled s = false) :
    ∃ s₁, (Slot.of name mayLack (decodeOption decode) get set).fill r n s = .ok s₁ ∧
      seen s₁ = seen s := by
  refine ⟨set none s, ?_, hset (by simpa [Slot.of] using hfresh)⟩
  cases hn with
  | @plain _ start stop strict h =>
    obtain rfl := toOption_eq_some h
    rfl

theorem slot_apart {get : σ → Option α} {set : α → σ → σ} {other : Slot σ} {r : Reader} {n : Node}
    {s s₁ : σ} (hfill : (Slot.of name mayLack decode get set).fill r n s = .ok s₁)
    (hset : ∀ a s, other.isFilled (set a s) = other.isFilled s) :
    other.isFilled s₁ = other.isFilled s := by
  obtain ⟨a, _, rfl⟩ := map_eq_ok hfill
  exact hset a s

end Fields

/-! ## Metrics -/

/-- What metrics count. -/
def Metrics.counts (m : Metrics) : List UInt64 :=
  [counter m.views, counter m.likes, counter m.readingTime, counter m.reactions]

theorem metricsLayout_tolerates :
    metricsLayout.Tolerates Metrics.counts Metrics.counts (fun _ => True) fun _ => Eq where
  same _ _ := rfl
  fill := by
    have hcount : Blind (decodeOption (decodeCount "u64")) (Option.map id) Eq :=
      (blind_decodeCount "u64").option fun h => by rw [h]
    refine List.forall_mem_cons.mpr ⟨slot_blind hcount ?_, List.forall_mem_cons.mpr
      ⟨slot_blind hcount ?_, List.forall_mem_cons.mpr ⟨slot_blind hcount ?_,
        List.forall_mem_singleton.mpr (slot_blind hcount ?_)⟩⟩⟩
    all_goals
      intro a a' s s' ha hs
      simp_all [Metrics.counts]
  null := by
    refine List.forall_mem_cons.mpr ⟨?_, List.forall_mem_cons.mpr ⟨?_, List.forall_mem_cons.mpr
      ⟨?_, List.forall_mem_singleton.mpr ?_⟩⟩⟩
    all_goals
      intro _ r n s hn hfresh
      refine slot_null (fun hget => ?_) hn hfresh
      simp [Metrics.counts, counter, hget]
  apart := by
    intro slot hslot other hother hne r n s s₁ hfill
    simp only [metricsLayout, List.mem_cons, List.not_mem_nil, or_false] at hslot hother
    rcases hslot with rfl | rfl | rfl | rfl
    all_goals
      rcases hother with rfl | rfl | rfl | rfl
      all_goals first
        | exact absurd rfl hne
        | exact slot_apart hfill fun _ _ => rfl
  fresh := by decide
  build _ _ h := .ok h

/-! ## Items -/

/-- Metrics with null members or without them. -/
abbrev ThinMetrics : Form → Form → Prop := Thin (fun _ => True) fun _ => Eq

/-- What may differ in a member of an item: the metrics may be thinner. -/
def ItemMember (name : String) (f f' : Form) : Prop :=
  f = f' ∨ name = "metrics" ∧ ThinMetrics f f'

abbrev ThinItem : Form → Form → Prop := Thin (fun _ => True) ItemMember

theorem ItemMember.eq {name : String} {f f' : Form} (h : ItemMember name f f')
    (hname : name ≠ "metrics") : f = f' :=
  h.resolve_right fun h => hname h.1

theorem ItemMember.thin {name : String} {f f' : Form} (h : ItemMember name f f') :
    ThinMetrics f f' := by
  obtain rfl | ⟨_, h⟩ := h
  · exact .same f
  · exact h

/-- An item counts what its metrics count. -/
theorem item_metrics {m m' : Option Metrics} (hm : m.map Metrics.counts = m'.map Metrics.counts)
    {f f' : ItemFields} (hf : f.item = f'.item) :
    { f with metrics := some m }.item = { f' with metrics := some m' }.item := by
  have hcounts : (m.getD .empty).counts = (m'.getD .empty).counts := by
    cases m with
    | none =>
      cases m' with
      | none => rfl
      | some _ => cases hm
    | some _ =>
      cases m' with
      | none => cases hm
      | some _ => exact Option.some.inj hm
  simp only [Metrics.counts, List.cons.injEq, and_true] at hcounts
  simp only [ItemFields.item, Item.mk.injEq, Option.join_some] at hf ⊢
  simp only [hcounts, hf, and_self]

theorem itemLayout_tolerates :
    itemLayout.Tolerates ItemFields.item id (fun _ => True) ItemMember where
  same _ _ := Or.inl rfl
  fill := by
    have htext : Blind (decodeOption decodeText) (Option.map id) Eq :=
      blind_decodeText.option fun h => by rw [h]
    have hid : Blind (decodeOption decodeId) (Option.map id) Eq :=
      blind_decodeId.option fun h => by rw [h]
    have hmetrics := metricsLayout_tolerates.blind.option Thin.isNull
    refine List.forall_mem_cons.mpr ⟨slot_blind (hid.mono fun h => h.eq (by decide)) ?_,
      List.forall_mem_cons.mpr ⟨slot_blind (htext.mono fun h => h.eq (by decide)) ?_,
      List.forall_mem_cons.mpr ⟨slot_blind (htext.mono fun h => h.eq (by decide)) ?_,
      List.forall_mem_cons.mpr
        ⟨slot_blind (hmetrics.mono ItemMember.thin) fun hm hf => item_metrics hm hf,
      List.forall_mem_singleton.mpr (slot_blind (htext.mono fun h => h.eq (by decide)) ?_)⟩⟩⟩⟩
    all_goals
      intro a a' s s' ha hs
      simp_all [ItemFields.item]
  null := by
    refine List.forall_mem_cons.mpr ⟨?_, List.forall_mem_cons.mpr ⟨?_, List.forall_mem_cons.mpr
      ⟨?_, List.forall_mem_cons.mpr ⟨?_, List.forall_mem_singleton.mpr ?_⟩⟩⟩⟩
    all_goals
      intro _ r n s hn hfresh
      refine slot_null (fun hget => ?_) hn hfresh
      simp [ItemFields.item, hget]
  apart := by
    intro slot hslot other hother hne r n s s₁ hfill
    simp only [itemLayout, List.mem_cons, List.not_mem_nil, or_false] at hslot hother
    rcases hslot with rfl | rfl | rfl | rfl | rfl
    all_goals
      rcases hother with rfl | rfl | rfl | rfl | rfl
      all_goals first
        | exact absurd rfl hne
        | exact slot_apart hfill fun _ _ => rfl
  fresh := by decide
  build _ _ h := .ok h

/-! ## Feeds -/

/-- What may differ in a member of a feed: the items may be thinner. -/
def FeedMember (name : String) (f f' : Form) : Prop :=
  f = f' ∨ name = "contents" ∧ EachItem ThinItem f f'

/-- The names of members that a feed may lack. It does not lack its list of items in the way in
which it lacks another member. -/
def FeedLacks (name : String) : Prop := name ≠ "contents"

theorem feedLayout_tolerates : feedLayout.Tolerates id id FeedLacks FeedMember where
  same _ _ := Or.inl rfl
  fill := by
    have hitems := itemLayout_tolerates.blind.list Thin.same
    have hcontents : Blind (decodeList (decodeStruct itemLayout)) (List.map id)
        (FeedMember "contents") := by
      refine hitems.mono fun h => ?_
      obtain rfl | ⟨_, h⟩ := h
      · exact .same _
      · exact h
    refine List.forall_mem_singleton.mpr (slot_blind hcontents ?_)
    intro a a' s s' ha _
    simpa using ha
  null := List.forall_mem_singleton.mpr fun h => absurd rfl h
  apart := by
    intro slot hslot other hother hne
    rw [List.mem_singleton.mp hslot, List.mem_singleton.mp hother] at hne
    exact absurd rfl hne
  fresh := by decide
  build s s' h := by
    obtain rfl : s = s' := h
    exact .ok rfl

/-! ## Bodies -/

/-- What is read of a body is what is read of its tree. -/
theorem jsonItems_toOption (b : Body) :
    ∃ root, Shows b.form root ∧ (jsonItems b.text).toOption =
      (decodeStruct feedLayout ⟨b.text.toList, maxDepth⟩ root).toOption := by
  obtain ⟨root, hread, hroot⟩ := b.exists_root
  refine ⟨root, hroot, ?_⟩
  unfold jsonItems decode
  simp only [hread]
  split
  · rename_i hok _
    rw [hok]
    rfl
  · rename_i hfault
    cases hfault
  · rename_i hfault
    rw [hfault]
    rfl
  · rename_i hfault
    rw [hfault]
    rfl

/-- Members that a feed may lack may be left out of its body, any of them that are null. -/
theorem jsonItems_thin {b b' : Body} (hthin : Thin FeedLacks FeedMember b.form b'.form)
    (hno : b.form.NoRepeats) : (jsonItems b.text).toOption = (jsonItems b'.text).toOption := by
  obtain ⟨root, hroot, hread⟩ := jsonItems_toOption b
  obtain ⟨root', hroot', hread'⟩ := jsonItems_toOption b'
  have halike : Alike id (decodeStruct feedLayout ⟨b.text.toList, maxDepth⟩ root)
      (decodeStruct feedLayout ⟨b'.text.toList, maxDepth⟩ root') :=
    feedLayout_tolerates.blind.alike hthin hno rfl hroot hroot'
  unfold Alike at halike
  rw [Option.map_id, id_eq, id_eq] at halike
  rw [hread, hread', halike]

/-! ## Feeds without null members -/

def bareMetrics : Form → Form := withoutNulls fun _ f => f

def bareItem : Form → Form := withoutNulls (under "metrics" bareMetrics)

def bareContents : Form → Form
  | .list items => .list (items.map bareItem)
  | f => f

/-- A feed without null members: at the top, in each item of its list and in the metrics of each. -/
def bareFeed : Form → Form := withoutNulls (under "contents" bareContents)

theorem thin_bareItem (f : Form) : ThinItem f (bareItem f) := by
  refine thin_withoutNulls (fun name f => ?_) f
  unfold under
  by_cases hname : name = "metrics"
  · rw [if_pos hname]
    exact Or.inr ⟨hname, thin_withoutNulls (fun _ _ => rfl) f⟩
  · rw [if_neg hname]
    exact Or.inl rfl

theorem feedMember_bare (name : String) (f : Form) :
    FeedMember name f (under "contents" bareContents name f) := by
  unfold under
  by_cases hname : name = "contents"
  · rw [if_pos hname]
    refine Or.inr ⟨hname, ?_⟩
    cases f with
    | list items =>
      refine .list ?_
      rw [List.forall₂_map_right_iff]
      exact List.forall₂_same.mpr fun f _ => thin_bareItem f
    | plain v => exact .same _
    | text s => exact .same _
    | object ms => exact .same _
  · rw [if_neg hname]
    exact Or.inl rfl

/-- Whatever feed is written can be written without its null members. -/
theorem exists_bareFeed (b : Body) : ∃ b' : Body, b'.form = bareFeed b.form := by
  have hmetrics : ∀ w : Written, ∃ w' : Written, w'.form = bareMetrics w.form :=
    exists_withoutNulls fun _ w => ⟨w, rfl⟩
  have hitem : ∀ w : Written, ∃ w' : Written, w'.form = bareItem w.form :=
    exists_withoutNulls (exists_under hmetrics)
  have hcontents : ∀ w : Written, ∃ w' : Written, w'.form = bareContents w.form := by
    intro w
    cases w with
    | list items =>
      obtain ⟨items', hitems⟩ := Items.exists_mapped hitem items
      exact ⟨.list items', congrArg Form.list hitems⟩
    | null => exact ⟨.null, rfl⟩
    | truth b => exact ⟨.truth b, by cases b <;> rfl⟩
    | number n => exact ⟨.number n, rfl⟩
    | quote q => exact ⟨.quote q, rfl⟩
    | emptyList gap => exact ⟨.emptyList gap, rfl⟩
    | emptyObject gap => exact ⟨.emptyObject gap, rfl⟩
    | object members => exact ⟨.object members, rfl⟩
  obtain ⟨w, hw⟩ := exists_withoutNulls (exists_under hcontents) b.value
  exact ⟨⟨b.before, w, b.after⟩, hw⟩

/-! ## A list that is null -/

section NullContents

variable {ms : List (String × Form)} {b : Body}

theorem fillMember_nullContents (r : Reader) (s : Option (List Item)) {start stop : Nat} {n : Node}
    (hn : Shows .null n) :
    (fillMember feedLayout.slots r s (⟨start, stop, .ok "contents"⟩, n)).toOption = none := by
  cases s with
  | some items => rfl
  | none =>
    have hrefused : (decodeList (decodeStruct itemLayout) r n).toOption = none :=
      decodeList_refuses hn nofun
    show ((decodeList (decodeStruct itemLayout) r n).map some).toOption = none
    rw [toOption_map, hrefused, Option.map_none]

/-- A feed is refused when its list of items is null. -/
theorem jsonItems_nullContents (hb : b.form = .object ms) (hnull : ("contents", .null) ∈ ms) :
    (jsonItems b.text).toOption = none := by
  obtain ⟨root, hroot, hread⟩ := jsonItems_toOption b
  rw [hb] at hroot
  cases hroot with
  | object hnodes =>
    obtain ⟨start, stop, node, hmem, hnode⟩ := exists_member hnodes hnull
    rw [hread, decodeStruct_object]
    refine Option.bind_eq_none_iff.mpr fun inner _ => ?_
    rw [foldlM_toOption_of_mem (fun s => fillMember_nullContents inner s hnode) hmem,
      Option.bind_none]

/-- A feed without a list of items is an empty one. -/
theorem jsonItems_noContents (hb : b.form = .object ms) (hno : "contents" ∉ ms.map (·.1)) :
    jsonItems b.text = .ok [] := by
  obtain ⟨root, hroot, hread⟩ := jsonItems_toOption b
  rw [hb] at hroot
  cases hroot with
  | object hnodes =>
    have hunknown : ∀ m ∈ ms, ∀ slot ∈ feedLayout.slots, slot.name ≠ m.1 := by
      intro m hm slot hslot
      rw [List.mem_singleton.mp hslot]
      exact fun hname => hno (List.mem_map.mpr ⟨m, hm, hname.symm⟩)
    rw [decodeStruct_object] at hread
    refine toOption_eq_some (hread.trans ?_)
    simp only [foldlM_unknown hnodes hunknown]
    rfl

end NullContents

/-! ## Null and nothing -/

/-- Members of a feed, of its items and of their metrics that are null may be left out, and the
same records are read, or none. A list of items that is null makes the exception: a feed with it is
refused, and without it the feed is empty. -/
theorem null_members_may_be_left_out {b : Body} {ms : List (String × Form)}
    (hb : b.form = .object ms) (hno : b.form.NoRepeats) (provider : String) (kind : Option Kind)
    (fetchedAt : Time.Moment) :
    (∃ b' : Body, b'.form = bareFeed b.form) ∧
    ∀ b' : Body, b'.form = bareFeed b.form →
      (("contents", .null) ∉ ms →
        (records .json provider b.text kind fetchedAt).toOption =
          (records .json provider b'.text kind fetchedAt).toOption) ∧
      (("contents", .null) ∈ ms →
        (records .json provider b.text kind fetchedAt).toOption = none ∧
          records .json provider b'.text kind fetchedAt = .ok []) := by
  have hrecords : ∀ body, (records .json provider body kind fetchedAt).toOption =
      (jsonItems body).toOption.map (recordsOf provider kind fetchedAt) := by
    intro body
    rw [records, toOption_map, items, toOption_mapError]
  refine ⟨exists_bareFeed b, fun b' hb' => ⟨fun hcontents => ?_, fun hcontents => ?_⟩⟩
  · have hthin : Thin FeedLacks FeedMember b.form b'.form := by
      rw [hb', hb]
      refine .object (thinMembers_kept feedMember_bare fun name hname => ?_)
      rintro rfl
      exact hcontents hname
    rw [hrecords, hrecords, jsonItems_thin hthin hno]
  · rw [hb] at hno hb'
    constructor
    · rw [hrecords, jsonItems_nullContents hb hcontents, Option.map_none]
    · obtain ⟨hnames, _⟩ := Form.noRepeats_object.mp hno
      rw [records, items, jsonItems_noContents hb' (notMem_kept hnames hcontents)]
      rfl

/-- Some metrics: five views. -/
def fiveViews : Figure := ⟨⟨false, ['5'], [], none⟩, by decide, false, false⟩

/-- An item that was seen five times. Its title is null, and so are its likes. -/
def sparseItem : Written :=
  .object (.more .none (.ofPlain "id" (by decide)) .none .space
      (.quote (.ofPlain "7" (by decide))) .none
    (.more .space (.ofPlain "title" (by decide)) .none .space .null .none
    (.last .space (.ofPlain "metrics" (by decide)) .none .space
      (.object (.more .none (.ofPlain "views" (by decide)) .none .space (.number fiveViews) .none
        (.last .space (.ofPlain "likes" (by decide)) .none .space .null .none))) .none)))

/-- A feed of this item, with a null member that no feed has. -/
def sparseFeed : Body where
  before := .none
  value := .object (.more .none (.ofPlain "contents" (by decide)) .none .space
      (.list (.last .none sparseItem .none)) .none
    (.last .space (.ofPlain "next" (by decide)) .none .space .null .none))
  after := .none

def terseItem : Written :=
  .object (.more .none (.ofPlain "id" (by decide)) .none .space
      (.quote (.ofPlain "7" (by decide))) .none
    (.last .space (.ofPlain "metrics" (by decide)) .none .space
      (.object (.last .none (.ofPlain "views" (by decide)) .none .space (.number fiveViews) .none))
      .none))

/-- The same feed without its null members. -/
def terseFeed : Body where
  before := .none
  value := .object (.last .none (.ofPlain "contents" (by decide)) .none .space
    (.list (.last .none terseItem .none)) .none)
  after := .none

theorem a_sparse_feed_and_a_terse_one_say_the_same :
    sparseFeed.text = "\x7b\"contents\": [\x7b\"id\": \"7\", \"title\": null, \"metrics\": " ++
      "\x7b\"views\": 5, \"likes\": null\x7d\x7d], \"next\": null\x7d" ∧
    terseFeed.text =
      "\x7b\"contents\": [\x7b\"id\": \"7\", \"metrics\": \x7b\"views\": 5\x7d\x7d]\x7d" ∧
    records .json "news" terseFeed.text none ⟨0, 0⟩ =
      .ok [{ Record.unseen "news" "news_7" "" with views := 5 }] ∧
    (records .json "news" sparseFeed.text none ⟨0, 0⟩).toOption =
      (records .json "news" terseFeed.text none ⟨0, 0⟩).toOption := by
  have hno : sparseFeed.form.NoRepeats := by
    simp [sparseFeed, sparseItem, Body.form, Written.form, Members.forms, Items.forms, Form.null,
      Name.ofPlain]
  obtain ⟨_, hleft⟩ := null_members_may_be_left_out (b := sparseFeed) rfl hno "news" none ⟨0, 0⟩
  refine ⟨by decide, by decide, by decide +kernel, (hleft terseFeed rfl).1 ?_⟩
  simp [sparseItem, Written.form, Members.forms, Items.forms, Form.null, Name.ofPlain]

/-- A feed whose list of items is null. -/
def nullFeed : Body where
  before := .none
  value := .object (.last .none (.ofPlain "contents" (by decide)) .none .space .null .none)
  after := .none

def emptyFeed : Body := ⟨.none, .emptyObject .none, .none⟩

/-- Null is not the same as nothing for the list of items. -/
theorem a_list_that_is_null_fails_its_feed :
    nullFeed.text = "\x7b\"contents\": null\x7d" ∧ nullFeed.form.NoRepeats ∧
      emptyFeed.text = "\x7b\x7d" ∧ emptyFeed.form = bareFeed nullFeed.form ∧
      (records .json "news" nullFeed.text none ⟨0, 0⟩).toOption = none ∧
      records .json "news" emptyFeed.text none ⟨0, 0⟩ = .ok [] := by
  refine ⟨by decide, ?_, by decide, rfl, by decide +kernel, by decide +kernel⟩
  simp [nullFeed, Body.form, Written.form, Members.forms, Form.null]

end FeedSearch.Feed
