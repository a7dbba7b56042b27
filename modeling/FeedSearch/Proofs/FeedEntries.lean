-- What a feed says, entry by entry, and the records made of it. Both formats are
-- read once more into entries of which nothing has been read further: every entry
-- with an id becomes one record, in order, and a kind that is wanted only leaves
-- records out.
import FeedSearch.Feed.Payload
import FeedSearch.Proofs.CarriedDecoders
import FeedSearch.Proofs.TrimmedTexts
import FeedSearch.Proofs.YieldedValues

namespace FeedSearch

/-! ## Words of letters -/

namespace Text

theorem toNat_toLower (c : Char) :
    c.toLower.toNat = if 65 ≤ c.toNat ∧ c.toNat ≤ 90 then c.toNat + 32 else c.toNat := by
  have hcapital : c.val ≥ 'A'.val ∧ c.val ≤ 'Z'.val ↔ 65 ≤ c.toNat ∧ c.toNat ≤ 90 := by
    simp [UInt32.le_iff_toNat_le]
  unfold Char.toLower
  simp only [hcapital]
  split
  · have hsum : (c.val + ('a'.val - 'A'.val)).toNat = (c.toNat + 32) % 2 ^ 32 := by
      rw [UInt32.toNat_add]
      rfl
    show (c.val + ('a'.val - 'A'.val)).toNat = c.toNat + 32
    omega
  · rfl

theorem toNat_toUpper {v : Char} (hv : 97 ≤ v.toNat ∧ v.toNat ≤ 122) :
    v.toUpper.toNat + 32 = v.toNat := by
  unfold Char.toUpper
  rw [dif_pos (by simpa [UInt32.le_iff_toNat_le] using hv)]
  have hsum : (v.val + ('A'.val - 'a'.val)).toNat = (v.toNat + (2 ^ 32 - 32)) % 2 ^ 32 := by
    rw [UInt32.toNat_add]
    rfl
  show (v.val + ('A'.val - 'a'.val)).toNat + 32 = v.toNat
  omega

/-- Only a small letter and its capital are written small as this letter. -/
theorem toLower_eq_iff {c v : Char} (hv : v.isLower = true) :
    c.toLower = v ↔ c = v ∨ c = v.toUpper := by
  have hrange : 97 ≤ v.toNat ∧ v.toNat ≤ 122 := by
    have hsmall : (decide ('a'.val ≤ v.val) && decide (v.val ≤ 'z'.val)) = true := hv
    simpa [UInt32.le_iff_toNat_le] using hsmall
  have hupper := toNat_toUpper hrange
  simp only [← Char.toNat_inj, toNat_toLower]
  split <;> omega

/-- Two texts of which one is the other but for capitals. -/
def SameLetters : List Char → List Char → Prop := List.Forall₂ fun c v => c = v ∨ c = v.toUpper

theorem map_toLower_eq_iff {s word : List Char} (hword : ∀ v ∈ word, v.isLower = true) :
    s.map Char.toLower = word ↔ SameLetters s word := by
  unfold SameLetters
  induction s generalizing word with
  | nil => cases word <;> simp
  | cons c s ih =>
    cases word with
    | nil => simp
    | cons v word =>
      obtain ⟨hv, hword⟩ := List.forall_mem_cons.mp hword
      rw [List.map_cons, List.cons.injEq, List.forall₂_cons, toLower_eq_iff hv, ih hword]

/-- A text is the same word as one of small letters if it is this one but for capitals. -/
theorem sameWord_iff {s word : String} (hword : ∀ v ∈ word.toList, v.isLower = true) :
    sameWord s word = true ↔ SameLetters s.toList word.toList := by
  have hself : asciiLower word = word := by
    rw [asciiLower, ← String.toList_inj, String.toList_ofList]
    have hmap := List.map_congr_left fun v hv =>
      (toLower_eq_iff (hword v hv)).mpr (Or.inl rfl)
    rw [hmap, List.map_id']
  rw [sameWord, hself, beq_iff_eq, ← map_toLower_eq_iff hword, asciiLower, ← String.toList_inj,
    String.toList_ofList]

end Text

namespace Feed

variable {provider body : String} {fetchedAt : Time.Moment}

/-! ## Entries -/

/-- An entry of a feed, as it stands there. A field that it lacks is empty, and a counter zero. -/
structure Entry where
  id : String
  title : String
  kind : String
  views : Nat
  likes : Nat
  readingTime : Nat
  reactions : Nat
  date : Option String
  deriving DecidableEq, Repr

/-- How the dates of a format are read. -/
def Format.date? : Format → String → Option Time.Moment
  | .json => Time.stamp?
  | .xml => Time.feedDate?

/-- Whether the counters of an entry fit into 64 bits. -/
structure Entry.Fits (e : Entry) : Prop where
  views : e.views ≤ Number.maxCount
  likes : e.likes ≤ Number.maxCount
  readingTime : e.readingTime ≤ Number.maxCount
  reactions : e.reactions ≤ Number.maxCount

/-- The item of an entry. -/
def Entry.item (format : Format) (e : Entry) : Item where
  id := e.id
  title := e.title
  kind := kindOrText e.kind
  views := e.views.toUInt64
  likes := e.likes.toUInt64
  readingTime := e.readingTime.toUInt64
  reactions := e.reactions.toUInt64
  createdAt := e.date.bind format.date?

/-! ## Entries in JSON -/

/-- The entry that the fields say. -/
def ItemFields.entry (f : ItemFields) : Entry :=
  let metrics := f.metrics.join.getD .empty
  { id := f.id.join.getD ""
    title := f.title.join.getD ""
    kind := f.kind.join.getD ""
    views := metrics.views.join.getD 0
    likes := metrics.likes.join.getD 0
    readingTime := metrics.readingTime.join.getD 0
    reactions := metrics.reactions.join.getD 0
    date := f.publishedAt.join }

def entryLayout : Json.Layout ItemFields Entry :=
  { itemLayout with build := fun f => .ok f.entry }

def entriesLayout : Json.Layout (Option (List Entry)) (List Entry) where
  title := feedLayout.title
  slots := [
    .of "contents" true (Json.decodeList (Json.decodeStruct entryLayout)) id fun x _ => some x ]
  empty := none
  build entries := .ok (entries.getD [])

/-- The entries of a JSON feed. -/
def jsonEntries (body : String) : Except Json.Fault (List Entry) :=
  Json.decode (Json.decodeStruct entriesLayout) body

theorem ItemFields.item_entry (f : ItemFields) : f.entry.item .json = f.item := rfl

/-- The same fields are read and filled for an entry as for an item. -/
theorem entryLayout_carries : entryLayout.Carries id (Entry.item .json) itemLayout where
  title := rfl
  slots := List.forall₂_same.mpr fun slot _ =>
    ⟨rfl, rfl, fun _ => rfl, fun r n s => by rw [id_def]; cases slot.fill r n s <;> rfl⟩
  empty := rfl
  build _ := rfl

theorem entriesLayout_carries :
    entriesLayout.Carries (Option.map (List.map (Entry.item .json))) (List.map (Entry.item .json))
      feedLayout where
  title := rfl
  slots := by
    refine .cons ⟨rfl, rfl, fun s => by cases s <;> rfl, fun r n s => ?_⟩ .nil
    have hlist := entryLayout_carries.struct.list r n
    simp only [Json.Slot.of, hlist]
    cases Json.decodeList (Json.decodeStruct entryLayout) r n <;> rfl
  empty := rfl
  build s := by cases s <;> rfl

theorem jsonItems_eq (body : String) :
    jsonItems body = (jsonEntries body).map (List.map (Entry.item .json)) :=
  Json.decode_carries entriesLayout_carries.struct body

/-- Whether the counters that have been read fit into 64 bits. -/
structure Metrics.Fits (m : Metrics) : Prop where
  views : ∀ n ∈ m.views.join, n ≤ Number.maxCount
  likes : ∀ n ∈ m.likes.join, n ≤ Number.maxCount
  readingTime : ∀ n ∈ m.readingTime.join, n ≤ Number.maxCount
  reactions : ∀ n ∈ m.reactions.join, n ≤ Number.maxCount

theorem Metrics.empty_fits : Metrics.empty.Fits := ⟨nofun, nofun, nofun, nofun⟩

theorem decodeMetrics_yields : Json.Yields Metrics.Fits (Json.decodeStruct metricsLayout) := by
  have hcount := (Json.decodeCount_yields "u64").option
  intro r n m h
  have hslots : ∀ slot ∈ metricsLayout.slots, slot.Keeps Metrics.Fits := by
    simp only [metricsLayout, List.forall_mem_cons]
    refine ⟨?_, ?_, ?_, ?_, nofun⟩
    · exact Json.Slot.of_keeps _ _ hcount fun n m hn hm => { hm with views := hn }
    · exact Json.Slot.of_keeps _ _ hcount fun n m hn hm => { hm with likes := hn }
    · exact Json.Slot.of_keeps _ _ hcount fun n m hn hm => { hm with readingTime := hn }
    · exact Json.Slot.of_keeps _ _ hcount fun n m hn hm => { hm with reactions := hn }
  obtain ⟨m', hfits, hbuild⟩ := Json.decodeStruct_yields hslots Metrics.empty_fits h
  exact Except.ok.inj hbuild ▸ hfits

/-- A counter that is missing or null is zero. -/
theorem getD_zero_le {n? : Option Nat} {bound : Nat} (h : ∀ n ∈ n?, n ≤ bound) :
    n?.getD 0 ≤ bound := by
  cases n? with
  | none => exact Nat.zero_le _
  | some n => exact h n rfl

theorem ItemFields.entry_fits {f : ItemFields} (h : ∀ m ∈ f.metrics.join, m.Fits) :
    f.entry.Fits := by
  have hmetrics : (f.metrics.join.getD .empty).Fits := by
    cases hm : f.metrics.join with
    | none => exact Metrics.empty_fits
    | some m => exact h m hm
  exact ⟨getD_zero_le hmetrics.views, getD_zero_le hmetrics.likes,
    getD_zero_le hmetrics.readingTime, getD_zero_le hmetrics.reactions⟩

theorem decodeEntry_yields : Json.Yields Entry.Fits (Json.decodeStruct entryLayout) := by
  have hany {α : Type} (decode : Json.Decoder α) : Json.Yields (fun _ => True) decode :=
    fun _ _ _ _ => trivial
  intro r n e h
  have hslots : ∀ slot ∈ entryLayout.slots,
      slot.Keeps fun f : ItemFields => ∀ m ∈ f.metrics.join, m.Fits := by
    simp only [entryLayout, itemLayout, List.forall_mem_cons]
    refine ⟨?_, ?_, ?_, ?_, ?_, nofun⟩
    · exact Json.Slot.of_keeps _ _ (hany _) fun _ _ _ hf => hf
    · exact Json.Slot.of_keeps _ _ (hany _) fun _ _ _ hf => hf
    · exact Json.Slot.of_keeps _ _ (hany _) fun _ _ _ hf => hf
    · exact Json.Slot.of_keeps _ _ decodeMetrics_yields.option fun _ _ hm _ => hm
    · exact Json.Slot.of_keeps _ _ (hany _) fun _ _ _ hf => hf
  obtain ⟨f, hfits, hbuild⟩ := Json.decodeStruct_yields hslots (fun m hm => by cases hm) h
  exact Except.ok.inj hbuild ▸ ItemFields.entry_fits hfits

theorem jsonEntries_fit {entries : List Entry} (h : jsonEntries body = .ok entries) :
    ∀ e ∈ entries, e.Fits := by
  refine Json.Yields.decode (P := fun l : List Entry => ∀ e ∈ l, e.Fits) ?_ h
  intro r n l hl
  have hslots : ∀ slot ∈ entriesLayout.slots,
      slot.Keeps fun l? : Option (List Entry) => ∀ l ∈ l?, ∀ e ∈ l, e.Fits := by
    simp only [entriesLayout, List.forall_mem_singleton]
    refine Json.Slot.of_keeps _ _ decodeEntry_yields.list fun l _ hfits _ l' hl' => ?_
    exact Option.some.inj hl' ▸ hfits
  obtain ⟨l?, hfits, hbuild⟩ := Json.decodeStruct_yields hslots (fun l hl => by cases hl) hl
  obtain rfl := Except.ok.inj hbuild
  cases l? with
  | none => exact nofun
  | some l => exact hfits l rfl

/-! ## Entries in XML -/

/-- The entry that the fields say. -/
def EntryFields.entry (f : EntryFields) : Entry :=
  let stats := f.stats.getD .empty
  { id := f.id.getD ""
    title := f.headline.getD ""
    kind := f.kind.getD ""
    views := (stats.views.getD 0).toNat
    likes := (stats.likes.getD 0).toNat
    readingTime := (stats.readingTime.getD 0).toNat
    reactions := (stats.reactions.getD 0).toNat
    date := f.publicationDate }

/-- The fields of one item after another are kept, latest first. -/
def fieldsSlot : Xml.Slot (Option (List EntryFields)) :=
  { entriesSlot with
    isFilled := Option.isSome
    fill := fun read tag children ending => do
      let fields ← Xml.readStruct entrySlots .empty tag children ending
      return some (fields :: read.getD []) }

def allFieldsSlot : Xml.Slot (Option (Option (List EntryFields))) :=
  { itemsSlot with
    isFilled := Option.isSome
    fill := fun _ tag children ending => do
      let read ← Xml.readStruct [fieldsSlot] none tag children ending
      return some read }

/-- The entries of an XML feed. -/
def xmlEntries (body : String) : Except Xml.Fault (List Entry) := do
  let read ← Xml.readRoot "struct Feed" (Xml.readStruct [allFieldsSlot] none)
    (.ofText body.toList)
  return (read.join.getD []).reverse.map EntryFields.entry

theorem EntryFields.item_entry (f : EntryFields) : f.entry.item .xml = f.item := by
  simp [EntryFields.entry, Entry.item, EntryFields.item, Format.date?]

theorem EntryFields.entry_fits (f : EntryFields) : f.entry.Fits := by
  have hfits (n : UInt64) : n.toNat ≤ Number.maxCount := Nat.le_of_lt_succ n.toNat_lt
  exact ⟨hfits _, hfits _, hfits _, hfits _⟩

theorem fieldsSlot_carries :
    fieldsSlot.Carries (Option.map (List.map EntryFields.item)) entriesSlot where
  name := rfl
  repeats := rfl
  title := rfl
  isFilled s := by cases s <;> rfl
  fill s tag children ending := by
    simp only [fieldsSlot, entriesSlot]
    cases Xml.readStruct entrySlots .empty tag children ending with
    | error e => rfl
    | ok f => cases s <;> rfl

theorem allFieldsSlot_carries :
    allFieldsSlot.Carries (Option.map (Option.map (List.map EntryFields.item))) itemsSlot where
  name := rfl
  repeats := rfl
  title := rfl
  isFilled s := by cases s <;> rfl
  fill s tag children ending := by
    have hread := Xml.readStruct_carries (.cons fieldsSlot_carries .nil) none tag children ending
    simp only [allFieldsSlot, itemsSlot]
    rw [Option.map_none] at hread
    rw [hread]
    cases Xml.readStruct [fieldsSlot] none tag children ending <;> rfl

theorem xmlItems_eq (body : String) :
    xmlItems body = (xmlEntries body).map (List.map (Entry.item .xml)) := by
  have hread := Xml.readRoot_carries
    (Xml.readStruct_carries (.cons allFieldsSlot_carries .nil) none) "struct Feed"
    (.ofText body.toList)
  unfold xmlItems xmlEntries
  rw [Option.map_none] at hread
  rw [hread]
  cases Xml.readRoot "struct Feed" (Xml.readStruct [allFieldsSlot] none) (.ofText body.toList) with
  | error e => rfl
  | ok read =>
    have hitem : Entry.item .xml ∘ EntryFields.entry = EntryFields.item :=
      funext EntryFields.item_entry
    have hitems : (read.map (Option.map (List.map EntryFields.item))).join.getD [] =
        (read.join.getD []).map EntryFields.item := by
      rcases read with _ | _ | read <;> rfl
    simp only [Except.map, bind, Except.bind, pure, Except.pure, List.map_map, hitem, hitems,
      List.map_reverse]

theorem xmlEntries_fit {entries : List Entry} (h : xmlEntries body = .ok entries) :
    ∀ e ∈ entries, e.Fits := by
  obtain ⟨read, _, hentries⟩ := bind_eq_ok h
  obtain rfl := Except.ok.inj hentries
  intro e he
  obtain ⟨f, _, rfl⟩ := List.mem_map.mp he
  exact f.entry_fits

/-! ## Records -/

/-- The entries of a feed. -/
def entries (format : Format) (body : String) : Except PayloadFault (List Entry) :=
  match format with
  | .json => (jsonEntries body).mapError .json
  | .xml => (xmlEntries body).mapError .xml

theorem items_eq (format : Format) (body : String) :
    items format body = (entries format body).map (List.map (Entry.item format)) := by
  cases format with
  | json =>
    simp only [items, entries, jsonItems_eq]
    cases jsonEntries body <;> rfl
  | xml =>
    simp only [items, entries, xmlItems_eq]
    cases xmlEntries body <;> rfl

theorem entries_fit {format : Format} {es : List Entry} (h : entries format body = .ok es) :
    ∀ e ∈ es, e.Fits := by
  cases format with
  | json => exact jsonEntries_fit (mapError_eq_ok h)
  | xml => exact xmlEntries_fit (mapError_eq_ok h)

/-- Whether an entry has an id. -/
def Entry.hasId (e : Entry) : Bool := Text.trim e.id != ""

/-- The record that an entry becomes. -/
structure Becomes (format : Format) (provider : String) (fetchedAt : Time.Moment) (e : Entry)
    (r : Record) : Prop where
  id : r.id = none
  providerId : r.providerId = provider ++ "_" ++ Text.trim e.id
  provider : r.provider = provider
  title : r.title = cleanTitle e.title
  kind : r.kind = .video ↔ Text.SameLetters (Text.trim e.kind).toList "video".toList
  views : r.views.toNat = e.views
  likes : r.likes.toNat = e.likes
  readingTime : r.readingTime.toNat = e.readingTime
  reactions : r.reactions.toNat = e.reactions
  score : r.score = .zero
  createdAt : r.createdAt = (e.date.bind format.date?).getD fetchedAt

theorem kindOrText_eq_video_iff (raw : String) :
    kindOrText raw = .video ↔ Text.SameLetters (Text.trim raw).toList "video".toList := by
  have hword : ∀ v ∈ "video".toList, v.isLower = true := by simp
  rw [← Text.sameWord_iff hword, kindOrText]
  split <;> simp [*]

theorem toUInt64_eq_iff {n : Nat} (h : n ≤ Number.maxCount) (m : UInt64) :
    n.toUInt64 = m ↔ m.toNat = n := by
  constructor
  · rintro rfl
    exact UInt64.toNat_ofNat_of_lt' (Nat.lt_succ_of_le h)
  · rintro rfl
    exact UInt64.ofNat_toNat

/-- What an entry becomes is the record of its item, and nothing else. -/
theorem becomes_iff {format : Format} {e : Entry} (hfits : e.Fits) (r : Record) :
    Becomes format provider fetchedAt e r ↔ (e.item format).record provider fetchedAt = r := by
  have hviews := toUInt64_eq_iff hfits.views
  have hlikes := toUInt64_eq_iff hfits.likes
  have hreadingTime := toUInt64_eq_iff hfits.readingTime
  have hreactions := toUInt64_eq_iff hfits.reactions
  have hkind := kindOrText_eq_video_iff e.kind
  constructor
  · intro h
    have hkinds : kindOrText e.kind = r.kind := by
      have hsame := hkind.trans h.kind.symm
      revert hsame
      cases kindOrText e.kind <;> cases r.kind <;> decide
    cases r
    simp only [Item.record, Entry.item, Record.mk.injEq]
    exact ⟨h.id.symm, h.providerId.symm, h.provider.symm, h.title.symm, hkinds,
      (hviews _).mpr h.views, (hlikes _).mpr h.likes, (hreadingTime _).mpr h.readingTime,
      (hreactions _).mpr h.reactions, h.score.symm, h.createdAt.symm⟩
  · rintro rfl
    have hrecord : ((e.item format).record provider fetchedAt).kind = kindOrText e.kind := by
      simp only [Item.record, Entry.item]
    exact ⟨rfl, rfl, rfl, rfl, hrecord ▸ hkind, (hviews _).mp rfl, (hlikes _).mp rfl,
      (hreadingTime _).mp rfl, (hreactions _).mp rfl, rfl, rfl⟩

theorem becomes_all_iff {format : Format} {es : List Entry} (hfits : ∀ e ∈ es, e.Fits)
    {rs : List Record} :
    es.map (fun e => (e.item format).record provider fetchedAt) = rs ↔
      List.Forall₂ (Becomes format provider fetchedAt) es rs := by
  induction es generalizing rs with
  | nil => cases rs <;> simp
  | cons e es ih =>
    obtain ⟨he, hes⟩ := List.forall_mem_cons.mp hfits
    cases rs with
    | nil => simp
    | cons r rs => rw [List.map_cons, List.cons.injEq, List.forall₂_cons, becomes_iff he, ih hes]

/-- The records of a feed are those of its entries with an id. -/
theorem recordsOf_none (format : Format) (es : List Entry) :
    recordsOf provider none fetchedAt (es.map (Entry.item format)) =
      (es.filter Entry.hasId).map fun e => (e.item format).record provider fetchedAt := by
  have hwanted : (fun item : Item => item.isWanted none) ∘ Entry.item format = Entry.hasId := by
    funext e
    have hblank := Text.trim_eq_empty_iff e.id
    simp only [Function.comp_apply, Item.isWanted, Kind.passes, Option.all_none, Bool.and_true,
      Entry.item, Entry.hasId, bne, beq_eq_decide, hblank, Bool.decide_eq_true]
  rw [recordsOf, List.filter_map, hwanted, List.map_map]
  rfl

/-- A wanted kind leaves out the records of the other kind. -/
theorem recordsOf_some (kind : Kind) (its : List Item) :
    recordsOf provider (some kind) fetchedAt its =
      (recordsOf provider none fetchedAt its).filter (·.kind == kind) := by
  unfold recordsOf
  rw [List.filter_map, List.filter_filter]
  congr 1
  apply List.filter_congr
  intro item _
  simp only [Item.isWanted, Kind.passes, Option.all_some, Option.all_none, Bool.and_true,
    Function.comp_apply, Item.record]
  rw [Bool.and_comm, BEq.comm]

/-- A wanted kind leaves out the records of the other kind and does nothing else; and without one
every entry with an id becomes one record, in the order of the feed. -/
theorem a_feed_is_read_entry_by_entry (format : Format) (provider body : String)
    (fetchedAt : Time.Moment) :
    (∀ kind, records format provider body (some kind) fetchedAt =
      (records format provider body none fetchedAt).map (List.filter (·.kind == kind))) ∧
    (∀ fault, records format provider body none fetchedAt = .error fault ↔
      entries format body = .error fault) ∧
    ∀ rs, records format provider body none fetchedAt = .ok rs ↔
      ∃ es, entries format body = .ok es ∧
        List.Forall₂ (Becomes format provider fetchedAt) (es.filter Entry.hasId) rs := by
  unfold records
  rw [items_eq]
  cases hentries : entries format body with
  | error fault => simp [Except.map]
  | ok es =>
    have hfits : ∀ e ∈ es.filter Entry.hasId, e.Fits := fun e he =>
      entries_fit hentries e (List.mem_of_mem_filter he)
    simp only [Except.map, recordsOf_some, recordsOf_none, Except.ok.injEq, reduceCtorEq,
      implies_true, true_and]
    intro rs
    rw [exists_eq_left']
    exact becomes_all_iff hfits

end Feed

end FeedSearch
