-- Records through their texts. The text of a record is read back field by field:
-- every string, every number of 64 bits and every moment is the same again, and the
-- score is at least read.
import FeedSearch.Content.RecordJson
import FeedSearch.Proofs.DecodedForms
import FeedSearch.Proofs.JsonDocuments
import FeedSearch.Proofs.StampTexts
import FeedSearch.Proofs.WrittenValues

namespace FeedSearch

namespace Json

/-! ## Readings of forms -/

variable {α σ : Type}

/-- A decoder reads a value of every node that shows a form. -/
def Reads (decode : Decoder α) (f : Form) (a : α) : Prop :=
  ∀ (r : Reader) {n : Node}, Shows f n → decode r n = .ok a

theorem exists_plain {v : Scalar} {n : Node} (h : Shows (.plain (some v)) n) :
    ∃ start stop, n = .plain start stop ⟨.ok v, none⟩ := by
  cases h with
  | plain h => exact ⟨_, _, by rw [toOption_eq_some h]⟩

theorem exists_text {s : String} {n : Node} (h : Shows (.text (some s)) n) :
    ∃ start stop, n = .text start stop ⟨.ok s, none⟩ := by
  cases h with
  | text h => exact ⟨_, _, by rw [toOption_eq_some h]⟩

theorem reads_text (s : String) : Reads decodeText (.text (some s)) s := by
  intro r n h
  obtain ⟨start, stop, rfl⟩ := exists_text h
  rfl

theorem reads_textAs (expected : String) {read : String → Except Shape.Mismatch α} {s : String}
    {a : α} (hread : read s = .ok a) : Reads (decodeTextAs expected read) (.text (some s)) a := by
  intro r n h
  obtain ⟨start, stop, rfl⟩ := exists_text h
  simp only [decodeTextAs, locate, bind, Except.bind, hread]

theorem reads_variant {variants : List (String × α)} {name : String} {a : α}
    (hname : variants.lookup name = some a) :
    Reads (decodeVariant variants) (.text (some name)) a := by
  intro r n h
  obtain ⟨start, stop, rfl⟩ := exists_text h
  have hvariant : variantOf variants name = .ok a := by rw [variantOf, hname]
  exact reads_textAs "" hvariant r h

theorem reads_count (expected : String) {n : Nat} (hn : n ≤ Number.maxCount) :
    Reads (decodeCount expected) (.plain (some (.number (.count n)))) n := by
  intro r node h
  obtain ⟨start, stop, rfl⟩ := exists_plain h
  exact if_pos hn

theorem reads_signed {n : Int} (hn : Number.fitsSigned n = true) :
    Reads decodeSigned (Value.integer n).meaning n := by
  intro r node h
  rw [Value.meaning_integer hn] at h
  simp only [Number.fitsSigned, Bool.and_eq_true, decide_eq_true_eq] at hn
  obtain ⟨start, stop, rfl⟩ := exists_plain h
  split
  · rfl
  · have hcast : (n.toNat : Int) = n := by omega
    show (if n.toNat < Number.signSize then Except.ok (n.toNat : Int) else _) = _
    rw [if_pos (by omega), hcast]

theorem reads_number (m : Num) : Reads decodeFloat (.plain (some (.number m))) m.toFloat := by
  intro r n h
  obtain ⟨start, stop, rfl⟩ := exists_plain h
  rfl

theorem reads_null (decode : Decoder α) : Reads (decodeOption decode) .null none := by
  intro r n h
  obtain ⟨start, stop, rfl⟩ := exists_plain h
  rfl

theorem Reads.option {decode : Decoder α} {m : Num} {a : α}
    (h : Reads decode (.plain (some (.number m))) a) :
    Reads (decodeOption decode) (.plain (some (.number m))) (some a) := by
  intro r n hn
  obtain ⟨start, stop, rfl⟩ := exists_plain hn
  show (decode r _).map some = _
  rw [h r hn]
  rfl

/-! ## Structures -/

/-- Members fill a structure one after the other, each a field of its own. -/
inductive Fills (slots : List (Slot σ)) : List (String × Form) → σ → σ → Prop where
  | nil {s : σ} : Fills slots [] s s
  | cons {slot : Slot σ} {name : String} {f : Form} {ms : List (String × Form)} {s s₁ s₂ : σ}
      (hslot : slots.find? (·.name == name) = some slot) (hfresh : slot.isFilled s = false)
      (hfill : ∀ (r : Reader) {n : Node}, Shows f n → slot.fill r n s = .ok s₁)
      (hrest : Fills slots ms s₁ s₂) : Fills slots ((name, f) :: ms) s s₂

theorem Reads.fill {decode : Decoder α} {f : Form} {a : α} (h : Reads decode f a) (name : String)
    (mayLack : Bool) (get : σ → Option α) (set : α → σ → σ) (s : σ) (r : Reader) {n : Node}
    (hn : Shows f n) : (Slot.of name mayLack decode get set).fill r n s = .ok (set a s) := by
  show (decode r n).map _ = _
  rw [h r hn]
  rfl

theorem Fills.foldlM {slots : List (Slot σ)} {ms : List (String × Form)} {s s' : σ}
    (h : Fills slots ms s s') {nodes : List (Key × Node)} (hn : List.Forall₂ ShowsMember ms nodes)
    (r : Reader) : nodes.foldlM (fillMember slots r) s = .ok s' := by
  induction h generalizing nodes with
  | nil =>
    cases hn
    rfl
  | cons hslot hfresh hfill _ ih =>
    cases hn with
    | cons hm hrest =>
      cases hm with
      | mk hnode =>
        rw [List.foldlM_cons, fillMember_known hslot hfresh, hfill r hnode]
        exact ih hrest

/-- A structure is read of the text of an object whose members fill it. -/
theorem decode_compact {layout : Layout σ α} {members : List (String × Value)} {s : σ} {a : α}
    (hfills : Fills layout.slots (Value.meaningMembers members) layout.empty s)
    (hbuild : layout.build s = .ok a) :
    decode (decodeStruct layout) (Value.object members).compact = .ok a := by
  obtain ⟨b, htext, hform⟩ := (Value.object members).exists_body
  obtain ⟨root, hdocument, hroot⟩ := b.exists_root
  rw [htext] at hdocument
  rw [hform] at hroot
  have hread : (decodeStruct layout ⟨(Value.object members).compact.toList, maxDepth⟩ root) =
      .ok a := by
    cases hroot with
    | object hnodes =>
      apply toOption_eq_some
      rw [decodeStruct_object]
      show ((_ : Except Failure σ).toOption.bind _) = _
      rw [hfills.foldlM hnodes]
      show (layout.build s).toOption = _
      rw [hbuild]
      rfl
  unfold decode
  simp only [hdocument, hread]

end Json

open Json

/-! ## Records -/

theorem reads_counter (n : UInt64) : Reads decodeCounter (Value.counter n).meaning n := by
  have hn : n.toNat ≤ Number.maxCount := Nat.le_of_lt_succ n.toNat_lt
  intro r node h
  rw [Value.counter, Value.meaning_count hn] at h
  show (decodeCount "u64" r node).map _ = _
  rw [reads_count "u64" hn r h]
  exact congrArg Except.ok UInt64.ofNat_toNat

theorem reads_kind (k : Kind) : Reads decodeKind (.text (some k.name)) k :=
  reads_variant (by cases k <;> rfl)

theorem reads_moment {m : Time.Moment} (h : m.IsTold) :
    Reads decodeMoment (.text (some m.text)) m :=
  reads_textAs _ (by rw [Time.Moment.looseStamp_text h])

theorem reads_id {id : Option Int} (h : ∀ n ∈ id, Number.fitsSigned n = true) :
    Reads (decodeOption decodeSigned) (Value.optional Value.integer id).meaning id := by
  cases id with
  | none => exact reads_null decodeSigned
  | some n =>
    have hn := h n rfl
    have hread := reads_signed hn
    rw [Value.meaning_integer hn] at hread
    show Reads _ (Value.integer n).meaning _
    rw [Value.meaning_integer hn]
    exact hread.option

/-- A finite score is read as some number. -/
theorem exists_reads_score {score : Score} (h : score.isFinite = true) :
    ∃ x : Float, Reads decodeFloat (Value.number (.float score.bits)).meaning x := by
  obtain ⟨m, hm⟩ := Option.isSome_iff_exists.mp (Number.figureOf_value? h)
  have hmeaning : (Value.number (.float score.bits)).meaning = .plain (some (.number m)) := by
    have hfinite : Number.isFinite score.bits = true := h
    show (if Number.isFinite score.bits then _ else _) = _
    rw [if_pos hfinite, hm]
    rfl
  rw [hmeaning]
  exact ⟨m.toFloat, reads_number m⟩

namespace Record

/-- The text of a record reads back as the record, but for the score, which is read as some
number. -/
theorem ofJson_toJson (r : Record) (hid : ∀ n ∈ r.id, Number.fitsSigned n = true)
    (hscore : r.score.isFinite = true) (htime : r.createdAt.IsTold) :
    ∃ score, ofJson r.toJson.compact = .ok { r with score } := by
  obtain ⟨x, hx⟩ := exists_reads_score hscore
  refine ⟨Score.ofFloat x, ?_⟩
  let filled : RecordFields :=
    ⟨some r.id, some r.providerId, some r.provider, some r.title, some r.kind, some r.views,
      some r.likes, some r.readingTime, some r.reactions, some x, some r.createdAt⟩
  refine decode_compact (s := filled) ?_ rfl
  refine .cons rfl rfl ((reads_id hid).fill _ _ _ _ _) ?_
  refine .cons rfl rfl ((reads_text r.providerId).fill _ _ _ _ _) ?_
  refine .cons rfl rfl ((reads_text r.provider).fill _ _ _ _ _) ?_
  refine .cons rfl rfl ((reads_text r.title).fill _ _ _ _ _) ?_
  refine .cons rfl rfl ((reads_kind r.kind).fill _ _ _ _ _) ?_
  refine .cons rfl rfl ((reads_counter r.views).fill _ _ _ _ _) ?_
  refine .cons rfl rfl ((reads_counter r.likes).fill _ _ _ _ _) ?_
  refine .cons rfl rfl ((reads_counter r.readingTime).fill _ _ _ _ _) ?_
  refine .cons rfl rfl ((reads_counter r.reactions).fill _ _ _ _ _) ?_
  refine .cons rfl rfl (hx.fill _ _ _ _ _) ?_
  exact .cons rfl rfl ((reads_moment htime).fill _ _ _ _ _) .nil

/-- A record at the ends of all ranges: the lowest id, characters of every kind, the largest
counters, the lowest score, and a leap second at the end of the last year. -/
def utmost : Record where
  id := some (-0x8000000000000000)
  providerId := "\x00\x1f\t\n\"\\/\x7f"
  provider := ""
  title := "é 漢 🎬"
  kind := .video
  views := 0xFFFFFFFFFFFFFFFF
  likes := 0
  readingTime := 1
  reactions := 0x20000000000001
  score := ⟨0xFFEFFFFFFFFFFFFF⟩
  createdAt := ⟨Time.yearStart (Time.lastYear + 1) * 86400 - 1, 1999999999⟩

theorem ofJson_toJson_utmost :
    (∀ n ∈ utmost.id, Number.fitsSigned n = true) ∧ utmost.score.isFinite = true ∧
      utmost.createdAt.IsTold ∧
        ∃ score, ofJson utmost.toJson.compact = .ok { utmost with score } := by
  have hid : ∀ n ∈ utmost.id, Number.fitsSigned n = true := by
    rintro n ⟨⟩
    decide
  have hscore : utmost.score.isFinite = true := by decide
  have htime : utmost.createdAt.IsTold :=
    ⟨by decide +kernel, Or.inr ⟨by decide, by decide +kernel⟩⟩
  exact ⟨hid, hscore, htime, ofJson_toJson utmost hid hscore htime⟩

end Record

end FeedSearch
