-- Batches may be cut and written again. A batch is taken record by record, so it
-- may as well come in two parts, and what has just been written finds every row
-- as it left it. A batch with a record that is not fit is refused for the first
-- such record and leaves no trace, not even an id that is passed over.
import FeedSearch.Proofs.RenamedStores

namespace FeedSearch

open Search

namespace Store

variable {taken batch more : List Record} {s t : Store} {r : Record}

/-! ## Records that are fit -/

/-- What the store asks of a record: a provider, a name there, and a score that is a number. -/
def Fit (r : Record) : Prop :=
  Text.isBlankText r.provider = false ∧ Text.isBlankText r.providerId = false ∧
    r.score.isFinite = true

instance (r : Record) : Decidable (Fit r) := inferInstanceAs (Decidable (_ ∧ _))

theorem fault?_eq_none_iff : fault? r = none ↔ Fit r := by
  unfold fault? Fit
  cases Text.isBlankText r.provider <;> cases Text.isBlankText r.providerId <;>
    cases r.score.isFinite <;> simp

theorem upsert_of_fit (s : Store) (h : ∀ r ∈ batch, Fit r) :
    s.upsert batch = .ok (s.upsertAll batch) := by
  have hvalid : validate batch = .ok () :=
    (validateFrom_ok 0 batch).mpr fun r hr => fault?_eq_none_iff.mpr (h r hr)
  unfold upsert
  rw [hvalid]

theorem upsert_ok_iff (s : Store) :
    (∃ ids t, s.upsert batch = .ok (ids, t)) ↔ ∀ r ∈ batch, Fit r := by
  simp only [← fault?_eq_none_iff, ← upsert_ok s batch, Prod.exists]

/-! ## Batches that are cut -/

theorem upsertAll_append (s : Store) (a b : List Record) :
    s.upsertAll (a ++ b) = ((s.upsertAll a).1 ++ ((s.upsertAll a).2.upsertAll b).1,
      ((s.upsertAll a).2.upsertAll b).2) := by
  induction a generalizing s with
  | nil => rfl
  | cons r rest ih =>
    have hrest := ih (s.upsertOne r).2
    simp only [List.cons_append, upsertAll, hrest]

/-! ## Batches that are written again -/

/-- Records of keys that are known bring no key. -/
theorem keysOf_append_known (h : ∀ r ∈ more, r.naturalKey ∈ keysOf taken) :
    keysOf (taken ++ more) = keysOf taken := by
  induction more using List.reverseRecOn with
  | nil => rw [List.append_nil]
  | append_singleton more r ih =>
    have hmore := ih fun r hr => h r (List.mem_append_left _ hr)
    have hr : r.naturalKey ∈ keysOf (taken ++ more) := by
      rw [hmore]
      exact h r (List.mem_append_right _ (List.mem_singleton_self r))
    rw [← List.append_assoc, keysOf_append_old hr, hmore]

theorem keysOf_again : keysOf (taken ++ batch ++ batch) = keysOf (taken ++ batch) :=
  keysOf_append_known fun r hr => mem_keysOf.mpr ⟨r, List.mem_append_right _ hr, rfl⟩

theorem rank_again (key : NaturalKey) :
    rank (taken ++ batch ++ batch) key = rank (taken ++ batch) key := by
  unfold rank
  rw [keysOf_again]

/-- A key has its first record and its last one from the first time that a batch is written. -/
theorem entryOf_again (key : NaturalKey) :
    entryOf (taken ++ batch ++ batch) key = entryOf (taken ++ batch) key := by
  have hsplit : occurrences (taken ++ batch ++ batch) key =
      occurrences taken key ++ occurrences batch key ++ occurrences batch key := by
    simp only [occurrences, List.filter_append]
  have honce : occurrences (taken ++ batch) key =
      occurrences taken key ++ occurrences batch key := List.filter_append ..
  have hfirst : (occurrences (taken ++ batch ++ batch) key).head? =
      (occurrences (taken ++ batch) key).head? := by
    rw [hsplit, honce]
    cases occurrences taken key <;> cases occurrences batch key <;> rfl
  have hlast : (occurrences (taken ++ batch ++ batch) key).getLast? =
      (occurrences (taken ++ batch) key).getLast? := by
    rw [hsplit, honce]
    simp only [List.getLast?_append]
    cases (occurrences batch key).getLast? <;> rfl
  simp only [entryOf, rank_again, hfirst, hlast]

/-- A store is settled by the records that it has taken. -/
theorem Booked.eq_of_again (hs : Booked (taken ++ batch) s)
    (ht : Booked (taken ++ batch ++ batch) t) : t = s := by
  have hlast : t.lastId = s.lastId := by rw [ht.lastId, hs.lastId, keysOf_again]
  have hrows : t.byId = s.byId := by
    rw [ht.byId_eq, hs.byId_eq, keysOf_again]
    exact List.map_congr_left fun key _ => entryOf_again key
  have hkeys : t.byKey = s.byKey := by
    rw [ht.byKey, hs.byKey, keysOf_again]
    exact List.map_congr_left fun key _ => by rw [rank_again]
  cases s
  cases t
  simp_all

/-- Written again at once, a batch changes nothing and gives the same ids. -/
theorem Booked.upsertAll_again (h : Booked taken s) (batch : List Record) :
    (s.upsertAll batch).2.upsertAll batch = s.upsertAll batch := by
  have honce := h.upsertAll batch
  refine Prod.ext ?_ (honce.eq_of_again (honce.upsertAll batch))
  rw [honce.upsertAll_ids, h.upsertAll_ids]
  exact List.map_congr_left fun r _ => rank_again r.naturalKey

/-! ## Batches that are refused -/

/-- A batch is refused for the first record with a fault. -/
theorem validateFrom_first (index : Nat) {front : List Record} {f : RecordFault}
    (hfront : ∀ r ∈ front, fault? r = none) (hr : fault? r = some f) (rest : List Record) :
    validateFrom index (front ++ r :: rest) =
      .error (.invalidRecord (index + front.length) f.message) := by
  induction front generalizing index with
  | nil => simp [validateFrom, hr]
  | cons first front ih =>
    have hfirst := hfront first List.mem_cons_self
    have hlater := ih (index + 1) fun r hr => hfront r (List.mem_cons_of_mem _ hr)
    simp only [List.cons_append, validateFrom, hfirst, hlater, List.length_cons]
    congr 2
    omega

theorem upsert_refused (s : Store) {front : List Record} (hfront : ∀ r ∈ front, Fit r)
    (hr : ¬Fit r) (rest : List Record) : ∃ f, fault? r = some f ∧
      s.upsert (front ++ r :: rest) = .error (.invalidRecord front.length f.message) := by
  obtain ⟨f, hf⟩ := Option.ne_none_iff_exists'.mp fun h => hr (fault?_eq_none_iff.mp h)
  have hvalid := validateFrom_first 0
    (fun r hr => fault?_eq_none_iff.mpr (hfront r hr)) hf rest
  refine ⟨f, hf, ?_⟩
  rw [upsert, validate, hvalid, Nat.zero_add]

/-- A batch that is refused is as good as one that never came. -/
theorem takeBatches_refused {e : StoreError} (h : s.upsert batch = .error e)
    (later : List (List Record)) :
    s.takeBatches (batch :: later) =
      (⟨batch, .error e⟩ :: (s.takeBatches later).1, (s.takeBatches later).2) := by
  rw [takeBatches]
  simp only [h]

end Store

/-- A store in reach that refuses a batch says why and stays as it is. -/
theorem Search.StoreLink.upsert_refused {l : StoreLink} {batch : List Record} {e : StoreError}
    (hreach : l.InReach) (h : l.store.upsert batch = .error e) :
    (l.upsert batch).1 = .error e ∧ (l.upsert batch).2.store = l.store := by
  obtain ⟨l', hcall, hstore, _⟩ := hreach.call .upsert
  simp only [StoreLink.upsert, hcall, hstore, h, and_self]

namespace Store

/-! ## The law -/

/-- Whatever batches a store has taken, it takes one exactly if all records are fit. It may come in
two parts, which leave the same store and give the same ids one after the other, and if it comes
again at once nothing changes. If a record is not fit, the answer names the place of the first such
record and what it lacks, the store stays as it is, and whatever comes later is answered as if the
batch had never come. -/
theorem a_batch_may_be_cut_and_come_again (batches : List (List Record)) (a b : List Record) :
    let s := (takeBatches .empty batches).2
    ((∃ ids t, s.upsert (a ++ b) = .ok (ids, t)) ↔ (∀ r ∈ a, Fit r) ∧ ∀ r ∈ b, Fit r) ∧
    (∀ ids t, s.upsert (a ++ b) = .ok (ids, t) →
      (∃ first middle second, s.upsert a = .ok (first, middle) ∧
        middle.upsert b = .ok (second, t) ∧ ids = first ++ second) ∧
      t.upsert (a ++ b) = .ok (ids, t)) ∧
    ∀ front r rest, a ++ b = front ++ r :: rest → (∀ x ∈ front, Fit x) → ¬Fit r →
      ∃ f, fault? r = some f ∧
        s.upsert (a ++ b) = .error (.invalidRecord front.length f.message) ∧
        (∀ l : StoreLink, l.InReach → l.store = s →
          (l.upsert (a ++ b)).1 = .error (.invalidRecord front.length f.message) ∧
          (l.upsert (a ++ b)).2.store = s) ∧
        ∀ later, s.takeBatches ((a ++ b) :: later) =
          (⟨a ++ b, .error (.invalidRecord front.length f.message)⟩ :: (s.takeBatches later).1,
            (s.takeBatches later).2) := by
  intro s
  have hbooked : Booked (accepted (takeBatches .empty batches).1) s :=
    (Booked.empty.takeBatches batches).1
  refine ⟨?_, fun ids t hok => ?_, fun front r rest hsplit hfront hr => ?_⟩
  · rw [upsert_ok_iff, List.forall_mem_append]
  · have hfit := (upsert_ok_iff s).mp ⟨ids, t, hok⟩
    obtain ⟨ha, hb⟩ := List.forall_mem_append.mp hfit
    have hwhole := upsert_of_fit s hfit
    obtain ⟨rfl, rfl⟩ := Prod.mk.inj (Except.ok.inj (hwhole.symm.trans hok))
    constructor
    · have hsecond := upsert_of_fit (s.upsertAll a).2 hb
      rw [upsertAll_append]
      exact ⟨_, _, _, upsert_of_fit s ha, hsecond, rfl⟩
    · rw [upsert_of_fit _ hfit, hbooked.upsertAll_again]
  · rw [hsplit]
    obtain ⟨f, hf, hrefused⟩ := s.upsert_refused hfront hr rest
    refine ⟨f, hf, hrefused, fun l hreach hl => ?_, takeBatches_refused hrefused⟩
    rw [← hl] at hrefused ⊢
    exact StoreLink.upsert_refused hreach hrefused

/-- The second part brings two records of one key that the first part has brought too, and the store
knows another of its keys already. Written at once or in two parts, the post gets its last words and
keeps its first time; with a record of nobody before it, it gets nothing. -/
theorem a_post_is_revised_twice_in_one_batch :
    let old := Record.unseen "posts" "1" "old"
    let post := Record.unseen "posts" "2" "draft"
    let again := { post with title := "text", createdAt := ⟨5, 0⟩ }
    let atLast := { post with title := "last text", createdAt := ⟨9, 0⟩ }
    let nobodys := Record.unseen " " "3" "lost"
    let s := (takeBatches .empty [[old]]).2
    (∃ t first middle second, s.upsert ([post, old] ++ [again, atLast]) = .ok ([2, 1, 2, 2], t) ∧
      s.upsert [post, old] = .ok (first, middle) ∧
      middle.upsert [again, atLast] = .ok (second, t) ∧ first ++ second = [2, 1, 2, 2] ∧
      t.upsert ([post, old] ++ [again, atLast]) = .ok ([2, 1, 2, 2], t) ∧
      t.get 2 = .ok { atLast with id := some 2, createdAt := post.createdAt }) ∧
    s.upsert ([post] ++ [nobodys, again]) = .error (.invalidRecord 1 "empty provider name") := by
  intro old post again atLast nobodys s
  constructor
  · obtain ⟨haccepts, hwhole, _⟩ :=
      a_batch_may_be_cut_and_come_again [[old]] [post, old] [again, atLast]
    obtain ⟨ids, t, hok⟩ := haccepts.mpr (by decide +kernel)
    obtain ⟨⟨first, middle, second, hfirst, hsecond, hids⟩, hagain⟩ := hwhole ids t hok
    have hanswer : (s.upsert ([post, old] ++ [again, atLast])).map (·.1) = .ok [2, 1, 2, 2] := by
      decide +kernel
    have hrow : (s.upsert ([post, old] ++ [again, atLast])).bind (·.2.get 2) =
        .ok { atLast with id := some 2, createdAt := post.createdAt } := by decide +kernel
    rw [hok] at hanswer hrow
    obtain rfl : ids = [2, 1, 2, 2] := Except.ok.inj hanswer
    exact ⟨t, first, middle, second, hok, hfirst, hsecond, hids.symm, hagain, hrow⟩
  · obtain ⟨_, _, hrefuses⟩ :=
      a_batch_may_be_cut_and_come_again [[old]] [post] [nobodys, again]
    obtain ⟨f, hf, hrefused, _⟩ :=
      hrefuses [post] nobodys [again] rfl (by decide +kernel) (by decide +kernel)
    obtain rfl : RecordFault.blankProvider = f := Option.some.inj (.trans (by decide +kernel) hf)
    exact hrefused

end Store

end FeedSearch
