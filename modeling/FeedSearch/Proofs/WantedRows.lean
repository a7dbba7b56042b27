-- Which rows a search finds: those of the wanted kind whose titles hold every word of
-- the query, both in lower case. A word that stands in a title stands there in lower
-- case too, unless a capital sigma of it ends a word in one of the two and not in the
-- other: then it has two small forms, and the place is missed.
import FeedSearch.Store
import Mathlib.Data.List.Infix

namespace FeedSearch

namespace Text

/-! ## A piece of a text in lower case -/

/-- Whether a capital sigma between two texts ends a word; the text before it is read backwards. -/
def endsWord (before after : List Char) : Bool := meetsCased before && !meetsCased after

/-- The lower case of a piece of a text, between the text before it, read backwards, and the text
after it. -/
def lowerWithin (before after : List Char) : List Char → List Char
  | [] => []
  | c :: rest => lowerBetween before c (rest ++ after) ++ lowerWithin (c :: before) after rest

/-- Every capital sigma of a piece ends a word in the text exactly if it does so in the piece on its
own. -/
def SigmasKeep (before piece after : List Char) : Prop :=
  ∀ front back, piece = front ++ 'Σ' :: back →
    endsWord (front.reverse ++ before.reverse) (back ++ after) = endsWord front.reverse back

theorem lowerFrom_append (before s t : List Char) :
    lowerFrom before (s ++ t) = lowerWithin before t s ++ lowerFrom (s.reverse ++ before) t := by
  induction s generalizing before with
  | nil => rfl
  | cons c s ih =>
    rw [List.cons_append, lowerFrom, ih, lowerWithin, List.append_assoc, List.reverse_cons,
      List.append_assoc, List.singleton_append]

/-- The lower case of a text holds that of each piece, as it is between the two other pieces. -/
theorem lowerWithin_infix (before piece after : List Char) :
    lowerWithin before.reverse after piece <:+: lowerChars (before ++ piece ++ after) := by
  refine ⟨lowerWithin [] (piece ++ after) before,
    lowerFrom (piece.reverse ++ before.reverse) after, ?_⟩
  rw [lowerChars, List.append_assoc before, lowerFrom_append [], List.append_nil, lowerFrom_append,
    List.append_assoc]

theorem lowerBetween_length (before after before' after' : List Char) (c : Char) :
    (lowerBetween before c after).length = (lowerBetween before' c after').length := by
  unfold lowerBetween
  split
  · split <;> split <;> rfl
  · rfl

/-- The capital sigma alone looks at its neighbours. -/
theorem lowerBetween_eq_iff {before after before' after' : List Char} {c : Char} :
    lowerBetween before c after = lowerBetween before' c after' ↔
      (c = 'Σ' → endsWord before after = endsWord before' after') := by
  by_cases hc : c = 'Σ'
  · have hsigma : ∀ before after : List Char,
        lowerBetween before c after = if endsWord before after then ['ς'] else ['σ'] := by
      intro before after
      subst hc
      rfl
    rw [hsigma, hsigma]
    cases endsWord before after <;> cases endsWord before' after' <;> simp [hc]
  · simp [lowerBetween, hc]

/-- A piece between the texts around it has the lower case that it has without those that lie
farther off, exactly if these decide the form of none of its sigmas. -/
theorem lowerWithin_eq_lowerFrom_iff (near far after piece : List Char) :
    lowerWithin (near ++ far) after piece = lowerFrom near piece ↔
      ∀ front back, piece = front ++ 'Σ' :: back →
        endsWord (front.reverse ++ (near ++ far)) (back ++ after) =
          endsWord (front.reverse ++ near) back := by
  induction piece generalizing near with
  | nil => simp [lowerWithin, lowerFrom]
  | cons c piece ih =>
    have hrest := ih (c :: near)
    rw [List.cons_append] at hrest
    rw [lowerWithin, lowerFrom]
    constructor
    · intro heq front back hsplit
      obtain ⟨hfirst, hrest'⟩ := List.append_inj heq (lowerBetween_length _ _ _ _ c)
      cases front with
      | nil =>
        obtain ⟨rfl, rfl⟩ := List.cons.inj hsplit
        exact lowerBetween_eq_iff.mp hfirst rfl
      | cons d front =>
        obtain ⟨rfl, hsplit'⟩ := List.cons.inj hsplit
        simpa using hrest.mp hrest' front back hsplit'
    · intro hkeep
      refine congrArg₂ (· ++ ·) (lowerBetween_eq_iff.mpr ?_) (hrest.mpr ?_)
      · rintro rfl
        exact hkeep [] piece rfl
      · rintro front back rfl
        simpa using hkeep (c :: front) back rfl

/-- A piece stands in the lower-cased text as it would on its own exactly if its sigmas keep their
forms. -/
theorem lowerWithin_eq_iff {before piece after : List Char} :
    lowerWithin before.reverse after piece = lowerChars piece ↔ SigmasKeep before piece after := by
  have h := lowerWithin_eq_lowerFrom_iff [] before.reverse after piece
  simp only [List.nil_append, List.append_nil] at h
  exact h

theorem SigmasKeep.infix {before piece after : List Char} (h : SigmasKeep before piece after) :
    lowerChars piece <:+: lowerChars (before ++ piece ++ after) :=
  lowerWithin_eq_iff.mpr h ▸ lowerWithin_infix before piece after

end Text

namespace Store

/-! ## Wanted rows -/

theorem occursIn_iff {needle s : List Char} : occursIn needle s = true ↔ needle <:+: s := by
  induction s with
  | nil => simp [occursIn]
  | cons c s ih =>
    rw [occursIn, Bool.or_eq_true, List.isPrefixOf_iff_prefix, ih, List.infix_cons_iff]

/-- A row that a request asks for: it is of the wanted kind, if there is one, and its title holds
every word of the query, both in lower case. -/
def Wanted (r : Request) (row : Record) : Prop :=
  (r.kind = none ∨ r.kind = some row.kind) ∧
    ∀ w ∈ Text.words r.query.toList, Text.lowerChars w <:+: Text.lowerChars row.title.toList

instance (r : Request) : DecidablePred (Wanted r) := fun _ => inferInstanceAs (Decidable (_ ∧ _))

theorem passes_iff {kind : Kind} {filter : Option Kind} :
    kind.passes filter = true ↔ filter = none ∨ filter = some kind := by
  cases filter with
  | none => simp [Kind.passes]
  | some wanted =>
    simp only [Kind.passes, Option.all_some, beq_iff_eq, reduceCtorEq, Option.some.injEq, false_or]

theorem isMatch_iff {r : Request} {row : Record} :
    isMatch (terms r.query) r.kind row = true ↔ Wanted r row := by
  rw [isMatch, Bool.and_eq_true, passes_iff, terms, List.all_map, List.all_eq_true]
  exact and_congr_right fun _ => forall₂_congr fun _ _ => occursIn_iff

/-- The hits of a request are the wanted rows in some order. -/
theorem hits_perm (s : Store) (r : Request) :
    (s.hits r).Perm (s.rows.filter (Wanted r ·)) := by
  refine (List.mergeSort_perm _ _).trans (.of_eq (List.filter_congr fun row _ => ?_))
  rw [Bool.eq_iff_iff, isMatch_iff, decide_eq_true_iff]

theorem mem_hits {s : Store} {r : Request} {row : Record} :
    row ∈ s.hits r ↔ row ∈ s.rows ∧ Wanted r row := by
  rw [(hits_perm s r).mem_iff, List.mem_filter, decide_eq_true_iff]

/-! ## The law -/

/-- A row of the wanted kind is among the hits if every word of the query stands in its title at a
place where its capital sigmas end words exactly if they do so in the word on its own. -/
theorem a_literal_term_is_found_where_its_sigmas_keep_their_form (s : Store) (r : Request)
    {row : Record} (hrow : row ∈ s.rows) (hkind : row.kind.passes r.kind = true)
    (hterms : ∀ w ∈ Text.words r.query.toList, ∃ before after,
      row.title.toList = before ++ w ++ after ∧ Text.SigmasKeep before w after) :
    row ∈ s.hits r ∧ (s.search r).2 = (s.hits r).length := by
  refine ⟨mem_hits.mpr ⟨hrow, passes_iff.mp hkind, fun w hw => ?_⟩, rfl⟩
  obtain ⟨before, after, htitle, hkeep⟩ := hterms w hw
  rw [htitle]
  exact hkeep.infix

/-! ## A sigma in the way -/

/-- A title with capital sigmas inside its word and at its end. -/
def odyssey : Record := .unseen "posts" "1" "Η ΟΔΥΣΣΕΙΑ ΤΟΥ ΟΔΥΣΣΕΑΣ"

/-- The row of that title in a store that has taken nothing else. -/
def odysseyRow : Record := { odyssey with id := some 1 }

def odysseyStore : Store := (empty.upsertAll [odyssey]).2

/-- Pieces of words are found if their sigmas are inside, or at the end of a word of the title. -/
theorem a_word_is_found_by_its_front_and_by_its_end :
    odysseyRow ∈ odysseyStore.hits (.ofQuery "ΟΔΥΣΣΕ ΕΑΣ") ∧
      (odysseyStore.search (.ofQuery "ΟΔΥΣΣΕ ΕΑΣ")).2 = 1 := by
  have hrow : odysseyRow ∈ odysseyStore.rows := by decide +kernel
  have hwords : Text.words "ΟΔΥΣΣΕ ΕΑΣ".toList = ["ΟΔΥΣΣΕ".toList, "ΕΑΣ".toList] := by
    decide +kernel
  have hfound := a_literal_term_is_found_where_its_sigmas_keep_their_form odysseyStore
    (.ofQuery "ΟΔΥΣΣΕ ΕΑΣ") hrow rfl ?_
  · exact ⟨hfound.1, by decide +kernel⟩
  · show ∀ w ∈ Text.words "ΟΔΥΣΣΕ ΕΑΣ".toList, _
    rw [hwords]
    simp only [List.mem_cons, List.not_mem_nil, or_false, forall_eq_or_imp, forall_eq]
    refine ⟨⟨"Η ".toList, "ΙΑ ΤΟΥ ΟΔΥΣΣΕΑΣ".toList, by decide +kernel, ?_⟩,
      ⟨"Η ΟΔΥΣΣΕΙΑ ΤΟΥ ΟΔΥΣΣ".toList, [], by decide +kernel, ?_⟩⟩
    · exact Text.lowerWithin_eq_iff.mp (by decide +kernel)
    · exact Text.lowerWithin_eq_iff.mp (by decide +kernel)

/-- The front of a word that breaks off at a sigma is not found, though it stands in the title. -/
theorem a_sigma_at_the_end_of_a_term_hides_the_term :
    empty.upsert [odyssey] = .ok ([1], odysseyStore) ∧ odysseyRow ∈ odysseyStore.rows ∧
      odysseyRow.kind.passes (Request.ofQuery "ΟΔΥΣ").kind = true ∧
      (∀ w ∈ Text.words (Request.ofQuery "ΟΔΥΣ").query.toList, w <:+: odysseyRow.title.toList) ∧
      odysseyRow ∉ odysseyStore.hits (.ofQuery "ΟΔΥΣ") ∧
      (odysseyStore.search (.ofQuery "ΟΔΥΣ")).2 = 0 := by
  refine ⟨?_, by decide +kernel, rfl, by decide +kernel, by decide +kernel, by decide +kernel⟩
  rfl

end Store

end FeedSearch
