-- Two readings of a feed that differ in the notation of ids. Where an id stands is
-- told by the lists and objects around it; a reader that is given the same tokens
-- but for such ids builds the same tree but for them.
import FeedSearch.Feed.JsonFeed
import FeedSearch.Proofs.JsonDocuments

namespace FeedSearch.Feed

open Json

/-! ## Places -/

/-- What a value in a feed is for. -/
inductive Place where
  | feed
  | contents
  | item
  | id
  | other
  deriving DecidableEq, Repr

namespace Place

/-- The place of a member of an object, if its name can be read. -/
def member : Place → Option String → Place
  | .feed, some "contents" => .contents
  | .item, some "id" => .id
  | _, _ => .other

/-- The place of an item of a list: a structure may be written as the list of its fields. -/
def nth : Place → Nat → Place
  | .feed, 0 => .contents
  | .contents, _ => .item
  | .item, 0 => .id
  | _, _ => .other

/-- The place of the value that the lists and objects around it wait for. -/
def inside : List Frame → Place
  | [] => .feed
  | .list _ items :: frames => (inside frames).nth items.length
  | .member _ _ key :: frames => (inside frames).member key.name.toOption

theorem other_member (name : Option String) : other.member name = .other := by
  cases name <;> rfl

theorem feed_member {name : String} (h : name ≠ "contents") :
    feed.member (some name) = .other := by
  unfold member
  split
  · rename_i he
    exact absurd (Option.some.inj he) h
  · rename_i hfeed _
    cases hfeed
  · rfl

theorem item_member {name : String} (h : name ≠ "id") : item.member (some name) = .other := by
  unfold member
  split
  · rename_i hitem _
    cases hitem
  · rename_i he
    exact absurd (Option.some.inj he) h
  · rfl

theorem other_nth (i : Nat) : other.nth i = .other := by
  cases i <;> rfl

end Place

/-! ## Trees -/

section Trees

variable (x : String) (v : Option Scalar)

mutual

/-- Two trees at a place that say the same, but where an id in the first is the text `x` it may be
the value `v` in the second. The flag tells whether it is so somewhere. -/
inductive Swapped : Bool → Place → Node → Node → Prop where
  | id {start stop start' stop' : Nat} {s : Except Fault String} {w : Except Fault Scalar}
      (hs : s.toOption = some x) (hw : w.toOption = v) :
      Swapped true .id (.text start stop ⟨s, none⟩) (.plain start' stop' ⟨w, none⟩)
  | text {p : Place} {start stop start' stop' : Nat} {s s' : Except Fault String}
      (h : s.toOption = s'.toOption) :
      Swapped false p (.text start stop ⟨s, none⟩) (.text start' stop' ⟨s', none⟩)
  | plain {p : Place} {start stop start' stop' : Nat} {w w' : Except Fault Scalar}
      (h : w.toOption = w'.toOption) :
      Swapped false p (.plain start stop ⟨w, none⟩) (.plain start' stop' ⟨w', none⟩)
  | list {b : Bool} {p : Place} {start stop start' stop' : Nat} {items items' : List Node}
      (h : SwappedItems b p 0 items items') :
      Swapped b p (.list start items (.closed stop)) (.list start' items' (.closed stop'))
  | object {b : Bool} {p : Place} {start stop start' stop' : Nat}
      {members members' : List (Key × Node)} (h : SwappedMembers b p members members') :
      Swapped b p (.object start members (.closed stop)) (.object start' members' (.closed stop'))

/-- The items of two lists, from an index on. -/
inductive SwappedItems : Bool → Place → Nat → List Node → List Node → Prop where
  | nil {p : Place} {i : Nat} : SwappedItems false p i [] []
  | cons {b c : Bool} {p : Place} {i : Nat} {n n' : Node} {items items' : List Node}
      (h : Swapped b (p.nth i) n n') (hrest : SwappedItems c p (i + 1) items items') :
      SwappedItems (b || c) p i (n :: items) (n' :: items')

/-- The members of two objects. -/
inductive SwappedMembers : Bool → Place → List (Key × Node) → List (Key × Node) → Prop where
  | nil {p : Place} : SwappedMembers false p [] []
  | cons {b c : Bool} {p : Place} {key key' : Key} {n n' : Node}
      {members members' : List (Key × Node)} (hname : key.name.toOption = key'.name.toOption)
      (h : Swapped b (p.member key.name.toOption) n n')
      (hrest : SwappedMembers c p members members') :
      SwappedMembers (b || c) p ((key, n) :: members) ((key', n') :: members')

end

/-- The lists and objects around a value. -/
inductive SwappedFrames : Bool → List Frame → List Frame → Prop where
  | nil : SwappedFrames false [] []
  | list {b c : Bool} {frames frames' : List Frame} {start start' : Nat}
      {items items' : List Node} (hframes : SwappedFrames b frames frames')
      (h : SwappedItems x v c (.inside frames) 0 items.reverse items'.reverse) :
      SwappedFrames (b || c) (.list start items :: frames) (.list start' items' :: frames')
  | member {b c : Bool} {frames frames' : List Frame} {start start' : Nat}
      {members members' : List (Key × Node)} {key key' : Key}
      (hframes : SwappedFrames b frames frames')
      (h : SwappedMembers x v c (.inside frames) members.reverse members'.reverse)
      (hname : key.name.toOption = key'.name.toOption) :
      SwappedFrames (b || c) (.member start members key :: frames)
        (.member start' members' key' :: frames')

/-- Two readers that have read the same but for ids. -/
inductive SwappedStates : Bool → State → State → Prop where
  | value {b : Bool} {frames frames' : List Frame} (h : SwappedFrames x v b frames frames') :
      SwappedStates b (.value frames) (.value frames')
  | listStart {b : Bool} {frames frames' : List Frame} {start start' : Nat}
      (h : SwappedFrames x v b frames frames') :
      SwappedStates b (.listStart start frames) (.listStart start' frames')
  | listComma {b : Bool} {frames frames' : List Frame} {start start' : Nat}
      {items items' : List Node}
      (h : SwappedFrames x v b (.list start items :: frames) (.list start' items' :: frames')) :
      SwappedStates b (.listComma start items frames) (.listComma start' items' frames')
  | afterItem {b : Bool} {frames frames' : List Frame} {start start' : Nat}
      {items items' : List Node}
      (h : SwappedFrames x v b (.list start items :: frames) (.list start' items' :: frames')) :
      SwappedStates b (.afterItem start items frames) (.afterItem start' items' frames')
  | objectStart {b : Bool} {frames frames' : List Frame} {start start' : Nat}
      (h : SwappedFrames x v b frames frames') :
      SwappedStates b (.objectStart start frames) (.objectStart start' frames')
  | objectComma {b c : Bool} {frames frames' : List Frame} {start start' : Nat}
      {members members' : List (Key × Node)} (hframes : SwappedFrames x v b frames frames')
      (h : SwappedMembers x v c (.inside frames) members.reverse members'.reverse) :
      SwappedStates (b || c) (.objectComma start members frames)
        (.objectComma start' members' frames')
  | afterKey {b : Bool} {frames frames' : List Frame} {start start' : Nat}
      {members members' : List (Key × Node)} {key key' : Key}
      (h : SwappedFrames x v b (.member start members key :: frames)
        (.member start' members' key' :: frames')) :
      SwappedStates b (.afterKey start members key frames) (.afterKey start' members' key' frames')
  | afterMember {b c : Bool} {frames frames' : List Frame} {start start' : Nat}
      {members members' : List (Key × Node)} (hframes : SwappedFrames x v b frames frames')
      (h : SwappedMembers x v c (.inside frames) members.reverse members'.reverse) :
      SwappedStates (b || c) (.afterMember start members frames)
        (.afterMember start' members' frames')
  | finished {b : Bool} {root root' : Node} (h : Swapped x v b .feed root root') :
      SwappedStates b (.finished root) (.finished root')

end Trees

/-! ## One token -/

section Steps

variable {x : String} {v : Option Scalar} {b c : Bool} {p : Place}

theorem SwappedItems.concat {i : Nat} {items items' : List Node} {n n' : Node}
    (h : SwappedItems x v b p i items items') (hn : Swapped x v c (p.nth (i + items.length)) n n') :
    SwappedItems x v (b || c) p i (items ++ [n]) (items' ++ [n']) := by
  induction items generalizing b i items' with
  | nil =>
    cases h
    have hlast := SwappedItems.cons hn .nil
    rwa [Bool.or_false] at hlast
  | cons m items ih =>
    cases h with
    | @cons b₁ b₂ _ _ _ m' _ items' hm hitems =>
      have hindex : i + (m :: items).length = i + 1 + items.length := by
        rw [List.length_cons]
        omega
      rw [hindex] at hn
      rw [Bool.or_assoc]
      exact .cons hm (ih hitems hn)

theorem SwappedMembers.concat {members members' : List (Key × Node)} {key key' : Key} {n n' : Node}
    (h : SwappedMembers x v b p members members') (hname : key.name.toOption = key'.name.toOption)
    (hn : Swapped x v c (p.member key.name.toOption) n n') :
    SwappedMembers x v (b || c) p (members ++ [(key, n)]) (members' ++ [(key', n')]) := by
  induction members generalizing b members' with
  | nil =>
    cases h
    have hlast := SwappedMembers.cons hname hn .nil
    rwa [Bool.or_false] at hlast
  | cons m members ih =>
    cases h with
    | cons hname' hm hmembers =>
      rw [Bool.or_assoc]
      exact .cons hname' hm (ih hmembers)

/-- A list has no items at first. -/
theorem SwappedFrames.openList {frames frames' : List Frame}
    (h : SwappedFrames x v b frames frames') (start start' : Nat) :
    SwappedFrames x v b (.list start [] :: frames) (.list start' [] :: frames') := by
  have hopen : SwappedFrames x v (b || false) (.list start [] :: frames)
    (.list start' [] :: frames') := .list h .nil
  rwa [Bool.or_false] at hopen

/-- A value goes to the list or object that waits for it, in both readings. -/
theorem swapped_put {frames frames' : List Frame} (hframes : SwappedFrames x v b frames frames')
    {n n' : Node} (hn : Swapped x v c (.inside frames) n n') :
    SwappedStates x v (b || c) (.put n frames) (.put n' frames') := by
  cases hframes with
  | nil => exact .finished hn
  | @list b₁ b₂ frames frames' start start' items items' hframes hitems =>
    have hlast : Swapped x v c ((Place.inside frames).nth (0 + items.reverse.length)) n n' := by
      simpa [Place.inside] using hn
    have hall := hitems.concat hlast
    rw [← List.reverse_cons, ← List.reverse_cons] at hall
    rw [Bool.or_assoc]
    exact .afterItem (.list hframes hall)
  | @member b₁ b₂ frames frames' start start' members members' key key' hframes hmembers hname =>
    have hlast : Swapped x v c ((Place.inside frames).member key.name.toOption) n n' := by
      simpa [Place.inside] using hn
    have hall := hmembers.concat hname hlast
    rw [← List.reverse_cons, ← List.reverse_cons] at hall
    rw [Bool.or_assoc]
    exact .afterMember hframes hall

/-- A value without ids goes to the list or object that waits for it. -/
theorem swapped_put_same {frames frames' : List Frame}
    (hframes : SwappedFrames x v b frames frames') {n n' : Node}
    (hn : Swapped x v false (.inside frames) n n') :
    SwappedStates x v b (.put n frames) (.put n' frames') := by
  have hput := swapped_put hframes hn
  rwa [Bool.or_false] at hput

section Tokens

variable {frames frames' : List Frame} {l l' : Lexeme}

theorem swapped_valueToken (hframes : SwappedFrames x v b frames frames') (hl : l.Alike l') :
    (∃ d, State.valueToken frames l = .halted d) ∨
      SwappedStates x v b (.valueToken frames l) (.valueToken frames' l') := by
  obtain ⟨start, stop, t⟩ := l
  obtain ⟨start', stop', t'⟩ := l'
  cases hl with
  | openList => exact Or.inr (.listStart hframes)
  | openObject => exact Or.inr (.objectStart hframes)
  | text h => exact Or.inr (swapped_put_same hframes (.text h))
  | plain h => exact Or.inr (swapped_put_same hframes (.plain h))
  | _ => exact Or.inl ⟨_, rfl⟩

theorem swapped_keyToken {start start' : Nat} {members members' : List (Key × Node)}
    (hframes : SwappedFrames x v b frames frames')
    (hmembers : SwappedMembers x v c (.inside frames) members.reverse members'.reverse)
    (hl : l.Alike l') :
    (∃ d, State.keyToken start members frames l = .halted d) ∨
      SwappedStates x v (b || c) (.keyToken start members frames l)
        (.keyToken start' members' frames' l') := by
  obtain ⟨lstart, lstop, t⟩ := l
  obtain ⟨lstart', lstop', t'⟩ := l'
  cases hl with
  | text h => exact Or.inr (.afterKey (.member hframes hmembers h))
  | _ => exact Or.inl ⟨_, rfl⟩

/-- After the same token two readers still have read the same but for ids, if the first of them goes
on. -/
theorem swapped_next {state state' : State} (h : SwappedStates x v b state state')
    (hl : l.Alike l') :
    (∃ d, state.next l = .halted d) ∨ SwappedStates x v b (state.next l) (state'.next l') := by
  cases h with
  | value hframes => exact swapped_valueToken hframes hl
  | @listStart b frames frames' start start' hframes =>
    by_cases hclose : l.token = .closeList
    · have hclose' := hl.eq_closeList_iff.mp hclose
      simp only [State.next, hclose, hclose']
      exact Or.inr (swapped_put_same hframes (.list .nil))
    · have hclose' := mt hl.eq_closeList_iff.mpr hclose
      rw [State.listStart_awaits start frames l hclose,
        State.listStart_awaits start' frames' l' hclose']
      exact swapped_valueToken (hframes.openList start start') hl
  | @listComma b frames frames' start start' items items' hframes =>
    by_cases hclose : l.token = .closeList
    · left
      simp only [State.next, hclose]
      exact ⟨_, rfl⟩
    · have hclose' := mt hl.eq_closeList_iff.mpr hclose
      rw [State.listComma_awaits start items frames l hclose,
        State.listComma_awaits start' items' frames' l' hclose']
      exact swapped_valueToken hframes hl
  | afterItem hframes =>
    obtain ⟨lstart, lstop, t⟩ := l
    obtain ⟨lstart', lstop', t'⟩ := l'
    cases hl with
    | comma => exact Or.inr (.listComma hframes)
    | closeList =>
      cases hframes with
      | list hframes hitems => exact Or.inr (swapped_put hframes (.list hitems))
    | _ => exact Or.inl ⟨_, rfl⟩
  | @objectStart b frames frames' start start' hframes =>
    by_cases hclose : l.token = .closeObject
    · have hclose' := hl.eq_closeObject_iff.mp hclose
      simp only [State.next, hclose, hclose']
      exact Or.inr (swapped_put_same hframes (.object .nil))
    · have hclose' := mt hl.eq_closeObject_iff.mpr hclose
      have hkey : (∃ d, State.keyToken start [] frames l = .halted d) ∨
          SwappedStates x v (b || false) (.keyToken start [] frames l)
            (.keyToken start' [] frames' l') := swapped_keyToken hframes .nil hl
      rw [Bool.or_false] at hkey
      rw [State.objectStart_awaits start frames l hclose,
        State.objectStart_awaits start' frames' l' hclose']
      exact hkey
  | @objectComma b c frames frames' start start' members members' hframes hmembers =>
    by_cases hclose : l.token = .closeObject
    · left
      simp only [State.next, hclose]
      exact ⟨_, rfl⟩
    · have hclose' := mt hl.eq_closeObject_iff.mpr hclose
      rw [State.objectComma_awaits start members frames l hclose,
        State.objectComma_awaits start' members' frames' l' hclose']
      exact swapped_keyToken hframes hmembers hl
  | afterKey hframes =>
    obtain ⟨lstart, lstop, t⟩ := l
    obtain ⟨lstart', lstop', t'⟩ := l'
    cases hl with
    | colon => exact Or.inr (.value hframes)
    | _ => exact Or.inl ⟨_, rfl⟩
  | afterMember hframes hmembers =>
    obtain ⟨lstart, lstop, t⟩ := l
    obtain ⟨lstart', lstop', t'⟩ := l'
    cases hl with
    | comma => exact Or.inr (.objectComma hframes hmembers)
    | closeObject => exact Or.inr (swapped_put hframes (.object hmembers))
    | _ => exact Or.inl ⟨_, rfl⟩
  | finished hroot => exact Or.inl ⟨_, rfl⟩

end Tokens

end Steps

/-! ## Runs -/

section Runs

variable {x : String} {v : Option Scalar} {b : Bool} {p : Place}

/-- After the same tokens two readers still have read the same but for ids, if the first of them
does not halt. -/
theorem swapped_foldl {state state' : State} {lexemes lexemes' : List Lexeme}
    (h : SwappedStates x v b state state') (hl : List.Forall₂ Lexeme.Alike lexemes lexemes')
    (hgoes : ∀ d, lexemes.foldl State.next state ≠ .halted d) :
    SwappedStates x v b (lexemes.foldl State.next state) (lexemes'.foldl State.next state') := by
  induction hl generalizing state state' with
  | nil => exact h
  | @cons l l' lexemes lexemes' hl _ ih =>
    rw [List.foldl_cons] at hgoes ⊢
    rw [List.foldl_cons]
    obtain ⟨d, hd⟩ | hnext := swapped_next h hl
    · rw [hd, State.foldl_halted] at hgoes
      exact absurd rfl (hgoes d)
    · exact ih hnext hgoes

theorem SwappedItems.length_eq {i : Nat} {items items' : List Node}
    (h : SwappedItems x v b p i items items') : items'.length = items.length := by
  induction items generalizing b i items' with
  | nil =>
    cases h
    rfl
  | cons n items ih =>
    cases h with
    | cons _ hrest => rw [List.length_cons, List.length_cons, ih hrest]

/-- The place of a value is the same in both readings. -/
theorem inside_eq {frames frames' : List Frame} (h : SwappedFrames x v b frames frames') :
    Place.inside frames' = Place.inside frames := by
  induction h with
  | nil => rfl
  | list hframes hitems ih =>
    have hlength := hitems.length_eq
    rw [List.length_reverse, List.length_reverse] at hlength
    simp only [Place.inside, ih, hlength]
  | member hframes hmembers hname ih => simp only [Place.inside, ih, hname]

theorem exists_awaited {state state' : State} (h : SwappedStates x v b state state')
    {frames : List Frame} (hframes : state.awaited? = some frames) :
    ∃ frames', state'.awaited? = some frames' ∧ SwappedFrames x v b frames frames' := by
  cases h with
  | value h =>
    obtain rfl := Option.some.inj hframes
    exact ⟨_, rfl, h⟩
  | listStart h =>
    obtain rfl := Option.some.inj hframes
    exact ⟨_, rfl, h.openList _ _⟩
  | listComma h =>
    obtain rfl := Option.some.inj hframes
    exact ⟨_, rfl, h⟩
  | _ => cases hframes

theorem exists_finished {root : Node} {state : State}
    (h : SwappedStates x v b (.finished root) state) :
    ∃ root', state = .finished root' ∧ Swapped x v b .feed root root' := by
  cases h with
  | finished h => exact ⟨_, rfl, h⟩

/-- The reading of a text goes on behind its front. -/
theorem run_eq {offset next : Nat} {s rest : List Char} {front : List Lexeme}
    (h : tokensFrom offset s = front ++ tokensFrom next rest) (state : State) :
    run offset s state = run next rest (front.foldl State.next state) := by
  unfold run
  rw [h, List.foldl_append]

/-- Whether what comes behind a text is the id of an item. -/
def IdComesAfter (before : List Char) : Prop :=
  (run 0 before (.value [])).awaited?.map Place.inside = some .id

instance (before : List Char) : Decidable (IdComesAfter before) :=
  inferInstanceAs (Decidable (_ = _))

/-- A reader comes to the end of a front in the same way, whatever follows it. -/
theorem exists_swapped_front {before : List Char} {frames : List Frame}
    (h : (run 0 before (.value [])).awaited? = some frames) (rest rest' : List Char) :
    ∃ state state' next next', run 0 (before ++ rest) (.value []) = run next rest state ∧
      run 0 (before ++ rest') (.value []) = run next' rest' state' ∧
      SwappedStates x v false (run 0 before (.value [])) state ∧
      SwappedStates x v false state state' := by
  have hgoes : ∀ d, run 0 before (.value []) ≠ .halted d := by
    intro d hd
    rw [hd] at h
    cases h
  have hwhole := whole_of_not_halted hgoes
  have hstart : SwappedStates x v false (.value []) (.value []) := .value .nil
  obtain ⟨front, next, htokens, hfront⟩ := tokensFrom_append hwhole (closes_of_awaited h rest) 0
  obtain ⟨front', next', htokens', hfront'⟩ :=
    tokensFrom_append hwhole (closes_of_awaited h rest') 0
  have hstate := swapped_foldl hstart hfront hgoes
  refine ⟨_, _, next, next', run_eq htokens _, run_eq htokens' _, hstate, ?_⟩
  apply swapped_foldl hstart (Lexeme.alike_join hfront hfront')
  intro d hd
  obtain ⟨_, hawaited, _⟩ := exists_awaited hstate h
  rw [hd] at hawaited
  cases hawaited

/-- Where an id is written as a number, nothing else of the tree changes. -/
theorem exists_swapped {before behind : List Char} (hbefore : IdComesAfter before) {q : Quote}
    (hq : q.content? = some x) {f : Figure} (hf : f.numeral.value?.map Scalar.number = v)
    {root : Node} (hrun : run 0 (before ++ (q.chars ++ behind)) (.value []) = .finished root) :
    ∃ root', run 0 (before ++ (f.chars ++ behind)) (.value []) = .finished root' ∧
      Swapped x v true .feed root root' := by
  obtain ⟨frames, hframes, hplace⟩ := Option.map_eq_some_iff.mp hbefore
  obtain ⟨state, state', next, next', hfront, hfront', hstate, hstates⟩ :=
    exists_swapped_front (x := x) (v := v) hframes (q.chars ++ behind) (f.chars ++ behind)
  obtain ⟨around, haround, hsame⟩ := exists_awaited hstate hframes
  obtain ⟨around', haround', hswapped⟩ := exists_awaited hstates haround
  -- the id itself
  obtain ⟨strict, stop, hscan, hcontent⟩ := q.scanText_tail (next + 1) behind
  have hquote := run_text (State.awaits_of_awaited? haround) hscan
  rw [hfront, Quote.chars, List.cons_append, hquote] at hrun
  obtain ⟨c, more, stop', hchars, hc, hscan'⟩ :=
    f.scanToken_chars (quiet_of_finished hrun) next'
  have hfigure := run_plain (State.awaits_of_awaited? haround') _ hc hscan'
  rw [hfront', hchars, hfigure]
  have hput : SwappedStates x v true (.put (.text next stop ⟨strict, none⟩) around)
      (.put (.plain next' stop' ⟨(f.numeral.strict stop').map Scalar.number, none⟩) around') := by
    refine swapped_put (b := false) hswapped ?_
    rw [inside_eq hsame, hplace]
    refine .id (hcontent.trans hq) ?_
    rw [toOption_map, strict_toOption, hf]
  -- what is behind it
  have hgoes : ∀ d, run stop behind (.put (.text next stop ⟨strict, none⟩) around) ≠ .halted d := by
    intro d hd
    rw [hd] at hrun
    cases hrun
  have hcloses : Closes (tokensFrom stop behind) [] := fun _ => quiet_nil
  obtain ⟨tokens, last, htokens, halike⟩ :=
    tokensFrom_append (whole_of_not_halted hgoes) hcloses stop'
  rw [List.append_nil, tokensFrom, List.append_nil] at htokens
  have hend := swapped_foldl hput halike hgoes
  rw [← htokens] at hend
  unfold run at hrun ⊢
  rw [hrun] at hend
  exact exists_finished hend

end Runs

end FeedSearch.Feed
