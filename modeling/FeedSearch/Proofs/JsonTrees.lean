-- Trees of what is written. Whatever text writes a form, its tree shows this form:
-- the reader finds an end for every list and object, and nothing is left over.
import FeedSearch.Json.Node
import FeedSearch.Proofs.JsonTokens
import Mathlib.Data.List.Forall2

namespace FeedSearch.Json

/-! ## Trees that show a form -/

mutual

/-- A whole node says what a form says; where it stands does not matter. -/
inductive Shows : Form → Node → Prop where
  | plain {v : Option Scalar} {start stop : Nat} {strict : Except Fault Scalar}
      (h : strict.toOption = v) : Shows (.plain v) (.plain start stop ⟨strict, none⟩)
  | text {s : Option String} {start stop : Nat} {strict : Except Fault String}
      (h : strict.toOption = s) : Shows (.text s) (.text start stop ⟨strict, none⟩)
  | list {start stop : Nat} {items : List Form} {nodes : List Node}
      (h : List.Forall₂ Shows items nodes) : Shows (.list items) (.list start nodes (.closed stop))
  | object {start stop : Nat} {members : List (String × Form)} {nodes : List (Key × Node)}
      (h : List.Forall₂ ShowsMember members nodes) :
      Shows (.object members) (.object start nodes (.closed stop))

inductive ShowsMember : String × Form → Key × Node → Prop where
  | mk {name : String} {form : Form} {start stop : Nat} {node : Node} (h : Shows form node) :
      ShowsMember (name, form) (⟨start, stop, .ok name⟩, node)

end

theorem Shows.lenientFault? {f : Form} {n : Node} (h : Shows f n) : n.lenientFault? = none := by
  cases h <;> rfl

/-- The members of an object are all in its tree. -/
theorem exists_member {members : List (String × Form)} {nodes : List (Key × Node)}
    (hn : List.Forall₂ ShowsMember members nodes) {name : String} {f : Form}
    (h : (name, f) ∈ members) :
    ∃ start stop node, (⟨start, stop, .ok name⟩, node) ∈ nodes ∧ Shows f node := by
  induction hn with
  | nil => cases h
  | cons hm _ ih =>
    rcases List.mem_cons.mp h with rfl | h
    · cases hm with
      | mk hnode => exact ⟨_, _, _, List.mem_cons_self, hnode⟩
    · obtain ⟨start, stop, node, hmem, hnode⟩ := ih h
      exact ⟨start, stop, node, List.mem_cons_of_mem _ hmem, hnode⟩

/-! ## Running the reader -/

/-- The state after the tokens of a text. -/
def run (offset : Nat) (s : List Char) (state : State) : State :=
  (tokensFrom offset s).foldl State.next state

theorem run_gap (g : Gap) (state : State) (offset : Nat) (rest : List Char) :
    ∃ next, run offset (g.chars ++ rest) state = run next rest state := by
  obtain ⟨next, hnext⟩ := tokensFrom_gap g offset rest
  exact ⟨next, by unfold run; rw [hnext]⟩

theorem run_token {state : State} {offset stop : Nat} {c : Char} {s rest : List Char} {t : Token}
    (hc : isGap c = false) (hscan : scanToken offset c s = (t, stop, rest))
    (ht : t.isBroken = false) :
    run offset (c :: s) state = run stop rest (state.next ⟨offset, stop, t⟩) := by
  unfold run
  rw [tokensFrom_token hc hscan ht, List.foldl_cons]

/-! ## What a state waits for -/

/-- A state in which a value comes next. -/
def State.Awaits (state : State) (frames : List Frame) : Prop :=
  ∀ l : Lexeme, l.token ≠ .closeList → state.next l = valueToken frames l

/-- A state in which the name of a member comes next. -/
def State.AwaitsKey (state : State) (start : Nat) (members : List (Key × Node))
    (frames : List Frame) : Prop :=
  ∀ l : Lexeme, l.token ≠ .closeObject → state.next l = keyToken start members frames l

theorem State.value_awaits (frames : List Frame) : (State.value frames).Awaits frames :=
  fun _ _ => rfl

theorem State.listStart_awaits (start : Nat) (frames : List Frame) :
    (State.listStart start frames).Awaits (.list start [] :: frames) := by
  intro l hl
  simp only [State.next]

theorem State.listComma_awaits (start : Nat) (items : List Node) (frames : List Frame) :
    (State.listComma start items frames).Awaits (.list start items :: frames) := by
  intro l hl
  simp only [State.next]

theorem State.objectStart_awaits (start : Nat) (frames : List Frame) :
    (State.objectStart start frames).AwaitsKey start [] frames := by
  intro l hl
  simp only [State.next]

theorem State.objectComma_awaits (start : Nat) (members : List (Key × Node))
    (frames : List Frame) :
    (State.objectComma start members frames).AwaitsKey start members frames := by
  intro l hl
  simp only [State.next]

/-! ## Quiet ends -/

section Quiet

variable {rest : List Char}

theorem quiet_nil : Quiet [] := nofun

theorem quiet_comma : Quiet (',' :: rest) := by
  intro c hc
  obtain rfl := Option.some.inj hc
  decide

theorem quiet_closeList : Quiet (']' :: rest) := by
  intro c hc
  obtain rfl := Option.some.inj hc
  decide

theorem quiet_closeObject : Quiet ('\x7d' :: rest) := by
  intro c hc
  obtain rfl := Option.some.inj hc
  decide

theorem Quiet.gap (h : Quiet rest) (g : Gap) : Quiet (g.chars ++ rest) := by
  obtain ⟨chars, blank⟩ := g
  cases chars with
  | nil => exact h
  | cons c chars =>
    intro b hb
    obtain rfl := Option.some.inj hb
    rcases isGap_iff.mp (Bool.and_eq_true_iff.mp blank).1 with rfl | rfl | rfl | rfl
    all_goals decide

end Quiet

/-! ## What is written is read -/

theorem strict_toOption (n : Numeral) (stop : Nat) : (n.strict stop).toOption = n.value? := by
  unfold Numeral.strict
  split
  · rename_i hv
    exact hv.symm
  · rename_i hv
    exact hv.symm

section Values

variable {state : State} {frames : List Frame} {offset stop : Nat} {c : Char} {s rest : List Char}

theorem run_plain (hstate : state.Awaits frames) (strict : Except Fault Scalar)
    (hc : isGap c = false) (hscan : scanToken offset c s = (.plain ⟨strict, none⟩, stop, rest)) :
    run offset (c :: s) state =
      run stop rest (.put (.plain offset stop ⟨strict, none⟩) frames) := by
  rw [run_token hc hscan rfl, hstate _ (by simp)]
  rfl

theorem run_text (hstate : state.Awaits frames) {strict : Except Fault String}
    (hscan : scanText (offset + 1) s = (.text ⟨strict, none⟩, stop, rest)) :
    run offset ('"' :: s) state =
      run stop rest (.put (.text offset stop ⟨strict, none⟩) frames) := by
  have htoken : scanToken offset '"' s = (.text ⟨strict, none⟩, stop, rest) := hscan
  rw [run_token (by decide) htoken rfl, hstate _ (by simp)]
  rfl

theorem run_openList (hstate : state.Awaits frames) (offset : Nat) (s : List Char) :
    run offset ('[' :: s) state = run (offset + 1) s (.listStart offset frames) := by
  rw [run_token (by decide) rfl rfl, hstate _ (by simp)]
  rfl

theorem run_openObject (hstate : state.Awaits frames) (offset : Nat) (s : List Char) :
    run offset ('\x7b' :: s) state = run (offset + 1) s (.objectStart offset frames) := by
  rw [run_token (by decide) rfl rfl, hstate _ (by simp)]
  rfl

/-- A name, its colon and the gaps around it lead to the value of the member. -/
theorem run_key {start : Nat} {members : List (Key × Node)}
    (hstate : state.AwaitsKey start members frames) (before : Gap) (name : Name)
    (behind ahead : Gap) (offset : Nat) (s : List Char) :
    ∃ keyStart keyStop next, run offset (before.chars ++ (name.quote.chars ++ (behind.chars ++
        ':' :: (ahead.chars ++ s)))) state =
      run next s
        (.value (.member start members ⟨keyStart, keyStop, .ok name.content⟩ :: frames)) := by
  obtain ⟨first, hfirst⟩ := run_gap before state offset (name.quote.chars ++ (behind.chars ++
    ':' :: (ahead.chars ++ s)))
  obtain ⟨strict, stop, hscan, hcontent⟩ :=
    name.quote.scanText_tail (first + 1) (behind.chars ++ ':' :: (ahead.chars ++ s))
  have hname : strict = .ok name.content := toOption_eq_some (hcontent.trans name.readable)
  have htoken : scanToken first '"'
      (name.quote.tail ++ (behind.chars ++ ':' :: (ahead.chars ++ s))) =
      (.text ⟨strict, none⟩, stop, behind.chars ++ ':' :: (ahead.chars ++ s)) := hscan
  let key : Key := ⟨first, stop, .ok name.content⟩
  obtain ⟨colon, hcolon⟩ :=
    run_gap behind (.afterKey start members key frames) stop (':' :: (ahead.chars ++ s))
  obtain ⟨next, hnext⟩ :=
    run_gap ahead (.value (.member start members key :: frames)) (colon + 1) s
  refine ⟨first, stop, next, ?_⟩
  rw [hfirst, Quote.chars, List.cons_append, run_token (by decide) htoken rfl, hstate _ (by simp),
    hname]
  refine hcolon.trans ?_
  rw [run_token (by decide) rfl rfl]
  exact hnext

end Values

mutual

/-- A value is read to its end, and goes to the frame that waits for it. -/
theorem Written.exists_shown (w : Written) {state : State} {frames : List Frame}
    (hstate : state.Awaits frames) {rest : List Char} (hrest : Quiet rest) (offset : Nat) :
    ∃ node stop, Shows w.form node ∧
      run offset (w.chars ++ rest) state = run stop rest (.put node frames) := by
  cases w with
  | null => exact ⟨_, _, .plain rfl, run_plain hstate (.ok .null) rfl rfl⟩
  | truth b =>
    cases b with
    | true => exact ⟨_, _, .plain rfl, run_plain hstate (.ok (.truth true)) rfl rfl⟩
    | false => exact ⟨_, _, .plain rfl, run_plain hstate (.ok (.truth false)) rfl rfl⟩
  | number n =>
    obtain ⟨c, more, stop, hchars, hc, hscan⟩ := n.scanToken_chars hrest offset
    refine ⟨.plain offset stop ⟨(n.numeral.strict stop).map Scalar.number, none⟩, stop,
      .plain ?_, ?_⟩
    · rw [toOption_map, strict_toOption]
    · show run offset (n.chars ++ rest) state = _
      rw [hchars]
      exact run_plain hstate _ hc hscan
  | quote q =>
    obtain ⟨strict, stop, hscan, hcontent⟩ := q.scanText_tail (offset + 1) rest
    exact ⟨_, stop, .text hcontent, run_text hstate hscan⟩
  | emptyList gap =>
    obtain ⟨next, hgap⟩ := run_gap gap (.listStart offset frames) (offset + 1) (']' :: rest)
    refine ⟨.list offset [] (.closed (next + 1)), next + 1, .list .nil, ?_⟩
    simp only [Written.chars, List.cons_append, List.append_assoc, List.nil_append]
    rw [run_openList hstate, hgap, run_token (by decide) rfl rfl]
    rfl
  | list items =>
    obtain ⟨nodes, stop, hnodes, hrun⟩ :=
      items.exists_shown (State.listStart_awaits offset frames) rest (offset + 1)
    refine ⟨.list offset nodes (.closed stop), stop, .list hnodes, ?_⟩
    simp only [Written.chars, List.cons_append, List.append_assoc, List.nil_append]
    rw [run_openList hstate, hrun]
    rfl
  | emptyObject gap =>
    obtain ⟨next, hgap⟩ := run_gap gap (.objectStart offset frames) (offset + 1) ('\x7d' :: rest)
    refine ⟨.object offset [] (.closed (next + 1)), next + 1, .object .nil, ?_⟩
    simp only [Written.chars, List.cons_append, List.append_assoc, List.nil_append]
    rw [run_openObject hstate, hgap, run_token (by decide) rfl rfl]
    rfl
  | object members =>
    obtain ⟨nodes, stop, hnodes, hrun⟩ :=
      members.exists_shown (State.objectStart_awaits offset frames) rest (offset + 1)
    refine ⟨.object offset nodes (.closed stop), stop, .object hnodes, ?_⟩
    simp only [Written.chars, List.cons_append, List.append_assoc, List.nil_append]
    rw [run_openObject hstate, hrun]
    rfl

/-- Items are read up to the end of their list. -/
theorem Items.exists_shown (items : Items) {state : State} {start : Nat} {before : List Node}
    {frames : List Frame} (hstate : state.Awaits (.list start before :: frames))
    (rest : List Char) (offset : Nat) :
    ∃ nodes stop, List.Forall₂ Shows items.forms nodes ∧
      run offset (items.chars ++ ']' :: rest) state =
        run stop rest (.put (.list start (before.reverse ++ nodes) (.closed stop)) frames) := by
  cases items with
  | last gap item after =>
    obtain ⟨first, hfirst⟩ := run_gap gap state offset (item.chars ++ (after.chars ++ ']' :: rest))
    obtain ⟨node, middle, hnode, hitem⟩ :=
      item.exists_shown hstate (quiet_closeList.gap after) first
    obtain ⟨last, hlast⟩ := run_gap after (.afterItem start (node :: before) frames) middle
      (']' :: rest)
    refine ⟨[node], last + 1, .cons hnode .nil, ?_⟩
    simp only [Items.chars, List.append_assoc]
    rw [hfirst, hitem, State.put, hlast, run_token (by decide) rfl rfl, ← List.reverse_cons]
    rfl
  | more gap item after items =>
    obtain ⟨first, hfirst⟩ := run_gap gap state offset
      (item.chars ++ (after.chars ++ ',' :: (items.chars ++ ']' :: rest)))
    obtain ⟨node, middle, hnode, hitem⟩ := item.exists_shown hstate (quiet_comma.gap after) first
    obtain ⟨last, hlast⟩ := run_gap after (.afterItem start (node :: before) frames) middle
      (',' :: (items.chars ++ ']' :: rest))
    obtain ⟨nodes, stop, hnodes, hrun⟩ :=
      items.exists_shown (State.listComma_awaits start (node :: before) frames) rest (last + 1)
    refine ⟨node :: nodes, stop, .cons hnode hnodes, ?_⟩
    simp only [Items.chars, List.append_assoc, List.cons_append]
    rw [hfirst, hitem, State.put, hlast, run_token (by decide) rfl rfl]
    refine hrun.trans ?_
    rw [List.reverse_cons, List.append_assoc, List.cons_append, List.nil_append]

/-- Members are read up to the end of their object. -/
theorem Members.exists_shown (members : Members) {state : State} {start : Nat}
    {before : List (Key × Node)} {frames : List Frame}
    (hstate : state.AwaitsKey start before frames) (rest : List Char) (offset : Nat) :
    ∃ nodes stop, List.Forall₂ ShowsMember members.forms nodes ∧
      run offset (members.chars ++ '\x7d' :: rest) state =
        run stop rest (.put (.object start (before.reverse ++ nodes) (.closed stop)) frames) := by
  cases members with
  | last gap name behind ahead value after =>
    obtain ⟨keyStart, keyStop, first, hfirst⟩ := run_key hstate gap name behind ahead offset
      (value.chars ++ (after.chars ++ '\x7d' :: rest))
    obtain ⟨node, middle, hnode, hvalue⟩ :=
      value.exists_shown (State.value_awaits _) (quiet_closeObject.gap after) first
    obtain ⟨last, hlast⟩ := run_gap after (.afterMember start
      ((⟨keyStart, keyStop, .ok name.content⟩, node) :: before) frames) middle ('\x7d' :: rest)
    refine ⟨[(⟨keyStart, keyStop, .ok name.content⟩, node)], last + 1, .cons (.mk hnode) .nil, ?_⟩
    simp only [Members.chars, List.append_assoc, List.cons_append]
    rw [hfirst, hvalue, State.put, hlast, run_token (by decide) rfl rfl, ← List.reverse_cons]
    rfl
  | more gap name behind ahead value after members =>
    obtain ⟨keyStart, keyStop, first, hfirst⟩ := run_key hstate gap name behind ahead offset
      (value.chars ++ (after.chars ++ ',' :: (members.chars ++ '\x7d' :: rest)))
    obtain ⟨node, middle, hnode, hvalue⟩ :=
      value.exists_shown (State.value_awaits _) (quiet_comma.gap after) first
    let member : Key × Node := (⟨keyStart, keyStop, .ok name.content⟩, node)
    obtain ⟨last, hlast⟩ := run_gap after (.afterMember start (member :: before) frames) middle
      (',' :: (members.chars ++ '\x7d' :: rest))
    obtain ⟨nodes, stop, hnodes, hrun⟩ :=
      members.exists_shown (State.objectComma_awaits start (member :: before) frames) rest
        (last + 1)
    refine ⟨member :: nodes, stop, .cons (.mk hnode) hnodes, ?_⟩
    simp only [Members.chars, List.append_assoc, List.cons_append]
    rw [hfirst, hvalue, State.put, hlast, run_token (by decide) rfl rfl]
    refine hrun.trans ?_
    rw [List.reverse_cons, List.append_assoc, List.cons_append, List.nil_append]

end

/-! ## Documents -/

/-- The tree of a text shows the form that the text writes, and nothing follows it. -/
theorem Body.exists_root (b : Body) :
    ∃ root, Document.ofText b.text.toList = { root, trailing := none } ∧ Shows b.form root := by
  obtain ⟨first, hfirst⟩ :=
    run_gap b.before (.value []) 0 (b.value.chars ++ (b.after.chars ++ []))
  obtain ⟨root, stop, hroot, hvalue⟩ :=
    b.value.exists_shown (State.value_awaits []) (quiet_nil.gap b.after) first
  obtain ⟨last, hlast⟩ := run_gap b.after (.finished root) stop []
  refine ⟨root, ?_, hroot⟩
  have hrun : run 0 b.text.toList (.value []) = .finished root := by
    have hnil : run last [] (.finished root) = .finished root := by
      unfold run
      rw [tokensFrom]
      rfl
    rw [List.append_nil] at hfirst hvalue hlast
    rw [Body.text, String.toList_ofList, hfirst, hvalue, State.put, hlast, hnil]
  have hread : (tokens b.text.toList).foldl State.next (.value []) = .finished root := hrun
  unfold Document.ofText
  rw [hread]
  rfl

end FeedSearch.Json
