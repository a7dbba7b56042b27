-- Documents that are whole. A reader that has halted has left the list or object at
-- the root open, or sees that something follows it: a document whose root is closed
-- and is followed by nothing has been read to its end.
import FeedSearch.Proofs.JsonFronts
import FeedSearch.Proofs.YieldedValues

namespace FeedSearch.Json

/-! ## Closed lists and objects -/

/-- A list or an object that has its end. -/
def Node.isClosed : Node → Bool
  | .list _ _ (.closed _) => true
  | .object _ _ (.closed _) => true
  | _ => false

/-- A list or object in which the text breaks off has no end. -/
theorem isClosed_abandon (b : Break) {node : Node} (h : node.isClosed = false)
    (frames : List Frame) : (State.abandon b node frames).isClosed = false := by
  induction frames generalizing node with
  | nil => exact h
  | cons frame frames ih =>
    cases frame with
    | list start items => exact ih rfl
    | member start members key => exact ih rfl

/-- A document whose root is a closed list or object, with nothing behind it. -/
def Document.IsWhole (d : Document) : Prop := d.trailing = none ∧ d.root.isClosed = true

theorem not_isWhole_breakAt (b : Break) {node : Node} (h : node.isClosed = false)
    (frames : List Frame) : ¬(State.breakAt b node frames).IsWhole := by
  rintro ⟨_, hclosed⟩
  rw [State.breakAt, isClosed_abandon b h] at hclosed
  cases hclosed

/-! ## Halts -/

namespace State

/-- A reader that halts has not read a whole document. -/
def HaltsBroken (state : State) : Prop := ∀ d, state = .halted d → ¬d.IsWhole

theorem HaltsBroken.put (node : Node) (frames : List Frame) : HaltsBroken (.put node frames) := by
  intro d hd
  cases frames with
  | nil => cases hd
  | cons frame frames => cases frame <;> cases hd

theorem HaltsBroken.breakAt (b : Break) {node : Node} (h : node.isClosed = false)
    (frames : List Frame) : HaltsBroken (.halted (State.breakAt b node frames)) := by
  intro d hd
  obtain rfl := State.halted.inj hd
  exact not_isWhole_breakAt b h frames

theorem HaltsBroken.valueToken (frames : List Frame) (l : Lexeme) :
    HaltsBroken (.valueToken frames l) := by
  unfold State.valueToken leaf
  split
  · exact nofun
  · exact nofun
  · split
    · exact .put _ _
    · exact .breakAt _ rfl _
  · split
    · exact .put _ _
    · exact .breakAt _ rfl _
  · exact .breakAt _ rfl _

theorem HaltsBroken.keyToken (start : Nat) (members : List (Key × Node)) (frames : List Frame)
    (l : Lexeme) : HaltsBroken (.keyToken start members frames l) := by
  unfold State.keyToken
  split
  · simp only
    split
    · exact nofun
    · exact .breakAt _ rfl _
  · exact .breakAt _ rfl _

theorem HaltsBroken.next {state : State} (h : state.HaltsBroken) (l : Lexeme) :
    (state.next l).HaltsBroken := by
  cases state with
  | value frames => exact .valueToken frames l
  | listStart start frames =>
    simp only [State.next]
    split
    · exact .put _ _
    · exact .valueToken _ l
  | listComma start items frames =>
    simp only [State.next]
    split
    · exact .breakAt _ rfl _
    · exact .valueToken _ l
  | afterItem start items frames =>
    simp only [State.next]
    split
    · rintro _ ⟨⟩
    · exact .put _ _
    · exact .breakAt _ rfl _
  | objectStart start frames =>
    simp only [State.next]
    split
    · exact .put _ _
    · exact HaltsBroken.keyToken _ _ _ _
  | objectComma start members frames =>
    simp only [State.next]
    split
    · exact .breakAt _ rfl _
    · exact HaltsBroken.keyToken _ _ _ _
  | afterKey start members key frames =>
    simp only [State.next]
    split
    · rintro _ ⟨⟩
    · exact .breakAt _ rfl _
  | afterMember start members frames =>
    simp only [State.next]
    split
    · rintro _ ⟨⟩
    · exact .put _ _
    · exact .breakAt _ rfl _
  | finished root =>
    rintro _ ⟨⟩ ⟨htrailing, _⟩
    cases htrailing
  | halted d => exact h

/-- A whole document has been read to its end. -/
theorem eq_finished_of_isWhole {state : State} (h : state.HaltsBroken) {size : Nat}
    (hwhole : (state.finish size).IsWhole) : state = .finished (state.finish size).root := by
  cases state with
  | finished root => rfl
  | halted d => exact absurd hwhole (h d rfl)
  | value frames => exact absurd hwhole (not_isWhole_breakAt _ rfl _)
  | listStart start frames => exact absurd hwhole (not_isWhole_breakAt _ rfl _)
  | listComma start items frames => exact absurd hwhole (not_isWhole_breakAt _ rfl _)
  | afterItem start items frames => exact absurd hwhole (not_isWhole_breakAt _ rfl _)
  | objectStart start frames => exact absurd hwhole (not_isWhole_breakAt _ rfl _)
  | objectComma start members frames => exact absurd hwhole (not_isWhole_breakAt _ rfl _)
  | afterKey start members key frames => exact absurd hwhole (not_isWhole_breakAt _ rfl _)
  | afterMember start members frames => exact absurd hwhole (not_isWhole_breakAt _ rfl _)

end State

theorem haltsBroken_foldl (lexemes : List Lexeme) {state : State} (h : state.HaltsBroken) :
    (lexemes.foldl State.next state).HaltsBroken := by
  induction lexemes generalizing state with
  | nil => exact h
  | cons l lexemes ih => exact ih (h.next l)

theorem ofText_of_finished {text : List Char} {root : Node}
    (h : run 0 text (.value []) = .finished root) : Document.ofText text = ⟨root, none⟩ := by
  have hread : (tokens text).foldl State.next (.value []) = .finished root := h
  unfold Document.ofText
  rw [hread]
  rfl

/-- A text is a whole document exactly if it is read to the end of a list or an object. -/
theorem isWhole_iff (text : List Char) :
    (Document.ofText text).IsWhole ↔
      ∃ root, root.isClosed = true ∧ run 0 text (.value []) = .finished root := by
  constructor
  · intro h
    exact ⟨_, h.2, State.eq_finished_of_isWhole (haltsBroken_foldl _ (fun _ hd => by cases hd)) h⟩
  · rintro ⟨root, hclosed, hrun⟩
    rw [ofText_of_finished hrun]
    exact ⟨rfl, hclosed⟩

/-! ## Structures -/

section Structures

variable {α σ : Type} {layout : Layout σ α} {a : α}

/-- A structure is read of a list or an object that has its end. -/
theorem isClosed_of_decodeStruct {r : Reader} {n : Node} (h : decodeStruct layout r n = .ok a) :
    n.isClosed = true := by
  cases readAs_of_decodeStruct h <;> rfl

/-- What is read of a text is read of the tree to whose end the text is read. -/
theorem decode_toOption {decoder : Decoder α} {text : String} {root : Node}
    (h : run 0 text.toList (.value []) = .finished root) :
    (decode decoder text).toOption = (decoder ⟨text.toList, maxDepth⟩ root).toOption := by
  unfold decode
  simp only [ofText_of_finished h]
  cases decoder ⟨text.toList, maxDepth⟩ root with
  | ok a => rfl
  | error e => cases e <;> rfl

/-- A structure is read of a text exactly if it is read of the list or object to whose end the text
is read. -/
theorem decode_struct_iff (text : String) :
    decode (decodeStruct layout) text = .ok a ↔
      ∃ root, run 0 text.toList (.value []) = .finished root ∧
        decodeStruct layout ⟨text.toList, maxDepth⟩ root = .ok a := by
  constructor
  · intro h
    obtain ⟨hread, htrailing⟩ := decode_eq_ok h
    obtain ⟨root, hclosed, hrun⟩ :=
      (isWhole_iff text.toList).mp ⟨htrailing, isClosed_of_decodeStruct hread⟩
    have hdocument : Document.ofText text.toList = ⟨root, none⟩ := ofText_of_finished hrun
    rw [hdocument] at hread
    exact ⟨root, hrun, hread⟩
  · rintro ⟨root, hrun, hread⟩
    apply toOption_eq_some
    rw [decode_toOption hrun, hread]
    rfl

end Structures

/-! ## Readers that go on -/

namespace State

theorem foldl_halted (lexemes : List Lexeme) (d : Document) :
    lexemes.foldl next (.halted d) = .halted d := by
  induction lexemes with
  | nil => rfl
  | cons l lexemes ih => exact ih

theorem valueToken_broken (frames : List Frame) {l : Lexeme} (h : l.token.isBroken = true) :
    ∃ d, valueToken frames l = .halted d := by
  obtain ⟨start, stop, t⟩ := l
  cases t with
  | text s =>
    obtain ⟨f, hf⟩ := Option.isSome_iff_exists.mp h
    simp only [valueToken, leaf, hf]
    exact ⟨_, rfl⟩
  | plain v =>
    obtain ⟨f, hf⟩ := Option.isSome_iff_exists.mp h
    simp only [valueToken, leaf, hf]
    exact ⟨_, rfl⟩
  | stray => exact ⟨_, rfl⟩
  | _ => cases h

theorem keyToken_broken (start : Nat) (members : List (Key × Node)) (frames : List Frame)
    {l : Lexeme} (h : l.token.isBroken = true) :
    ∃ d, keyToken start members frames l = .halted d := by
  obtain ⟨lstart, lstop, t⟩ := l
  cases t with
  | text s =>
    obtain ⟨f, hf⟩ := Option.isSome_iff_exists.mp h
    simp only [keyToken, hf]
    exact ⟨_, rfl⟩
  | plain v => exact ⟨_, rfl⟩
  | stray => exact ⟨_, rfl⟩
  | _ => cases h

/-- No reader gets past a token that is not whole. -/
theorem next_broken (state : State) {l : Lexeme} (h : l.token.isBroken = true) :
    ∃ d, state.next l = .halted d := by
  have hlist : l.token ≠ .closeList := by
    intro he
    rw [he] at h
    cases h
  have hobject : l.token ≠ .closeObject := by
    intro he
    rw [he] at h
    cases h
  cases state with
  | value frames => exact valueToken_broken frames h
  | listStart start frames =>
    rw [listStart_awaits start frames l hlist]
    exact valueToken_broken _ h
  | listComma start items frames =>
    rw [listComma_awaits start items frames l hlist]
    exact valueToken_broken _ h
  | objectStart start frames =>
    rw [objectStart_awaits start frames l hobject]
    exact keyToken_broken _ _ _ h
  | objectComma start members frames =>
    rw [objectComma_awaits start members frames l hobject]
    exact keyToken_broken _ _ _ h
  | finished root => exact ⟨_, rfl⟩
  | halted d => exact ⟨_, rfl⟩
  | afterItem start items frames =>
    obtain ⟨lstart, lstop, t⟩ := l
    cases t with
    | comma => cases h
    | closeList => cases h
    | _ => exact ⟨_, rfl⟩
  | afterKey start members key frames =>
    obtain ⟨lstart, lstop, t⟩ := l
    cases t with
    | colon => cases h
    | _ => exact ⟨_, rfl⟩
  | afterMember start members frames =>
    obtain ⟨lstart, lstop, t⟩ := l
    cases t with
    | comma => cases h
    | closeObject => cases h
    | _ => exact ⟨_, rfl⟩

/-- The lists and objects around the value that comes next, if it is a value that comes next. -/
def awaited? : State → Option (List Frame)
  | .value frames => some frames
  | .listStart start frames => some (.list start [] :: frames)
  | .listComma start items frames => some (.list start items :: frames)
  | _ => none

theorem awaits_of_awaited? {state : State} {frames : List Frame}
    (h : state.awaited? = some frames) : state.Awaits frames := by
  cases state with
  | value frames' =>
    obtain rfl := Option.some.inj h
    exact value_awaits _
  | listStart start frames' =>
    obtain rfl := Option.some.inj h
    exact listStart_awaits _ _
  | listComma start items frames' =>
    obtain rfl := Option.some.inj h
    exact listComma_awaits _ _ _
  | _ => cases h

theorem awaited?_put (node : Node) (frames : List Frame) : (put node frames).awaited? = none := by
  cases frames with
  | nil => rfl
  | cons frame frames => cases frame <;> rfl

/-- Right behind a number or a word no value comes. -/
theorem awaited?_next_plain (state : State) {l : Lexeme} {v : Content Scalar}
    (h : l.token = .plain v) : (state.next l).awaited? = none := by
  have hvalue (frames : List Frame) : (valueToken frames l).awaited? = none := by
    simp only [valueToken, h, leaf]
    split
    · exact awaited?_put _ _
    · rfl
  have hlist : l.token ≠ .closeList := by simp [h]
  cases state with
  | value frames => exact hvalue frames
  | listStart start frames =>
    rw [listStart_awaits start frames l hlist]
    exact hvalue _
  | listComma start items frames =>
    rw [listComma_awaits start items frames l hlist]
    exact hvalue _
  | _ =>
    simp only [next, keyToken, h]
    rfl

/-- Behind a value no number goes on. -/
theorem next_put_halted (node : Node) (frames : List Frame) {l : Lexeme}
    (h : (∃ v, l.token = .plain v) ∨ l.token = .stray) :
    ∃ d, (put node frames).next l = .halted d := by
  obtain ⟨start, stop, t⟩ := l
  cases frames with
  | nil => exact ⟨_, rfl⟩
  | cons frame frames =>
    rcases h with ⟨v, h⟩ | h
    all_goals
      cases h
      cases frame <;> exact ⟨_, rfl⟩

end State

section Fronts

variable {offset : Nat} {s : List Char} {state : State}

/-- The tokens of a text in which a reader does not halt are whole. -/
theorem whole_of_not_halted (h : ∀ d, run offset s state ≠ .halted d) :
    Whole (tokensFrom offset s) := by
  intro l hl
  by_contra hbroken
  obtain ⟨before, after, htokens⟩ := List.append_of_mem hl
  obtain ⟨d, hd⟩ := (before.foldl State.next state).next_broken (by simpa using hbroken)
  apply h d
  unfold run
  rw [htokens, List.foldl_append, List.foldl_cons, hd, State.foldl_halted]

/-- The last token of a front behind which a value comes is no number. -/
theorem closes_of_awaited {frames : List Frame} (h : (run offset s state).awaited? = some frames)
    (rest : List Char) : Closes (tokensFrom offset s) rest := by
  rintro ⟨l, hl, v, hv⟩
  obtain ⟨before, htokens⟩ := List.getLast?_eq_some_iff.mp hl
  have hnone := (before.foldl State.next state).awaited?_next_plain hv
  unfold run at h
  rw [htokens, List.foldl_append, List.foldl_cons, List.foldl_nil, hnone] at h
  cases h

theorem exists_lexeme {c : Char} (hc : isGap c = false) (offset : Nat) (rest : List Char) :
    ∃ stop more, tokensFrom offset (c :: rest) =
      ⟨offset, stop, (scanToken offset c rest).1⟩ :: more := by
  rw [tokensFrom, if_neg (by simp [hc])]
  simp only
  split
  · exact ⟨_, [], rfl⟩
  · exact ⟨_, _, rfl⟩

/-- A token that starts as a number goes on is a number, or none at all. -/
theorem scanToken_loud {c : Char} (h : ¬(c.isDigit = false ∧ c ≠ '.' ∧ isExponentMark c = false))
    (offset : Nat) (rest : List Char) : (∃ v, (scanToken offset c rest).1 = .plain v) ∨
      (scanToken offset c rest).1 = .stray := by
  by_cases hdigit : c.isDigit = true
  · left
    rw [scanToken_number (by simp [hdigit])]
    unfold scanNumber
    split <;> exact ⟨_, rfl⟩
  · right
    have hmark : c = '.' ∨ c = 'e' ∨ c = 'E' := by
      simp only [isExponentMark, Bool.or_eq_false_iff, beq_eq_false_iff_ne, ne_eq] at h
      by_contra hother
      simp only [not_or] at hother
      exact h ⟨by simpa using hdigit, hother⟩
    rcases hmark with rfl | rfl | rfl <;> rfl

/-- What is read to its end behind a value does not carry a number on. -/
theorem quiet_of_finished {node root : Node} {frames : List Frame}
    (h : run offset s (.put node frames) = .finished root) : Quiet s := by
  intro c hc
  obtain ⟨rest, rfl⟩ : ∃ rest, s = c :: rest := by
    cases s with
    | nil => cases hc
    | cons d rest => exact ⟨rest, by rw [Option.some.inj hc]⟩
  by_contra hloud
  have hgap : isGap c = false := by
    rw [Bool.eq_false_iff]
    intro hgap
    rcases isGap_iff.mp hgap with rfl | rfl | rfl | rfl
    all_goals exact hloud (by decide)
  obtain ⟨stop, more, htokens⟩ := exists_lexeme hgap offset rest
  obtain ⟨d, hd⟩ := State.next_put_halted node frames
    (l := ⟨offset, stop, (scanToken offset c rest).1⟩) (scanToken_loud hloud offset rest)
  unfold run at h
  rw [htokens, List.foldl_cons, hd, State.foldl_halted] at h
  cases h

end Fronts

end FeedSearch.Json
