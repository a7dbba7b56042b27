-- Forms without their null members. A structure that may lack them is read alike with
-- them and without, and whatever is written can be written without them.
import FeedSearch.Proofs.DecodedForms
import Mathlib.Data.List.Nodup

namespace FeedSearch.Json

/-! ## What is left -/

/-- The members that are not null; they may change inside. -/
def kept (inside : String → Form → Form) (ms : List (String × Form)) : List (String × Form) :=
  (ms.filter fun m => !m.2.isNull).map fun m => (m.1, inside m.1 m.2)

/-- An object without its null members. -/
def withoutNulls (inside : String → Form → Form) : Form → Form
  | .object ms => .object (kept inside ms)
  | f => f

/-- Changes the member of one name, and no other. -/
def under (name : String) (change : Form → Form) (name' : String) (f : Form) : Form :=
  if name' = name then change f else f

section Kept

variable {inside : String → Form → Form} {name : String} {f : Form} {ms : List (String × Form)}

theorem isNull_iff : f.isNull = true ↔ f = .null := by
  constructor
  · intro h
    unfold Form.isNull at h
    split at h
    · rfl
    · cases h
  · rintro rfl
    rfl

theorem kept_cons_null (h : f.isNull = true) : kept inside ((name, f) :: ms) = kept inside ms := by
  rw [kept, List.filter_cons_of_neg (by simp [h]), kept]

theorem kept_cons (h : f.isNull = false) :
    kept inside ((name, f) :: ms) = (name, inside name f) :: kept inside ms := by
  rw [kept, List.filter_cons_of_pos (by simp [h]), List.map_cons, kept]

/-- The name of a member that is null goes with it. -/
theorem notMem_kept (hnames : (ms.map (·.1)).Nodup) (hnull : (name, .null) ∈ ms) :
    name ∉ (kept inside ms).map (·.1) := by
  intro h
  simp only [kept, List.map_map, List.mem_map, List.mem_filter, Function.comp_apply] at h
  obtain ⟨m, ⟨hm, hleft⟩, hname⟩ := h
  obtain rfl : m = (name, .null) := List.inj_on_of_nodup_map hnames hm hnull hname
  cases hleft

end Kept

/-! ## Forms that are thinner -/

section Thinner

variable {lacks : String → Prop} {G : String → Form → Form → Prop} {inside : String → Form → Form}

theorem thinMembers_kept (hinside : ∀ name f, G name f (inside name f))
    {ms : List (String × Form)} (hlacks : ∀ name, (name, Form.null) ∈ ms → lacks name) :
    ThinMembers lacks G ms (kept inside ms) := by
  induction ms with
  | nil => exact .nil
  | cons m ms ih =>
    obtain ⟨name, f⟩ := m
    have hrest := ih fun name hname => hlacks name (List.mem_cons_of_mem _ hname)
    cases hf : f.isNull with
    | true =>
      rw [kept_cons_null hf]
      obtain rfl := isNull_iff.mp hf
      exact .drop (hlacks name List.mem_cons_self) hrest
    | false =>
      rw [kept_cons hf]
      exact .keep (hinside name f) hrest

theorem thin_withoutNulls (hinside : ∀ name f, G name f (inside name f)) (f : Form) :
    Thin (fun _ => True) G f (withoutNulls inside f) := by
  cases f with
  | object ms => exact .object (thinMembers_kept hinside fun _ _ => trivial)
  | plain v => exact .same _
  | text s => exact .same _
  | list items => exact .same _

end Thinner

/-! ## Texts that are thinner -/

section Texts

variable {inside : String → Form → Form} {change : Form → Form}

/-- A member may be put before the members of an object. -/
theorem exists_longer (name : Name) (value : Written) {w : Written} {ms : List (String × Form)}
    (hw : w.form = .object ms) :
    ∃ w' : Written, w'.form = .object ((name.content, value.form) :: ms) := by
  cases w with
  | emptyObject gap =>
    cases hw
    exact ⟨.object (.last .none name .none .none value gap), rfl⟩
  | object members =>
    cases hw
    exact ⟨.object (.more .none name .none .none value .none members), rfl⟩
  | truth b => cases b <;> cases hw
  | _ => cases hw

/-- One more member is kept, unless it is null. -/
theorem exists_kept (h : ∀ name (w : Written), ∃ w' : Written, w'.form = inside name w.form)
    (name : Name) (value : Written) {w : Written} {ms : List (String × Form)}
    (hw : w.form = .object (kept inside ms)) :
    ∃ w' : Written, w'.form = .object (kept inside ((name.content, value.form) :: ms)) := by
  cases hnull : value.form.isNull with
  | true =>
    rw [kept_cons_null hnull]
    exact ⟨w, hw⟩
  | false =>
    obtain ⟨value', hvalue⟩ := h name.content value
    rw [kept_cons hnull, ← hvalue]
    exact exists_longer name value' hw

theorem Members.exists_kept
    (h : ∀ name (w : Written), ∃ w' : Written, w'.form = inside name w.form) :
    ∀ members : Members, ∃ w : Written, w.form = .object (kept inside members.forms)
  | .last _ name _ _ value _ => by
    have hnone : (Written.emptyObject .none).form = .object (kept inside []) := rfl
    exact Json.exists_kept h name value hnone
  | .more _ name _ _ value _ rest => by
    obtain ⟨w, hw⟩ := rest.exists_kept h
    exact Json.exists_kept h name value hw

/-- What is written can be written without its null members, if the others can be changed. -/
theorem exists_withoutNulls (h : ∀ name (w : Written), ∃ w' : Written, w'.form = inside name w.form)
    (w : Written) : ∃ w' : Written, w'.form = withoutNulls inside w.form := by
  cases w with
  | object members => exact members.exists_kept h
  | emptyObject gap => exact ⟨.emptyObject gap, rfl⟩
  | null => exact ⟨.null, rfl⟩
  | truth b => exact ⟨.truth b, by cases b <;> rfl⟩
  | number n => exact ⟨.number n, rfl⟩
  | quote q => exact ⟨.quote q, rfl⟩
  | emptyList gap => exact ⟨.emptyList gap, rfl⟩
  | list items => exact ⟨.list items, rfl⟩

theorem exists_under {name : String} (h : ∀ w : Written, ∃ w' : Written, w'.form = change w.form)
    (name' : String) (w : Written) : ∃ w' : Written, w'.form = under name change name' w.form := by
  unfold under
  split
  · exact h w
  · exact ⟨w, rfl⟩

theorem Items.exists_mapped (h : ∀ w : Written, ∃ w' : Written, w'.form = change w.form) :
    ∀ items : Items, ∃ items' : Items, items'.forms = items.forms.map change
  | .last before item after => by
    obtain ⟨item', hitem⟩ := h item
    exact ⟨.last before item' after, congrArg (fun f => [f]) hitem⟩
  | .more before item after rest => by
    obtain ⟨item', hitem⟩ := h item
    obtain ⟨rest', hrest⟩ := rest.exists_mapped h
    exact ⟨.more before item' after rest', List.cons_eq_cons.mpr ⟨hitem, hrest⟩⟩

end Texts

end FeedSearch.Json
