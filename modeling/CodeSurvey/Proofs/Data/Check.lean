/-
  Reading back what was written.

  * `Checked.fmap_eq_good_iff`, `Checked.seq_eq_good_iff`: a record is read exactly if each of
    its fields is;
  * `Read.required_cons_self`, `Read.default_cons_self`, `Read.either_cons_self`: a field that is
    there;
  * `Read.list_eq_good_iff`, `Read.natural_nat_iff`, `Read.amount_float_iff`, …: single values in
    their written form;
  * `LawfulLabelled`: types whose words tell their values apart, so that a word is read back
    (`Read.member_toData_iff`, `Read.word_toData_iff`).
-/
import CodeSurvey.Data.Check
import Mathlib.Data.List.Forall2

namespace CodeSurvey

variable {α β : Type}

/-! ## Checked values -/

namespace Checked

@[simp] theorem map_eq_good_iff {f : α → β} {c : Checked α} {b : β} :
    c.map f = .good b ↔ ∃ a, c = .good a ∧ f a = b := by
  cases c with
  | good a => simp [map]
  | bad faults => simp [map]

@[simp] theorem fmap_eq_good_iff {f : α → β} {c : Checked α} {b : β} :
    f <$> c = .good b ↔ ∃ a, c = .good a ∧ f a = b :=
  map_eq_good_iff

@[simp] theorem seq_eq_good_iff {f : Checked (α → β)} {c : Checked α} {b : β} :
    f <*> c = .good b ↔ ∃ g a, f = .good g ∧ c = .good a ∧ g a = b := by
  change f.both c = .good b ↔ _
  cases f with
  | good g =>
    cases c with
    | good a => simp [both]
    | bad faults => simp [both]
  | bad faults =>
    cases c with
    | good a => simp [both]
    | bad more => simp [both]

@[simp] theorem under_eq_good_iff {step : Step} {c : Checked α} {a : α} :
    c.under step = .good a ↔ c = .good a := by
  cases c with
  | good b => rfl
  | bad faults => simp [under]

@[simp] theorem andThen_eq_good_iff {c : Checked α} {f : α → Checked β} {b : β} :
    c.andThen f = .good b ↔ ∃ a, c = .good a ∧ f a = .good b := by
  cases c with
  | good a => simp [andThen]
  | bad faults => simp [andThen]

end Checked

/-! ## Fields -/

namespace Read

variable {read : Data → Checked α} {write : α → Data} {fields : Fields} {name : String} {d : Data}
  {a : α}

@[simp] theorem required_cons_self :
    required read name ((name, d) :: fields) = .good a ↔ read d = .good a := by
  simp [required, Data.get?]

@[simp] theorem required_cons_of_ne {other : String} (h : name ≠ other) :
    required read name ((other, d) :: fields) = required read name fields := by
  rw [required, required, Data.get?, List.lookup_cons, beq_false_of_ne h, Data.get?]

@[simp] theorem default_cons_self {b : α} :
    default b read name ((name, d) :: fields) = .good a ↔ read d = .good a := by
  simp [default, Data.get?]

@[simp] theorem default_cons_of_ne {b : α} {other : String} (h : name ≠ other) :
    default b read name ((other, d) :: fields) = default b read name fields := by
  rw [default, default, Data.get?, List.lookup_cons, beq_false_of_ne h, Data.get?]

@[simp] theorem either_cons_self {other : String} :
    either read name other ((name, d) :: fields) = .good a ↔ read d = .good a := by
  simp [either, required, Data.get?]

@[simp] theorem either_cons_of_ne {other third : String} (h : name ≠ third) (ho : other ≠ third) :
    either read name other ((third, d) :: fields) = either read name other fields := by
  simp only [either, required, Data.get?, List.lookup_cons, beq_false_of_ne h, beq_false_of_ne ho]

/-- The second name counts where the first one is absent. -/
@[simp] theorem either_cons_other {other : String} (h : name ≠ other)
    (habsent : name ∉ fields.map Prod.fst) :
    either read name other ((other, d) :: fields) = .good a ↔ read d = .good a := by
  have hname : Data.get? ((other, d) :: fields) name = none := by
    rw [Data.get?, List.lookup_cons, beq_false_of_ne h]
    refine List.lookup_eq_none_iff.2 fun f hf => bne_iff_ne.2 ?_
    rintro rfl
    exact habsent (List.mem_map_of_mem hf)
  have hother : Data.get? ((other, d) :: fields) other = some d := by
    rw [Data.get?, List.lookup_cons_self]
  simp only [either, hname, hother, Checked.under_eq_good_iff]

/-! ## Single values -/

@[simp] theorem text_text_iff {t u : Text} : text (.text t) = .good u ↔ t = u := by
  simp [text]

@[simp] theorem nonEmptyText_text_iff {t u : Text} :
    nonEmptyText (.text t) = .good u ↔ t = u ∧ t ≠ [] := by
  cases t with
  | nil => simp [nonEmptyText, text, Checked.andThen, Checked.fail]
  | cons c t => simp [nonEmptyText, text, Checked.andThen]

@[simp] theorem boolean_bool_iff {b c : Bool} : boolean (.bool b) = .good c ↔ b = c := by
  simp [boolean]

@[simp] theorem natural_nat_iff {least n m : Nat} :
    natural least (.nat n) = .good m ↔ n = m ∧ least ≤ n := by
  by_cases h : n < least
  · have hlt : (n : Int) < least := by omega
    simp only [natural, Data.nat, integer, Checked.andThen, if_pos hlt, Checked.fail]
    constructor
    · rintro ⟨⟩
    · rintro ⟨-, hle⟩
      omega
  · have hle : ¬ (n : Int) < least := by omega
    simp only [natural, Data.nat, integer, Checked.andThen, if_neg hle, Int.toNat_natCast,
      Checked.good.injEq]
    constructor
    · intro heq
      exact ⟨heq, by omega⟩
    · exact fun hm => hm.1

@[simp] theorem naturalWithin_nat_iff {least greatest n m : Nat} :
    naturalWithin least greatest (.nat n) = .good m ↔ n = m ∧ least ≤ n ∧ n ≤ greatest := by
  simp only [naturalWithin, Checked.andThen_eq_good_iff, natural_nat_iff]
  constructor
  · rintro ⟨k, ⟨rfl, hleast⟩, h⟩
    split at h
    · cases h
    · rename_i hle
      exact ⟨Checked.good.inj h, hleast, Nat.le_of_not_lt hle⟩
  · rintro ⟨rfl, hleast, hle⟩
    exact ⟨n, ⟨rfl, hleast⟩, if_neg (Nat.not_lt.2 hle)⟩

@[simp] theorem amount_float_iff {x y : Binary64} :
    amount (.float x) = .good y ↔ x = y ∧ Binary64.zero.le x = true := by
  by_cases h : Binary64.zero.le x = true
  · simp [amount, number, Checked.andThen, h]
  · simp [amount, number, Checked.andThen, Checked.fail, h]

@[simp] theorem share_float_iff {x y : Binary64} :
    share (.float x) = .good y ↔ x = y ∧ Binary64.zero.le x = true ∧ x.le (.ofInt 1) = true := by
  by_cases hone : x.le (.ofInt 1) = true
  · by_cases hzero : Binary64.zero.le x = true
    · simp [share, number, Checked.andThen, hone, hzero]
    · simp [share, number, Checked.andThen, Checked.fail, hone, hzero]
  · simp [share, number, Checked.andThen, Checked.fail, hone]

@[simp] theorem optional_nat_iff {least : Nat} {o p : Option Nat} :
    optional (natural least) (.optional .nat o) = .good p ↔ o = p ∧ ∀ n ∈ o, least ≤ n := by
  cases o with
  | none => simp [optional, Data.optional]
  | some n =>
    have hopt : optional (natural least) (.nat n) = (natural least (.nat n)).map some := rfl
    rw [Data.optional, hopt]
    simp only [Checked.map_eq_good_iff, natural_nat_iff, Option.mem_some_iff, forall_eq']
    constructor
    · rintro ⟨m, ⟨rfl, hle⟩, rfl⟩
      exact ⟨rfl, hle⟩
    · rintro ⟨rfl, hle⟩
      exact ⟨n, ⟨rfl, hle⟩, rfl⟩

@[simp] theorem optional_text_iff {o p : Option Text} :
    optional text (.optional .text o) = .good p ↔ o = p := by
  cases o with
  | none => simp [optional, Data.optional]
  | some t => simp [optional, Data.optional, text, Checked.map]

theorem items_eq_good_iff {i : Nat} {as bs : List α} :
    items read i (as.map write) = .good bs ↔
      List.Forall₂ (fun a b => read (write a) = .good b) as bs := by
  induction as generalizing i bs with
  | nil =>
    rw [List.map_nil, items, List.forall₂_nil_left_iff, Checked.good.injEq]
    exact eq_comm
  | cons a as ih =>
    rw [List.map_cons, items, Checked.seq_eq_good_iff, List.forall₂_cons_left_iff]
    constructor
    · rintro ⟨g, rest, hg, hrest, rfl⟩
      obtain ⟨b, hb, rfl⟩ := Checked.fmap_eq_good_iff.1 hg
      exact ⟨b, rest, Checked.under_eq_good_iff.1 hb, ih.1 hrest, rfl⟩
    · rintro ⟨b, rest, hb, hrest, rfl⟩
      exact ⟨_, rest, Checked.fmap_eq_good_iff.2 ⟨b, Checked.under_eq_good_iff.2 hb, rfl⟩,
        ih.2 hrest, rfl⟩

/-- A list is read element by element. -/
theorem list_eq_good_iff {as bs : List α} :
    list read (.list write as) = .good bs ↔
      List.Forall₂ (fun a b => read (write a) = .good b) as bs :=
  items_eq_good_iff

/-- A list is read back if its elements are. -/
theorem list_eq_good_self_iff {as : List α} :
    list read (.list write as) = .good as ↔ ∀ a ∈ as, read (write a) = .good a := by
  rw [list_eq_good_iff, List.forall₂_same]

@[simp] theorem list_text_iff {ts us : List Text} : list text (.list .text ts) = .good us ↔ ts = us := by
  rw [list_eq_good_iff]
  simp only [text_text_iff, List.forall₂_eq_eq_eq]

@[simp] theorem pair_text_iff {t u : Text} {p : Text × Text} :
    pair text (.array [.text t, .text u]) = .good p ↔ (t, u) = p := by
  simp [pair, text]

end Read

/-! ## Words -/

/-- A type whose values are told apart by their words. -/
class LawfulLabelled (α : Type) [Labelled α] : Prop where
  ofLabel?_label (a : α) : Labelled.ofLabel? (Text.ofString (Labelled.label a)) = some a

namespace Read

variable [Labelled α] [LawfulLabelled α] {a b : α}

theorem labelled_toData_iff {cause : List String → Cause} :
    labelled cause (Labelled.toData a) = .good b ↔ a = b := by
  simp only [labelled, Labelled.toData, Data.str, LawfulLabelled.ofLabel?_label,
    Checked.good.injEq]

@[simp] theorem member_toData_iff : member (Labelled.toData a) = .good b ↔ a = b :=
  labelled_toData_iff

@[simp] theorem word_toData_iff : word (Labelled.toData a) = .good b ↔ a = b :=
  labelled_toData_iff

end Read

end CodeSurvey
