import Mathlib.Data.List.Forall2
import Mathlib.Tactic.MkIffOfInductiveProp
import RepoWatch.Payload.Decoder
/-!
# Spellings

The form of the JSON data of a payload is told by relations between data and typed values: how a
string or a word is spelled, a list, a value that may be null, and a record, by the rules for its
fields. Beside each relation stands the decoder that accepts what is spelled so, and nothing else.
-/

namespace RepoWatch.Payload

variable {α β ρ : Type}

/-- Which data spell which values. -/
abbrev Spelling (α : Type) := Json → α → Prop

/-- The spelling that a decoder reads. -/
def Decoder.accepts (decode : Decoder α) : Spelling α := fun v a => decode v = .ok a

namespace Spelling

/-! ## Values -/

def string : Spelling String := fun v s => v = .string s

/-- An integer in the range of the type, and never a double. -/
def word : Spelling UInt32 := fun v n => v = .integer n.toNat

def signedWord : Spelling Int32 := fun v n => v = .integer n.toInt

def list (s : Spelling α) : Spelling (List α) := fun v as =>
  ∃ items, v = .array items ∧ List.Forall₂ s items as

/-- Null is nothing, and all else what it spells. -/
inductive Nullable (s : Spelling α) : Spelling (Option α) where
  | null : Nullable s .null none
  | value {v : Json} {a : α} (hne : v ≠ .null) (h : s v a) : Nullable s v (some a)

/-! ## Records -/

/-- What stands for a field that must be there. -/
@[mk_iff]
inductive Required (s : Spelling α) : Option Json → α → Prop where
  | given {v : Json} {a : α} (h : s v a) : Required s (some v) a

/-- What stands for a field that may be absent, or null. -/
@[mk_iff]
inductive Optional (s : Spelling α) : Option Json → Option α → Prop where
  | absent : Optional s none none
  | given {v : Json} {a : Option α} (h : Nullable s v a) : Optional s (some v) a

/-- What stands for a list that may be absent when it is empty. -/
@[mk_iff]
inductive ListIfAny (s : Spelling α) : Option Json → List α → Prop where
  | absent : ListIfAny s none []
  | given {v : Json} {as : List α} (h : list s v as) : ListIfAny s (some v) as

/-- How the records of a type have one of their fields. -/
structure Rule (ρ : Type) where
  key : String
  /-- What stands for the field, if something does, spells it. -/
  spells : Option Json → ρ → Prop
  /-- Whether the field may be left out at the end of an array. -/
  mayEnd : Bool

namespace Rule

variable (key : String) (s : Spelling α) (found : Option Json) (r : ρ)

def required (get : ρ → α) : Rule ρ := ⟨key, fun found r => Required s found (get r), false⟩

def optional (get : ρ → Option α) : Rule ρ := ⟨key, fun found r => Optional s found (get r), false⟩

def trailingList (get : ρ → List α) : Rule ρ :=
  ⟨key, fun found r => ListIfAny s found (get r), true⟩

@[simp] theorem key_required (get : ρ → α) : (required key s get).key = key := rfl

@[simp] theorem key_optional (get : ρ → Option α) : (optional key s get).key = key := rfl

@[simp] theorem key_trailingList (get : ρ → List α) : (trailingList key s get).key = key := rfl

@[simp] theorem spells_required (get : ρ → α) :
    (required key s get).spells found r ↔ Required s found (get r) := Iff.rfl

@[simp] theorem spells_optional (get : ρ → Option α) :
    (optional key s get).spells found r ↔ Optional s found (get r) := Iff.rfl

@[simp] theorem spells_trailingList (get : ρ → List α) :
    (trailingList key s get).spells found r ↔ ListIfAny s found (get r) := Iff.rfl

@[simp] theorem mayEnd_required (get : ρ → α) : (required key s get).mayEnd = false := rfl

@[simp] theorem mayEnd_optional (get : ρ → Option α) : (optional key s get).mayEnd = false := rfl

@[simp] theorem mayEnd_trailingList (get : ρ → List α) :
    (trailingList key s get).mayEnd = true := rfl

end Rule

/-- The items are the fields of a record, one by one. -/
inductive InOrder : List (Rule ρ) → List Json → ρ → Prop where
  | nil {r : ρ} : InOrder [] [] r
  | cons {rule : Rule ρ} {rules : List (Rule ρ)} {v : Json} {items : List Json} {r : ρ}
      (h : rule.spells (some v) r) (hs : InOrder rules items r) :
      InOrder (rule :: rules) (v :: items) r
  | leftOut {rule : Rule ρ} {rules : List (Rule ρ)} {r : ρ} (hend : rule.mayEnd = true)
      (h : rule.spells none r) (hs : InOrder rules [] r) : InOrder (rule :: rules) [] r

/-- A record is an object with its fields under their keys, whatever else the object has, or an array
of its fields. -/
@[mk_iff]
inductive Record (rules : List (Rule ρ)) : Json → ρ → Prop where
  | object {entries : List (String × Json)} {r : ρ}
      (h : ∀ rule ∈ rules, rule.spells (Json.lookup rule.key entries) r) :
      Record rules (.object entries) r
  | array {items : List Json} {r : ρ} (h : InOrder rules items r) : Record rules (.array items) r

@[simp] theorem inOrder_nil_iff {items : List Json} {r : ρ} :
    InOrder [] items r ↔ items = [] := by
  constructor
  · rintro ⟨⟩
    rfl
  · rintro rfl
    exact .nil

@[simp] theorem inOrder_cons_iff {rule : Rule ρ} {rules : List (Rule ρ)} {items : List Json}
    {r : ρ} :
    InOrder (rule :: rules) items r ↔
      (∃ v rest, items = v :: rest ∧ rule.spells (some v) r ∧ InOrder rules rest r) ∨
        (items = [] ∧ rule.mayEnd = true ∧ rule.spells none r ∧ InOrder rules [] r) := by
  constructor
  · intro h
    cases h with
    | cons h hs => exact .inl ⟨_, _, rfl, h, hs⟩
    | leftOut hend h hs => exact .inr ⟨rfl, hend, h, hs⟩
  · rintro (⟨v, rest, rfl, h, hs⟩ | ⟨rfl, hend, h, hs⟩)
    · exact .cons h hs
    · exact .leftOut hend h hs

end Spelling

/-! ## Decoders of values -/

@[simp] theorem accepts_string : Decoder.accepts string = Spelling.string := by
  funext v s
  cases v <;> simp [Decoder.accepts, string, Spelling.string]

@[simp] theorem accepts_word : Decoder.accepts word = Spelling.word := by
  funext v n
  cases v with
  | integer i =>
      have hn := n.toNat_lt
      simp only [Decoder.accepts, word, Spelling.word, Json.integer.injEq]
      split
      · rename_i hrange
        rw [Except.ok.injEq, ← UInt32.toNat_inj, UInt32.toNat_ofNat', eq_iff_iff]
        omega
      · simp
        omega
  | null | bool | double | string | array | object =>
      simp [Decoder.accepts, word, Spelling.word]

@[simp] theorem accepts_signedWord : Decoder.accepts signedWord = Spelling.signedWord := by
  funext v n
  cases v with
  | integer i =>
      have hlow := n.le_toInt
      have hhigh := n.toInt_lt
      simp only [Decoder.accepts, signedWord, Spelling.signedWord, Json.integer.injEq]
      split
      · rename_i hrange
        rw [Except.ok.injEq, ← Int32.toInt_inj, Int32.toInt_ofInt_of_le hrange.1 hrange.2,
          eq_iff_iff]
      · simp
        omega
  | null | bool | double | string | array | object =>
      simp [Decoder.accepts, signedWord, Spelling.signedWord]

@[simp] theorem accepts_nullable (decode : Decoder α) :
    Decoder.accepts (nullable decode) = Spelling.Nullable (Decoder.accepts decode) := by
  funext v a
  rw [eq_iff_iff]
  by_cases hv : v = .null
  · subst hv
    constructor
    · rintro ⟨⟩
      exact .null
    · rintro (_ | ⟨hne, -⟩)
      · rfl
      · exact absurd rfl hne
  · have hread : nullable decode v = some <$> decode v := by
      cases v with
      | null => exact absurd rfl hv
      | bool | integer | double | string | array | object => rfl
    rw [Decoder.accepts, hread]
    constructor
    · intro h
      cases hdecode : decode v with
      | error fault =>
          rw [hdecode] at h
          cases h
      | ok b =>
          rw [hdecode] at h
          obtain rfl := Except.ok.inj h
          exact .value hv hdecode
    · rintro (_ | ⟨-, h⟩)
      · exact absurd rfl hv
      · rw [show decode v = .ok _ from h]
        rfl

/-- The items of a list are read one by one. -/
theorem mapM_eq_ok_iff {decode : Decoder α} {items : List Json} {as : List α} :
    items.mapM decode = .ok as ↔ List.Forall₂ (Decoder.accepts decode) items as := by
  induction items generalizing as with
  | nil =>
      rw [List.mapM_nil, List.forall₂_nil_left_iff]
      exact ⟨fun h => (Except.ok.inj h).symm, fun h => h ▸ rfl⟩
  | cons v items ih =>
      rw [List.mapM_cons, List.forall₂_cons_left_iff]
      cases hv : decode v with
      | error fault =>
          constructor
          · rintro ⟨⟩
          · rintro ⟨a, _, ha, -⟩
            rw [Decoder.accepts, hv] at ha
            cases ha
      | ok a =>
          cases hitems : items.mapM decode with
          | error fault =>
              constructor
              · rintro ⟨⟩
              · rintro ⟨_, as, -, has, -⟩
                rw [← ih, hitems] at has
                cases has
          | ok as' =>
              have has' := ih.1 hitems
              constructor
              · rintro ⟨⟩
                exact ⟨a, as', hv, has', rfl⟩
              · rintro ⟨a', as, ha, has, rfl⟩
                rw [← ih, hitems] at has
                obtain rfl := Except.ok.inj has
                obtain rfl := Except.ok.inj (hv.symm.trans ha)
                rfl

@[simp] theorem accepts_list (decode : Decoder α) :
    Decoder.accepts (list decode) = Spelling.list (Decoder.accepts decode) := by
  funext v as
  cases v with
  | array items => simp [Decoder.accepts, list, Spelling.list, mapM_eq_ok_iff]
  | null | bool | integer | double | string | object =>
      simp [Decoder.accepts, list, Spelling.list]

/-! ## Decoders of records -/

theorem bind_eq_ok_iff {ε : Type} {x : Except ε α} {k : α → Except ε β} {b : β} :
    (x >>= k) = .ok b ↔ ∃ a, x = .ok a ∧ k a = .ok b := by
  cases x <;> simp [bind, Except.bind]

namespace Fields

/-- Values that can be read are not found faulty. -/
class Lawful (f : Fields α) : Prop where
  checked : ∀ {get : String → Option Json} {a : α}, f.byKey get = .ok a →
    ∀ check ∈ f.checks, (get check.1).bind check.2 = none

/-- What is read under the keys has a property. -/
def ByKey (f : Fields α) (get : String → Option Json) (P : α → Prop) : Prop :=
  ∃ a, f.byKey get = .ok a ∧ P a

/-- What is read from the front of a list has a property, together with what is left. -/
def InOrder (f : Fields α) (items : List Json) (P : α → List Json → Prop) : Prop :=
  ∃ a rest, f.inOrder items = .ok (some (a, rest)) ∧ P a rest

section Reading

variable {g : Fields (α → β)} {f : Fields α} {c : α → β} {get : String → Option Json}
  {items rest : List Json} {a : α} {b : β}

theorem byKey_seq_eq_ok_iff : (g <*> f).byKey get = .ok b ↔
    ∃ c, g.byKey get = .ok c ∧ ∃ a, f.byKey get = .ok a ∧ c a = b := by
  show (g.byKey get >>= fun c => f.byKey get >>= fun a => .ok (c a)) = .ok b ↔ _
  simp only [bind_eq_ok_iff, Except.ok.injEq]

theorem byKey_map_eq_ok_iff : (c <$> f).byKey get = .ok b ↔
    ∃ a, f.byKey get = .ok a ∧ c a = b := by
  show (f.byKey get >>= fun a => .ok (c a)) = .ok b ↔ _
  simp only [bind_eq_ok_iff, Except.ok.injEq]

theorem inOrder_seq_eq_ok_iff : (g <*> f).inOrder items = .ok (some (b, rest)) ↔
    ∃ c mid, g.inOrder items = .ok (some (c, mid)) ∧
      ∃ a, f.inOrder mid = .ok (some (a, rest)) ∧ c a = b := by
  show (Fields.seq g fun _ => f).inOrder items = .ok (some (b, rest)) ↔ _
  simp only [Fields.seq, bind_eq_ok_iff]
  constructor
  · rintro ⟨_ | ⟨c, mid⟩, hg, h⟩
    · cases h
    · obtain ⟨_ | ⟨a, rest'⟩, hf, h⟩ := bind_eq_ok_iff.1 h
      · cases h
      · cases h
        exact ⟨c, mid, hg, a, hf, rfl⟩
  · rintro ⟨c, mid, hg, a, hf, rfl⟩
    exact ⟨some (c, mid), hg, bind_eq_ok_iff.2 ⟨some (a, rest), hf, rfl⟩⟩

theorem inOrder_map_eq_ok_iff : (c <$> f).inOrder items = .ok (some (b, rest)) ↔
    ∃ a, f.inOrder items = .ok (some (a, rest)) ∧ c a = b := by
  show (Fields.pure c <*> f).inOrder items = .ok (some (b, rest)) ↔ _
  rw [inOrder_seq_eq_ok_iff]
  simp [Fields.pure]

@[simp] theorem byKey_seq {P : β → Prop} :
    (g <*> f).ByKey get P ↔ g.ByKey get fun c => f.ByKey get fun a => P (c a) := by
  simp only [ByKey, byKey_seq_eq_ok_iff]
  constructor
  · rintro ⟨b, ⟨c, hc, a, ha, rfl⟩, hp⟩
    exact ⟨c, hc, a, ha, hp⟩
  · rintro ⟨c, hc, a, ha, hp⟩
    exact ⟨c a, ⟨c, hc, a, ha, rfl⟩, hp⟩

@[simp] theorem byKey_map {P : β → Prop} :
    (c <$> f).ByKey get P ↔ f.ByKey get fun a => P (c a) := by
  simp only [ByKey, byKey_map_eq_ok_iff]
  constructor
  · rintro ⟨b, ⟨a, ha, rfl⟩, hp⟩
    exact ⟨a, ha, hp⟩
  · rintro ⟨a, ha, hp⟩
    exact ⟨c a, ⟨a, ha, rfl⟩, hp⟩

@[simp] theorem inOrder_seq {P : β → List Json → Prop} :
    (g <*> f).InOrder items P ↔
      g.InOrder items fun c mid => f.InOrder mid fun a rest => P (c a) rest := by
  simp only [InOrder, inOrder_seq_eq_ok_iff]
  constructor
  · rintro ⟨b, rest, ⟨c, mid, hc, a, ha, rfl⟩, hp⟩
    exact ⟨c, mid, hc, a, rest, ha, hp⟩
  · rintro ⟨c, mid, hc, a, rest, ha, hp⟩
    exact ⟨c a, rest, ⟨c, mid, hc, a, ha, rfl⟩, hp⟩

@[simp] theorem inOrder_map {P : β → List Json → Prop} :
    (c <$> f).InOrder items P ↔ f.InOrder items fun a rest => P (c a) rest := by
  simp only [InOrder, inOrder_map_eq_ok_iff]
  constructor
  · rintro ⟨b, rest, ⟨a, ha, rfl⟩, hp⟩
    exact ⟨a, rest, ha, hp⟩
  · rintro ⟨a, rest, ha, hp⟩
    exact ⟨c a, rest, ⟨a, ha, rfl⟩, hp⟩

end Reading

section Field

variable {key : String} {decode : Decoder α} {absent : Option α} {get : String → Option Json}
  {items rest : List Json} {a : α}

theorem byKey_field_eq_ok_iff : (field key decode absent).byKey get = .ok a ↔
    (get key = none ∧ absent = some a) ∨ ∃ v, get key = some v ∧ decode v = .ok a := by
  simp only [field]
  cases get key with
  | some v => simp
  | none => cases absent <;> simp

theorem inOrder_field_eq_ok_iff : (field key decode absent).inOrder items = .ok (some (a, rest)) ↔
    ∃ v, items = v :: rest ∧ decode v = .ok a := by
  cases items with
  | nil => simp [field]
  | cons v items =>
      show (decode v >>= fun a => .ok (some (a, items))) = .ok (some (a, rest)) ↔ _
      simp only [bind_eq_ok_iff]
      constructor
      · rintro ⟨a', ha, h⟩
        cases h
        exact ⟨v, rfl, ha⟩
      · rintro ⟨v', hitems, ha⟩
        cases hitems
        exact ⟨a, ha, rfl⟩

@[simp] theorem byKey_required {P : α → Prop} : (required key decode).ByKey get P ↔
    ∃ a, Spelling.Required decode.accepts (get key) a ∧ P a := by
  apply exists_congr
  intro a
  rw [required, byKey_field_eq_ok_iff, Spelling.required_iff]
  simp [Decoder.accepts, and_comm]

@[simp] theorem byKey_optional {P : Option α → Prop} : (optional key decode).ByKey get P ↔
    ∃ a, Spelling.Optional decode.accepts (get key) a ∧ P a := by
  apply exists_congr
  intro a
  rw [optional, byKey_field_eq_ok_iff, Spelling.optional_iff, ← accepts_nullable]
  simp [Decoder.accepts, and_comm, eq_comm]

@[simp] theorem byKey_trailingList {P : List α → Prop} : (trailingList key decode).ByKey get P ↔
    ∃ a, Spelling.ListIfAny decode.accepts (get key) a ∧ P a := by
  apply exists_congr
  intro a
  rw [Spelling.listIfAny_iff, ← accepts_list]
  show (field key (list decode) (some [])).byKey get = .ok a ∧ P a ↔ _
  rw [byKey_field_eq_ok_iff]
  simp [Decoder.accepts, and_comm, eq_comm]

theorem inOrder_field {P : α → List Json → Prop} :
    (field key decode absent).InOrder items P ↔
      ∃ v rest, items = v :: rest ∧ ∃ a, decode.accepts v a ∧ P a rest := by
  unfold InOrder
  simp only [inOrder_field_eq_ok_iff]
  constructor
  · rintro ⟨a, rest, ⟨v, hitems, ha⟩, hp⟩
    exact ⟨v, rest, hitems, a, ha, hp⟩
  · rintro ⟨v, rest, hitems, a, ha, hp⟩
    exact ⟨a, rest, ⟨v, hitems, ha⟩, hp⟩

@[simp] theorem inOrder_required {P : α → List Json → Prop} :
    (required key decode).InOrder items P ↔
      ∃ v rest, items = v :: rest ∧
        ∃ a, Spelling.Required decode.accepts (some v) a ∧ P a rest := by
  rw [required, inOrder_field]
  simp [Spelling.required_iff]

@[simp] theorem inOrder_optional {P : Option α → List Json → Prop} :
    (optional key decode).InOrder items P ↔
      ∃ v rest, items = v :: rest ∧
        ∃ a, Spelling.Optional decode.accepts (some v) a ∧ P a rest := by
  rw [optional, inOrder_field]
  simp [Spelling.optional_iff]

@[simp] theorem inOrder_trailingList {P : List α → List Json → Prop} :
    (trailingList key decode).InOrder items P ↔
      ∃ a rest, ((∃ v, items = v :: rest ∧ Spelling.ListIfAny decode.accepts (some v) a) ∨
        (items = [] ∧ rest = [] ∧ Spelling.ListIfAny decode.accepts none a)) ∧ P a rest := by
  cases items with
  | nil => simp [InOrder, trailingList, Spelling.listIfAny_iff, and_assoc]
  | cons v items =>
      have hfield : (trailingList key decode).InOrder (v :: items) P ↔
        (field key (list decode) none).InOrder (v :: items) P := Iff.rfl
      rw [hfield, inOrder_field]
      simp [Spelling.listIfAny_iff, and_assoc]

end Field

/-! ### Records as a whole -/

section Lawful

variable {key : String} {decode : Decoder α} {absent : Option α}

instance (a : α) : Lawful (Fields.pure a) := ⟨fun _ _ h => nomatch h⟩

instance {g : Fields (α → β)} {f : Fields α} [hg : g.Lawful] [hf : f.Lawful] :
    (g <*> f).Lawful where
  checked {get b} h check hmem := by
    obtain ⟨c, hc, a, ha, -⟩ := byKey_seq_eq_ok_iff.1 h
    rcases List.mem_append.1 hmem with hmem | hmem
    · exact hg.checked hc check hmem
    · exact hf.checked ha check hmem

instance {c : α → β} {f : Fields α} [hf : f.Lawful] : (c <$> f).Lawful :=
  inferInstanceAs (Fields.pure c <*> f).Lawful

theorem faultOf_eq_none_iff {v : Json} : faultOf decode v = none ↔ ∃ a, decode v = .ok a := by
  unfold faultOf
  cases decode v <;> simp

instance : (field key decode absent).Lawful where
  checked {get a} h check hmem := by
    obtain rfl := List.mem_singleton.1 hmem
    rcases byKey_field_eq_ok_iff.1 h with ⟨hget, -⟩ | ⟨v, hget, hv⟩
    · simp [hget]
    · simpa [hget] using faultOf_eq_none_iff.2 ⟨a, hv⟩

instance : (required key decode).Lawful := inferInstanceAs (field key decode none).Lawful

instance : (optional key decode).Lawful :=
  inferInstanceAs (field key (nullable decode) (some none)).Lawful

instance : (trailingList key decode).Lawful where
  checked h := Lawful.checked (f := field key (list decode) (some [])) h

end Lawful
end Fields

theorem foldl_least_eq_none_iff {best : Option (String × DecodeFault)}
    {faults : List (String × DecodeFault)} :
    faults.foldl firstFault.least best = none ↔ best = none ∧ faults = [] := by
  induction faults generalizing best with
  | nil => simp
  | cons fault faults ih =>
      rw [List.foldl_cons, ih]
      cases best <;> simp [firstFault.least]

theorem firstFault_eq_none_iff {checks : List (String × (Json → Option DecodeFault))}
    {get : String → Option Json} :
    firstFault checks get = none ↔ ∀ check ∈ checks, (get check.1).bind check.2 = none := by
  unfold firstFault
  rw [Option.map_eq_none_iff, foldl_least_eq_none_iff]
  simp

section Record

variable {f : Fields ρ} {rules : List (Spelling.Rule ρ)}

theorem ofObject_eq_ok_iff [f.Lawful] {get : String → Option Json} {r : ρ} :
    f.ofObject get = .ok r ↔ f.byKey get = .ok r := by
  unfold Fields.ofObject
  cases hfault : firstFault f.checks get with
  | none => exact Iff.rfl
  | some fault =>
      constructor
      · rintro ⟨⟩
      · intro h
        rw [firstFault_eq_none_iff.2 (Fields.Lawful.checked h)] at hfault
        cases hfault

theorem ofArray_eq_ok_iff {name : String} {tooLong : DecodeFault} {items : List Json} {r : ρ} :
    f.ofArray name tooLong items = .ok r ↔ f.inOrder items = .ok (some (r, [])) := by
  unfold Fields.ofArray
  rcases f.inOrder items with fault | _ | ⟨a, _ | ⟨v, rest⟩⟩ <;> simp [bind, Except.bind]

/-- Fields are read as rules tell. -/
structure Fields.Obeys (f : Fields ρ) (rules : List (Spelling.Rule ρ)) : Prop where
  byKey : ∀ get r, f.byKey get = .ok r ↔ ∀ rule ∈ rules, rule.spells (get rule.key) r
  inOrder : ∀ items r, f.inOrder items = .ok (some (r, [])) ↔ Spelling.InOrder rules items r

/-- The fields of a record may be looked at one after the other. -/
theorem Fields.obeys_of_reads
    (hkey : ∀ r get, f.ByKey get (· = r) ↔ ∀ rule ∈ rules, rule.spells (get rule.key) r)
    (horder : ∀ r items, f.InOrder items (fun a rest => rest = [] ∧ a = r) ↔
      Spelling.InOrder rules items r) : f.Obeys rules where
  byKey get r := by
    rw [← hkey]
    simp [Fields.ByKey]
  inOrder items r := by
    rw [← horder]
    simp [Fields.InOrder]

theorem Fields.Obeys.record_iff (h : f.Obeys rules) {v : Json} {r : ρ} :
    Spelling.Record rules v r ↔
      (∃ entries, v = .object entries ∧ f.byKey (fun key => Json.lookup key entries) = .ok r) ∨
        ∃ items, v = .array items ∧ f.inOrder items = .ok (some (r, [])) := by
  rw [Spelling.record_iff]
  simp only [h.byKey, h.inOrder, and_comm]

/-- A decoder of records accepts those whose fields are as the rules tell. -/
theorem accepts_record [f.Lawful] (h : f.Obeys rules) (name : String) :
    Decoder.accepts (record name f) = Spelling.Record rules := by
  funext v r
  rw [eq_iff_iff, h.record_iff]
  cases v with
  | object | array => simp [Decoder.accepts, record, ofObject_eq_ok_iff, ofArray_eq_ok_iff]
  | null | bool | integer | double | string => simp [Decoder.accepts, record]

theorem accepts_taggedRecord [f.Lawful] (h : f.Obeys rules) (name : String) :
    Decoder.accepts (taggedRecord name f) = Spelling.Record rules := by
  funext v r
  rw [eq_iff_iff, h.record_iff]
  cases v with
  | object | array => simp [Decoder.accepts, taggedRecord, ofObject_eq_ok_iff, ofArray_eq_ok_iff]
  | null | bool | integer | double | string => simp [Decoder.accepts, taggedRecord]

end Record
end RepoWatch.Payload
