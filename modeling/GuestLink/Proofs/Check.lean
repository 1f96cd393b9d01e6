import GuestLink.Check.Reader
import Mathlib.Data.List.Forall2

/-!
# Values that pass their checks

A checked value has a result if all that it is made of has one, and then the result is made of
theirs.  `Validation.IsDocumented` says what a validation is relied on for: values of a type are
taken as they are, whatever else is taken for one is within its bounds, and what a field holds is
what its reader gives for the datum under its name, or the value by default where there is none.
The lenient readers do so (`lax_isDocumented`).
-/

namespace GuestLink

namespace Checked

variable {α β : Type}

theorem ap_eq_ok_iff {f : Checked (α → β)} {c : Checked α} {b : β} :
    f.ap c = .ok b ↔ ∃ g a, f = .ok g ∧ c = .ok a ∧ g a = b := by
  cases f <;> cases c <;> simp [ap]

theorem but_eq_ok_iff {c : Checked α} {more : List Complaint} {a : α} :
    c.but more = .ok a ↔ c = .ok a ∧ more = [] := by
  cases more <;> simp [but]

theorem within_eq_ok_iff {c : Checked α} {place : Place} {a : α} :
    c.within place = .ok a ↔ c = .ok a := by
  cases c <;> simp [within]

theorem ofRead_eq_ok_iff {r : Except Fault α} {a : α} : ofRead r = .ok a ↔ r = .ok a := by
  cases r <;> simp [ofRead]

theorem all_eq_ok_iff {cs : List (Checked α)} {as : List α} :
    all cs = .ok as ↔ List.Forall₂ (fun c a => c = .ok a) cs as := by
  induction cs generalizing as with
  | nil =>
    rw [List.forall₂_nil_left_iff]
    simp [all, eq_comm]
  | cons c cs ih =>
    rw [all, List.forall₂_cons_left_iff]
    simp only [ap_eq_ok_iff, ok.injEq, ih]
    constructor
    · rintro ⟨_, bs, ⟨_, a, rfl, ha, rfl⟩, hbs, rfl⟩
      exact ⟨a, bs, ha, hbs, rfl⟩
    · rintro ⟨a, bs, ha, hbs, rfl⟩
      exact ⟨_, bs, ⟨_, a, rfl, ha, rfl⟩, hbs, rfl⟩

end Checked

/-! ### What validation is relied on for -/

/-- What the documentation of a validation says of values that pass. -/
structure Validation.IsDocumented (v : Validation) : Prop where
  /-- An integer within the bounds is taken as it is. -/
  natural_int {least n : Nat} {greatest : Option Nat} (hl : least ≤ n)
    (hg : ∀ g ∈ greatest, n ≤ g) : v.natural least greatest (.int n) = .ok n
  /-- Whatever is taken for an integer is within the bounds. -/
  natural_bounds {least n : Nat} {greatest : Option Nat} {d : Datum}
    (h : v.natural least greatest d = .ok n) : least ≤ n ∧ ∀ g ∈ greatest, n ≤ g
  truth_bool (b : Bool) : v.truth (.bool b) = .ok b
  text_text (s : String) : v.text (.text s) = .ok s
  path_text (s : String) : v.path (.text s) = .ok (.ofText s)
  /-- Whatever is taken for a path is one that a text writes. -/
  exists_text_of_path {d : Datum} {p : Path} (h : v.path d = .ok p) : ∃ s, p = .ofText s
  oneOf_name {α : Type} {values : List (String × α)} {name : String} {a : α}
    (h : values.lookup name = some a) : v.oneOf values (.text name) = .ok a
  each_list {α : Type} {read : Reader α} {ds : List Datum} {as : List α}
    (h : List.Forall₂ (fun d a => read d = .ok a) ds as) : v.each read (.list ds) = .ok as
  /-- Whatever is taken for a list, its elements are read one by one. -/
  exists_read_of_each {α : Type} {read : Reader α} {d : Datum} {as : List α}
    (h : v.each read d = .ok as) : ∀ a ∈ as, ∃ d, read d = .ok a
  record_record {α : Type} (name : String) (read : Fields → Checked α) (fs : Fields) :
    v.record name read (.record fs) = read fs
  /-- Whatever is taken for a record, its fields are read. -/
  exists_read_of_record {α : Type} {name : String} {read : Fields → Checked α} {d : Datum} {a : α}
    (h : v.record name read d = .ok a) : ∃ fs, read fs = .ok a
  field_present {α : Type} {fs : Fields} {name : String} {default : Option α} {read : Reader α}
    {d : Datum} {a : α} (h : fs.lookup name = some d) :
    v.field fs name default read = .ok a ↔ read d = .ok a
  field_absent {α : Type} {fs : Fields} {name : String} {default : Option α} {read : Reader α}
    {a : α} (h : fs.lookup name = none) : v.field fs name default read = .ok a ↔ default = some a
  /-- There are no complaints about known fields. -/
  unknown_eq_nil {fs : Fields} {names : List String} (h : ∀ f ∈ fs, f.1 ∈ names) :
    v.unknown fs names = []

namespace Validation.IsDocumented

variable {v : Validation} (hv : v.IsDocumented) {α : Type} {read : Reader α} {a : α} {fs : Fields}
  {name : String} {default : Option α}
include hv

/-- What holds of the value by default and of all that is read holds of a field. -/
theorem holds_of_field {p : α → Prop} (h : v.field fs name default read = .ok a)
    (hdefault : ∀ a ∈ default, p a) (hread : ∀ d a, read d = .ok a → p a) : p a := by
  cases hlookup : fs.lookup name with
  | some d => exact hread d a ((hv.field_present hlookup).1 h)
  | none => exact hdefault a ((hv.field_absent hlookup).1 h)

theorem field_eq_ok_of_lookup {d : Datum} (hlookup : fs.lookup name = some d)
    (hread : read d = .ok a) : v.field fs name default read = .ok a :=
  (hv.field_present hlookup).2 hread

end Validation.IsDocumented

/-! ### Lenient readers -/

namespace Reader

open Checked

variable {α : Type} {read : Reader α} {a : α} {fs : Fields} {name : String} {default : Option α}

theorem natural_eq_ok_iff {least : Nat} {greatest : Option Nat} {d : Datum} {n : Nat} :
    natural least greatest d = .ok n ↔
      integer d = .ok (n : Int) ∧ least ≤ n ∧ ∀ g ∈ greatest, n ≤ g := by
  unfold natural
  cases integer d with
  | error fault => exact iff_of_false nofun nofun
  | ok i =>
    by_cases hl : i < least
    · simp [hl, bind, Except.bind, throw, throwThe, MonadExceptOf.throw]
      omega
    · cases greatest with
      | none =>
        simp [hl, bind, Except.bind, pure, Except.pure]
        omega
      | some g =>
        by_cases hg : (g : Int) < i
        · simp [hl, hg, bind, Except.bind, throw, throwThe, MonadExceptOf.throw]
          omega
        · simp [hl, hg, bind, Except.bind, pure, Except.pure]
          omega

theorem each_eq_ok_iff {d : Datum} {as : List α} : each read d = .ok as ↔
    ∃ ds, d = .list ds ∧ List.Forall₂ (fun d a => read d = .ok a) ds as := by
  cases d with
  | list ds =>
    have h : List.Forall₂ (fun c a => c = .ok a)
        (ds.mapIdx fun i d => (read d).within (.index i)) as ↔
        List.Forall₂ (fun d a => read d = .ok a) ds as := by
      rw [List.forall₂_iff_get, List.forall₂_iff_get]
      simp [within_eq_ok_iff]
    simp [each, all_eq_ok_iff, h]
  | _ => simp [each]

theorem unknownFields_eq_nil {names : List String} (h : ∀ f ∈ fs, f.1 ∈ names) :
    unknownFields fs names = [] := by
  rw [unknownFields, List.map_eq_nil_iff, List.filter_eq_nil_iff]
  intro f hf
  simpa using h f hf

end Reader

open Checked Reader in
theorem Validation.lax_isDocumented : Validation.lax.IsDocumented where
  natural_int hl hg := ofRead_eq_ok_iff.2 (natural_eq_ok_iff.2 ⟨rfl, hl, hg⟩)
  natural_bounds h := (natural_eq_ok_iff.1 (ofRead_eq_ok_iff.1 h)).2
  truth_bool _ := rfl
  text_text _ := rfl
  path_text _ := rfl
  exists_text_of_path {d} _ h := by
    cases d with
    | text s =>
      cases h
      exact ⟨s, rfl⟩
    | _ => cases h
  oneOf_name h := by simp [lax, Reader.oneOf, h, ofRead]
  each_list h := each_eq_ok_iff.2 ⟨_, rfl, h⟩
  exists_read_of_each h a ha := by
    obtain ⟨ds, -, hall⟩ := each_eq_ok_iff.1 h
    have hread : List.Forall₂ (fun a _ => (∃ d, _ = Checked.ok a) ∧ True) _ ds :=
      hall.flip.imp fun _ d hd => ⟨⟨d, hd⟩, trivial⟩
    exact ((List.forall₂_and_left _ _).1 hread).1 a ha
  record_record _ _ _ := rfl
  exists_read_of_record {_ _ _ d _} h := by
    cases d with
    | record fs => exact ⟨fs, h⟩
    | _ => cases h
  field_present h := by simp [lax, Reader.field, h, within_eq_ok_iff]
  field_absent {_ _ _ default _ _} h := by cases default <;> simp [lax, Reader.field, h]
  unknown_eq_nil := unknownFields_eq_nil

end GuestLink
