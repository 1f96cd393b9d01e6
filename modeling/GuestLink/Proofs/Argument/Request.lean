import GuestLink.Proofs.Argument.Reading

/-!
# What arguments are asked for with

A `Request` is an option with a value that has not been checked.  `encode_decodable` says which
requests are granted, and that the words of the arguments that were granted, read from the left,
give back what was asked for.
-/

namespace GuestLink.Argument

/-- What is asked for when an argument is to be built. -/
inductive Request where
  | flag (option : String)
  | string (option value : String)
  | uint (option : String) (value : Datum)
  | keyValue (option : String) (items : List (String × String))

namespace Request

/-- The option that is asked for. -/
def option : Request → String
  | .flag option | .string option _ | .uint option _ | .keyValue option _ => option

/-- The kind of value that is asked for. -/
def kind : Request → ValueKind
  | .flag _ => .none
  | .string .. => .string
  | .uint .. => .uint
  | .keyValue .. => .keyValue

/-- Builds the argument that is asked for. -/
def build (limit : DigitLimit) : Request → Except ArgumentFault Argument
  | .flag option => ofFlag option
  | .string option value => ofString option value
  | .uint option value => ofUint limit option value
  | .keyValue option items => ofItems option items

/-- Whether the value can be written: truth values are no numbers, and a list may be empty. -/
def HasValue : Request → Prop
  | .flag _ => True
  | .string _ value => IsSafe value
  | .uint _ value => ∃ n : Nat, value = .int n
  | .keyValue _ items => AllSafe items

/-- Whether the table of options lists the option with the kind, and the value can be written. -/
def IsAllowed (r : Request) : Prop := (r.option, r.kind) ∈ knownOptions ∧ r.HasValue

/-- The integers in what is asked for. -/
def integers : Request → List Int
  | .uint _ value => value.integers
  | .flag _ | .string .. | .keyValue .. => []

/-- Whether every integer in what is asked for is written; if there is no limit, it is. -/
def Fits (limit : DigitLimit) (r : Request) : Prop := ∀ i ∈ r.integers, limit.Admits i

/-- What is asked for, as it is understood by whoever reads it. -/
def Says : Request → String × Value → Prop
  | .flag option, m => m = (option, .none)
  | .string option value, m => m = (option, .string value)
  | .uint option value, m => ∃ n : Nat, value = .int n ∧ m = (option, .uint n)
  | .keyValue option items, m => m = (option, .items items)

end Request

variable {limit : DigitLimit} {r : Request} {a : Argument} {fault : ArgumentFault}

theorem mem_knownOptions_iff {option : String} {kind : ValueKind} :
    (option, kind) ∈ knownOptions ↔ optionKind option = some kind := by
  -- no option is listed twice
  have hlookup : ∀ o ∈ knownOptions, optionKind o.1 = some o.2 := by decide
  constructor
  · exact hlookup (option, kind)
  · intro h
    obtain ⟨before, after, hsplit, -⟩ := List.lookup_eq_some_iff.1 h
    exact hsplit ▸ List.mem_append_right before List.mem_cons_self

theorem exists_build_iff : (∃ a, r.build limit = .ok a) ↔ r.IsAllowed := by
  rw [Request.IsAllowed, mem_knownOptions_iff]
  cases r with
  | flag option =>
    constructor
    · rintro ⟨a, h⟩
      obtain ⟨known, -⟩ := ofFlag_eq_ok_iff.1 h
      exact ⟨known, trivial⟩
    · rintro ⟨known, -⟩
      exact ⟨_, ofFlag_eq_ok_iff.2 ⟨known, rfl⟩⟩
  | string option value =>
    constructor
    · rintro ⟨a, h⟩
      obtain ⟨text, known, rfl, -⟩ := ofString_eq_ok_iff.1 h
      exact ⟨known, text.isSafe⟩
    · rintro ⟨known, hv⟩
      exact ⟨_, ofString_eq_ok_iff.2 ⟨⟨value, hv⟩, known, rfl, rfl⟩⟩
  | uint option value =>
    constructor
    · rintro ⟨a, h⟩
      obtain ⟨n, known, hn, -⟩ := ofUint_eq_ok_iff.1 h
      exact ⟨known, n, hn⟩
    · rintro ⟨known, n, hn⟩
      exact ⟨_, ofUint_eq_ok_iff.2 ⟨n, known, hn, rfl⟩⟩
  | keyValue option items => exact exists_ofItems_iff

/-- An argument that is granted says what was asked for. -/
theorem says_meaning (h : r.build limit = .ok a) : r.Says a.meaning := by
  cases r with
  | flag => exact meaning_of_ofFlag h
  | string => exact meaning_of_ofString h
  | uint =>
    obtain ⟨n, known, hn, rfl⟩ := ofUint_eq_ok_iff.1 h
    exact ⟨n, hn, rfl⟩
  | keyValue => exact meaning_of_ofItems h

/-- A request that is not granted is refused, unless it holds an integer that is not written. -/
theorem isRefusal_or_of_build (h : r.build limit = .error fault) :
    fault.IsRefusal ∨ ¬r.Fits limit ∧ ∃ e, fault = .excess e := by
  cases r with
  | flag => exact .inl (isRefusal_of_ofFlag h)
  | string => exact .inl (isRefusal_of_ofString h)
  | keyValue => exact .inl (isRefusal_of_ofItems h)
  | uint option value =>
    obtain h | ⟨e, rfl, hliteral⟩ := isRefusal_or_of_ofUint h
    · exact .inl h
    · refine .inr ⟨fun hfits => ?_, e, rfl⟩
      obtain ⟨s, hs⟩ := (Datum.exists_literal_iff value).2 hfits
      rw [hs] at hliteral
      cases hliteral

theorem fits_iff_of_build (h : r.build limit = .ok a) : a.Fits limit ↔ r.Fits limit := by
  cases r with
  | flag =>
    obtain ⟨known, rfl⟩ := ofFlag_eq_ok_iff.1 h
    exact iff_of_true trivial nofun
  | string =>
    obtain ⟨text, known, -, rfl⟩ := ofString_eq_ok_iff.1 h
    exact iff_of_true trivial nofun
  | keyValue =>
    obtain ⟨items, known, -, rfl⟩ := ofItems_eq_ok_iff.1 h
    exact iff_of_true trivial nofun
  | uint =>
    obtain ⟨n, known, rfl, rfl⟩ := ofUint_eq_ok_iff.1 h
    exact (List.forall_mem_singleton (p := limit.Admits)).symm

theorem fits_iff_of_mapM {requests : List Request} {args : List Argument}
    (h : requests.mapM (Request.build limit) = .ok args) :
    (∀ a ∈ args, a.Fits limit) ↔ ∀ r ∈ requests, r.Fits limit := by
  have hall := Except.mapM_eq_ok_iff.1 h
  clear h
  induction hall with
  | nil => simp
  | cons hr _ ih =>
    rw [List.forall_mem_cons, List.forall_mem_cons]
    exact and_congr (fits_iff_of_build hr) ih

theorem itemTexts_injective : Function.Injective itemTexts := by
  rintro ⟨⟨k, hk⟩, ⟨v, hv⟩⟩ ⟨⟨k', hk'⟩, ⟨v', hv'⟩⟩ h
  cases h
  rfl

/-- The option and the value determine the argument. -/
theorem meaning_injective : Function.Injective meaning
  | .flag .., .flag .., rfl => rfl
  | .string _ ⟨_, _⟩ _, .string _ ⟨_, _⟩ _, rfl => rfl
  | .uint .., .uint .., rfl => rfl
  | .keyValue _ items _, .keyValue _ items' _, h => by
    obtain ⟨hoption, hvalue⟩ := Prod.mk.inj h
    cases hoption
    cases itemTexts_injective.list_map (Value.items.inj hvalue)
    rfl

/-- A value that is spelled like an option stays a value. -/
example : readWords? ["-serial", "-nographic", "-device", "", "-nographic"] =
    some [("serial", .string "-nographic"), ("device", .items []), ("nographic", .none)] := by
  decide

end GuestLink.Argument
