import GuestLink.HostKey
import GuestLink.Proofs.Console.Framing
import GuestLink.Proofs.Except
import GuestLink.Proofs.Text.Split

/-!
# What a scan pins

The lines of a scan are joined and cut again before they are read as records.  `parse_intercalate`
says that this gives the lines back, `check_iff_of_parse` that the table accepts exactly what the
last record of each type says.
-/

namespace GuestLink.HostKeys

open Framing

/-- The field of that number, from zero: what stands between the spaces of a line. -/
def field? (n : Nat) (line : Bytes) : Option (List Char) :=
  (Text.splitAt ' ' (Utf8.decodeLossy line))[n]?

/-- Whether a line is a record: it has three fields, the last of them in Base64. -/
def IsRecord (line : Bytes) : Prop :=
  ∃ host type text key, Text.splitAt ' ' (Utf8.decodeLossy line) = [host, type, text] ∧
    Base64.decode text = .ok key

/-- Whether a line is a record of the key `key` of type `type`. -/
def Names (line : Bytes) (type : String) (key : Bytes) : Prop :=
  field? 1 line = some type.toList ∧ ∃ text, field? 2 line = some text ∧ Base64.decode text = .ok key

/-- Whether the last line of a type names a key. -/
def Pins (lines : List Bytes) (type : String) (key : Bytes) : Prop :=
  ∃ before line after, lines = before ++ line :: after ∧ Names line type key ∧
    ∀ l ∈ after, field? 1 l ≠ some type.toList

variable {keys keys' : HostKeys} {type type' : String} {key : Bytes} {line : Bytes}
  {lines : List Bytes}

/-! ### Tables -/

/-- A lookup sees the entries that a filter on their types keeps. -/
theorem lookup_filter (p : String → Bool) (entries : List (String × Bytes)) (type : String) :
    (entries.filter (p ·.1)).lookup type = if p type then entries.lookup type else none := by
  induction entries with
  | nil => simp
  | cons e entries ih =>
    obtain ⟨known, key⟩ := e
    rw [List.filter_cons, List.lookup_cons]
    by_cases h : type = known
    · subst h
      split_ifs
      · simp
      · simp [*]
    · rw [beq_false_of_ne h, ← ih]
      split_ifs
      · rw [List.lookup_cons, beq_false_of_ne h]
      · rfl

theorem lookup_insert_self (keys : HostKeys) (type : String) (key : Bytes) :
    (keys.insert type key).lookup type = some key := by
  rw [lookup, insert, List.lookup_append, lookup_filter (· != type), if_neg (by simp)]
  simp

theorem lookup_insert_of_ne (h : type' ≠ type) (keys : HostKeys) (key : Bytes) :
    (keys.insert type key).lookup type' = keys.lookup type' := by
  rw [lookup, insert, List.lookup_append, lookup_filter (· != type), if_pos (bne_iff_ne.2 h), lookup]
  simp [List.lookup_cons, beq_false_of_ne h]

theorem check_eq_ok_iff : keys.check type key = .ok () ↔ keys.lookup type = some key := by
  unfold check
  cases keys.lookup type with
  | none => exact iff_of_false nofun nofun
  | some known =>
    dsimp only
    split_ifs with h
    · exact iff_of_true rfl (h ▸ rfl)
    · exact iff_of_false nofun fun e => h (Option.some.inj e).symm

/-! ### Records -/

theorem parseRecord_of_isRecord (h : IsRecord line) :
    ∃ type key, parseRecord (Utf8.decodeLossy line) = .ok (type, key) ∧
      ∀ type' key', Names line type' key' ↔ type' = type ∧ key' = key := by
  obtain ⟨host, type, text, key, hsplit, hdecode⟩ := h
  refine ⟨String.ofList type, key, by simp only [parseRecord, hsplit, hdecode], fun type' key' => ?_⟩
  simp only [Names, field?, hsplit]
  constructor
  · rintro ⟨ht, text', htext, hkey⟩
    obtain rfl : type = type'.toList := Option.some.inj ht
    obtain rfl : text = text' := Option.some.inj htext
    exact ⟨String.ofList_toList.symm, Except.ok.inj (hkey.symm.trans hdecode)⟩
  · rintro ⟨rfl, rfl⟩
    exact ⟨by simp, text, rfl, hdecode⟩

theorem parseRecord_of_not_isRecord (h : ¬IsRecord line) :
    ∃ f, parseRecord (Utf8.decodeLossy line) = .error f := by
  unfold parseRecord
  split
  · rename_i host type text hsplit
    split
    · rename_i key hdecode
      exact absurd ⟨host, type, text, key, hsplit, hdecode⟩ h
    · exact ⟨_, rfl⟩
  · exact ⟨_, rfl⟩

/-- What a line of a scan does to a table. -/
def addRecord (keys : HostKeys) (line : Bytes) : Except ScanFault HostKeys :=
  (parseRecord (Utf8.decodeLossy line)).map fun (type, key) => keys.insert type key

theorem dropReturns_of_getLast? {cs : List Char} (h : cs.getLast? ≠ some '\r') :
    dropReturns cs = cs := by
  rw [dropReturns]
  cases hr : cs.reverse with
  | nil => rw [List.dropWhile_nil, ← hr, List.reverse_reverse]
  | cons c rest =>
    have hc : c ≠ '\r' := by
      rintro rfl
      rw [← List.head?_reverse, hr] at h
      exact h rfl
    rw [List.dropWhile_cons_of_neg (by simpa using hc), ← hr, List.reverse_reverse]

theorem addLine_decodeLossy (hl : IsLine line) (hne : line ≠ []) :
    keys.addLine (Utf8.decodeLossy line) = keys.addRecord line := by
  rw [addLine, dropReturns_of_getLast? hl.getLast?_ne_return]
  split
  · rename_i he
    exact absurd he (Utf8.decodeLossy_ne_nil hne)
  · rfl

theorem foldlM_addLine (h : ∀ l ∈ lines, IsLine l ∧ l ≠ []) (keys : HostKeys) :
    (lines.map Utf8.decodeLossy).foldlM addLine keys = lines.foldlM addRecord keys := by
  induction lines generalizing keys with
  | nil => rfl
  | cons l lines ih =>
    obtain ⟨hl, hlines⟩ := List.forall_mem_cons.1 h
    rw [List.map_cons, List.foldlM_cons, List.foldlM_cons, addLine_decodeLossy hl.1 hl.2]
    exact bind_congr fun keys => ih hlines keys

/-- Joining lines and cutting them again gives the lines back. -/
theorem parse_intercalate (h : ∀ l ∈ lines, IsLine l ∧ l ≠ []) :
    parse ([10].intercalate lines) = lines.foldlM addRecord empty := by
  rw [parse, ← foldlM_addLine h, Utf8.decodeLossy_intercalate (b := 10) (by decide)]
  rcases lines with _ | ⟨l, ls⟩
  · rw [List.map_nil, List.intercalate_nil, Text.splitAt_of_not_mem List.not_mem_nil]
    rfl
  · rw [show Char.ofNat (10 : UInt8).toNat = '\n' from rfl, Text.splitAt_intercalate (by simp)]
    intro p hp
    obtain ⟨l', hl', rfl⟩ := List.mem_map.1 hp
    exact (h l' hl').1.feed_not_mem

/-! ### The table of a scan -/

/-- A member with `p` behind which only `q` holds is among the later ones, or it comes first. -/
theorem exists_last_cons_iff {α : Type} {p q : α → Prop} {x : α} {xs : List α} :
    (∃ before y after, x :: xs = before ++ y :: after ∧ p y ∧ ∀ z ∈ after, q z) ↔
      (∃ before y after, xs = before ++ y :: after ∧ p y ∧ ∀ z ∈ after, q z) ∨
        p x ∧ ∀ z ∈ xs, q z := by
  constructor
  · rintro ⟨before, y, after, he, hp, ha⟩
    cases before with
    | nil =>
      cases he
      exact .inr ⟨hp, ha⟩
    | cons b before =>
      cases he
      exact .inl ⟨before, y, after, rfl, hp, ha⟩
  · rintro (⟨before, y, after, rfl, hp, ha⟩ | ⟨hp, ha⟩)
    · exact ⟨x :: before, y, after, rfl, hp, ha⟩
    · exact ⟨[], x, xs, rfl, hp, ha⟩

theorem names_of_addRecord (h : keys.addRecord line = .ok keys') :
    IsRecord line ∧ ∃ type key, keys' = keys.insert type key ∧
      ∀ type' key', Names line type' key' ↔ type' = type ∧ key' = key := by
  obtain ⟨⟨type, key⟩, hr, rfl⟩ := Except.map_eq_ok_iff.1 h
  by_cases hl : IsRecord line
  · obtain ⟨type', key', hr', hn⟩ := parseRecord_of_isRecord hl
    cases hr.symm.trans hr'
    exact ⟨hl, type, key, rfl, hn⟩
  · obtain ⟨f, hf⟩ := parseRecord_of_not_isRecord hl
    cases hr.symm.trans hf

theorem pins_nil : ¬Pins [] type key := by
  rintro ⟨before, line, after, h, -⟩
  cases before <;> cases h

/-- Of the lines of one type, the last one counts. -/
theorem pins_cons_iff : Pins (line :: lines) type key ↔
    Pins lines type key ∨ Names line type key ∧ ∀ l ∈ lines, field? 1 l ≠ some type.toList :=
  exists_last_cons_iff

theorem lookup_of_foldlM (h : lines.foldlM addRecord keys = .ok keys') (type : String) (key : Bytes) :
    keys'.lookup type = some key ↔ Pins lines type key ∨
      keys.lookup type = some key ∧ ∀ l ∈ lines, field? 1 l ≠ some type.toList := by
  induction lines generalizing keys with
  | nil =>
    cases h
    simp [pins_nil]
  | cons line lines ih =>
    rw [List.foldlM_cons, Except.bind_eq_ok_iff] at h
    obtain ⟨keys₁, hadd, hfold⟩ := h
    obtain ⟨-, type₁, key₁, rfl, hn⟩ := names_of_addRecord hadd
    have hfield : field? 1 line = some type₁.toList := ((hn type₁ key₁).2 ⟨rfl, rfl⟩).1
    rw [ih hfold, pins_cons_iff, hn, List.forall_mem_cons, hfield]
    by_cases ht : type = type₁
    · subst ht
      rw [lookup_insert_self]
      simp [eq_comm]
    · have hne : type₁.toList ≠ type.toList := fun e => ht (String.toList_inj.1 e).symm
      rw [lookup_insert_of_ne ht]
      simp [ht, hne]

theorem exists_foldlM_of_isRecord (h : ∀ l ∈ lines, IsRecord l) (keys : HostKeys) :
    ∃ keys', lines.foldlM addRecord keys = .ok keys' := by
  induction lines generalizing keys with
  | nil => exact ⟨keys, rfl⟩
  | cons line lines ih =>
    obtain ⟨hl, hlines⟩ := List.forall_mem_cons.1 h
    obtain ⟨type, key, hr, -⟩ := parseRecord_of_isRecord hl
    obtain ⟨keys', hk⟩ := ih hlines (keys.insert type key)
    refine ⟨keys', ?_⟩
    rw [List.foldlM_cons, Except.bind_eq_ok_iff]
    exact ⟨_, Except.map_eq_ok_iff.2 ⟨_, hr, rfl⟩, hk⟩

theorem isRecord_of_foldlM (h : lines.foldlM addRecord keys = .ok keys') :
    ∀ l ∈ lines, IsRecord l := by
  induction lines generalizing keys with
  | nil => exact fun l hl => absurd hl List.not_mem_nil
  | cons line lines ih =>
    rw [List.foldlM_cons, Except.bind_eq_ok_iff] at h
    obtain ⟨keys₁, hadd, hfold⟩ := h
    exact List.forall_mem_cons.2 ⟨(names_of_addRecord hadd).1, ih hfold⟩

/-- A scan has a table just if all its lines are records. -/
theorem exists_parse_iff (h : ∀ l ∈ lines, IsLine l ∧ l ≠ []) :
    (∃ keys, parse ([10].intercalate lines) = .ok keys) ↔ ∀ l ∈ lines, IsRecord l := by
  rw [parse_intercalate h]
  exact ⟨fun ⟨_, hk⟩ => isRecord_of_foldlM hk, fun hr => exists_foldlM_of_isRecord hr empty⟩

/-- The table of a scan accepts what its lines pin. -/
theorem check_iff_of_parse (h : ∀ l ∈ lines, IsLine l ∧ l ≠ [])
    (hk : parse ([10].intercalate lines) = .ok keys) (type : String) (key : Bytes) :
    keys.check type key = .ok () ↔ Pins lines type key := by
  rw [parse_intercalate h] at hk
  rw [check_eq_ok_iff, lookup_of_foldlM hk]
  exact or_iff_left fun he => nomatch he.1

end GuestLink.HostKeys
