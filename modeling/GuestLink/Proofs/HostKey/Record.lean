import GuestLink.Proofs.Except
import GuestLink.Proofs.HostKey.Scan
import Mathlib.Data.List.Induction

/-!
# Records of host keys

A scan is read line by line: its table is that of the records in its lines (`parse_eq`).  So it has
one just if every line is blank or a record (`exists_parse_eq_ok_iff`), the last record of each type
counts (`lookup_of_parse`), and a scan can be read in parts (`parse_append`).
-/

namespace GuestLink.HostKeys

/-- The lines of a scan, without the carriage returns at their ends. -/
def scanLines (scan : Bytes) : List (List Char) :=
  (Text.splitAt '\n' (Utf8.decodeLossy scan)).map dropReturns

/-- Whether a line has exactly two spaces, and `p` holds of what follows them. -/
def HasKeyText (p : List Char → Prop) (line : List Char) : Prop :=
  line.count ' ' = 2 ∧ ∃ front text, line = front ++ ' ' :: text ∧ ' ' ∉ text ∧ p text

/-- Whether a line is a record: it has exactly two spaces, and what follows them is Base64. -/
def IsRecordLine (line : List Char) : Prop :=
  HasKeyText (fun text => ∃ key, Base64.decode text = .ok key) line

/-- Whether a line is a record of the key `key` of type `type`. -/
def Records (line : List Char) (type : String) (key : Bytes) : Prop :=
  ∃ host text, line = host ++ ' ' :: (type.toList ++ ' ' :: text) ∧ ' ' ∉ host ∧
    ' ' ∉ type.toList ∧ ' ' ∉ text ∧ Base64.decode text = .ok key

/-- The records in a line; a blank one has none. -/
def recordsIn : List Char → Except ScanFault (List (String × Bytes))
  | [] => .ok []
  | line => (parseRecord line).map ([·])

/-- The table of records, of which the last one of each type counts. -/
def table (records : List (String × Bytes)) : HostKeys :=
  records.foldl (fun keys r => keys.insert r.1 r.2) empty

/-- The table `keys`, but what `news` says of a type counts. -/
def override (keys news : HostKeys) : HostKeys :=
  ⟨keys.entries.filter (fun e => (news.lookup e.1).isNone) ++ news.entries⟩

variable {keys keys' : HostKeys} {type type' : String} {key key' : Bytes} {line : List Char}
  {scan : Bytes} {f : ScanFault}

/-! ### Records -/

theorem splitAt_eq_three_iff {host type text : List Char} :
    Text.splitAt ' ' line = [host, type, text] ↔
      line = host ++ ' ' :: (type ++ ' ' :: text) ∧ ' ' ∉ host ∧ ' ' ∉ type ∧ ' ' ∉ text := by
  constructor
  · intro h
    have hmem : ∀ part ∈ [host, type, text], ' ' ∉ part := by
      intro part hpart
      rw [← h] at hpart
      exact Text.not_mem_of_mem_splitAt hpart
    have hline := Text.intercalate_splitAt ' ' line
    rw [h] at hline
    exact ⟨by simp [← hline], hmem _ (by simp), hmem _ (by simp), hmem _ (by simp)⟩
  · rintro ⟨rfl, hhost, htype, htext⟩
    rw [Text.splitAt_append_cons hhost, Text.splitAt_append_cons htype,
      Text.splitAt_of_not_mem htext]

theorem hasKeyText_iff {p : List Char → Prop} :
    HasKeyText p line ↔ ∃ host type text, Text.splitAt ' ' line = [host, type, text] ∧ p text := by
  constructor
  · rintro ⟨hcount, front, text, rfl, htext, hp⟩
    have hlength : (Text.splitAt ' ' front).length = 2 := by
      rw [Text.length_splitAt]
      simpa [List.count_append, List.count_eq_zero.2 htext] using hcount
    obtain ⟨host, type, hsplit⟩ := List.length_eq_two.1 hlength
    refine ⟨host, type, text, ?_, hp⟩
    rw [Text.splitAt_append_sep, hsplit, Text.splitAt_of_not_mem htext]
    rfl
  · rintro ⟨host, type, text, hsplit, hp⟩
    obtain ⟨rfl, hhost, htype, htext⟩ := splitAt_eq_three_iff.1 hsplit
    refine ⟨?_, host ++ ' ' :: type, text, by simp, htext, hp⟩
    simp [List.count_append, List.count_eq_zero.2 hhost, List.count_eq_zero.2 htype,
      List.count_eq_zero.2 htext]

theorem parseRecord_eq_ok_iff : parseRecord line = .ok (type, key) ↔ Records line type key := by
  constructor
  · intro h
    unfold parseRecord at h
    split at h
    · rename_i host typ text hsplit
      split at h
      · rename_i bytes hdecode
        cases h
        obtain ⟨hline, hhost, htype, htext⟩ := splitAt_eq_three_iff.1 hsplit
        exact ⟨host, text, by simpa using hline, hhost, by simpa using htype, htext, hdecode⟩
      · cases h
    · cases h
  · rintro ⟨host, text, hline, hhost, htype, htext, hdecode⟩
    have hsplit := splitAt_eq_three_iff.2 ⟨hline, hhost, htype, htext⟩
    simp [parseRecord, hsplit, hdecode]

theorem isRecordLine_iff : IsRecordLine line ↔ ∃ type key, Records line type key := by
  rw [IsRecordLine, hasKeyText_iff]
  constructor
  · rintro ⟨host, type, text, hsplit, key, hdecode⟩
    obtain ⟨hline, hhost, htype, htext⟩ := splitAt_eq_three_iff.1 hsplit
    exact ⟨String.ofList type, key, host, text, by simpa using hline, hhost, by simpa using htype,
      htext, hdecode⟩
  · rintro ⟨type, key, host, text, hline, hhost, htype, htext, hdecode⟩
    exact ⟨host, type.toList, text, splitAt_eq_three_iff.2 ⟨hline, hhost, htype, htext⟩, key, hdecode⟩

theorem Records.ne_nil (h : Records line type key) : line ≠ [] := by
  obtain ⟨host, text, rfl, -⟩ := h
  simp

theorem Records.inj (h : Records line type key) (h' : Records line type' key') :
    type = type' ∧ key = key' := by
  have he := (parseRecord_eq_ok_iff.2 h).symm.trans (parseRecord_eq_ok_iff.2 h')
  simpa using he

theorem recordsIn_of_ne_nil (h : line ≠ []) : recordsIn line = (parseRecord line).map ([·]) := by
  cases line with
  | nil => exact absurd rfl h
  | cons c cs => rfl

theorem recordsIn_eq_ok_iff {records : List (String × Bytes)} : recordsIn line = .ok records ↔
    line = [] ∧ records = [] ∨ ∃ type key, Records line type key ∧ records = [(type, key)] := by
  by_cases hl : line = []
  · subst hl
    have hno : ∀ type key, ¬Records [] type key := fun _ _ h => h.ne_nil rfl
    simp [recordsIn, hno, eq_comm]
  · rw [recordsIn_of_ne_nil hl, Except.map_eq_ok_iff]
    simp only [hl, false_and, false_or]
    constructor
    · rintro ⟨⟨type, key⟩, hr, rfl⟩
      exact ⟨type, key, parseRecord_eq_ok_iff.1 hr, rfl⟩
    · rintro ⟨type, key, hr, rfl⟩
      exact ⟨(type, key), parseRecord_eq_ok_iff.2 hr, rfl⟩

theorem exists_recordsIn_iff :
    (∃ records, recordsIn line = .ok records) ↔ line = [] ∨ IsRecordLine line := by
  rw [isRecordLine_iff]
  simp only [recordsIn_eq_ok_iff]
  constructor
  · rintro ⟨records, ⟨hl, -⟩ | ⟨type, key, hr, -⟩⟩
    exacts [.inl hl, .inr ⟨type, key, hr⟩]
  · rintro (hl | ⟨type, key, hr⟩)
    exacts [⟨[], .inl ⟨hl, rfl⟩⟩, ⟨[(type, key)], .inr ⟨type, key, hr, rfl⟩⟩]

/-! ### Tables -/

theorem table_concat (records : List (String × Bytes)) (r : String × Bytes) :
    table (records ++ [r]) = (table records).insert r.1 r.2 := by
  rw [table, List.foldl_append]
  rfl

theorem lookup_insert (keys : HostKeys) (type type' : String) (key : Bytes) :
    (keys.insert type key).lookup type' = if type' = type then some key else keys.lookup type' := by
  split_ifs with h
  · rw [h, lookup_insert_self]
  · exact lookup_insert_of_ne h keys key

/-- Of the records of one type the last one counts. -/
theorem lookup_table (records : List (String × Bytes)) (type : String) :
    (table records).lookup type = records.reverse.lookup type := by
  induction records using List.reverseRecOn with
  | nil => rfl
  | append_singleton records r ih =>
    rw [table_concat, lookup_insert, ih, List.reverse_append, List.reverse_singleton,
      List.singleton_append, List.lookup_cons]
    split_ifs with h
    · simp [h]
    · simp [beq_false_of_ne h]

theorem lookup_override (keys news : HostKeys) (type : String) :
    (keys.override news).lookup type = (news.lookup type).or (keys.lookup type) := by
  have hf := lookup_filter (fun type => (news.entries.lookup type).isNone) keys.entries type
  simp only [override, lookup, List.lookup_append, hf]
  cases news.entries.lookup type with
  | none => simp
  | some key => simp

theorem override_insert (keys news : HostKeys) (type : String) (key : Bytes) :
    keys.override (news.insert type key) = (keys.override news).insert type key := by
  have hf : ∀ e : String × Bytes, ((news.insert type key).lookup e.1).isNone =
      (e.1 != type && (news.lookup e.1).isNone) := by
    intro e
    rw [lookup_insert]
    by_cases h : e.1 = type <;> simp [h]
  rw [override, funext hf, ← List.filter_filter]
  simp [override, insert, List.filter_append]

theorem table_append (records more : List (String × Bytes)) :
    table (records ++ more) = (table records).override (table more) := by
  induction more using List.reverseRecOn with
  | nil => simp [override, table, empty, lookup]
  | append_singleton more r ih =>
    rw [← List.append_assoc, table_concat, ih, table_concat, override_insert]

/-! ### Scans -/

theorem addLine_eq (keys : HostKeys) (line : List Char) : keys.addLine line =
    (recordsIn (dropReturns line)).map (·.foldl (fun keys r => keys.insert r.1 r.2) keys) := by
  rw [addLine]
  split
  · rename_i h
    rw [h]
    rfl
  · rename_i h
    rw [recordsIn_of_ne_nil h]
    cases parseRecord (dropReturns line) <;> rfl

/-- The table of a scan is that of the records in its lines. -/
theorem parse_eq (scan : Bytes) :
    parse scan = ((scanLines scan).mapM recordsIn).map fun records => table records.flatten := by
  have h : addLine = fun keys line =>
      (recordsIn (dropReturns line)).map (List.foldl (fun keys r => keys.insert r.1 r.2) keys) :=
    funext₂ addLine_eq
  rw [parse, h, Except.foldlM_map_eq, scanLines, List.mapM_map]
  simp only [table, List.foldl_flatten]
  rfl

theorem scanLines_append (a b : Bytes) : scanLines (a ++ 10 :: b) = scanLines a ++ scanLines b := by
  rw [scanLines, scanLines, scanLines, Utf8.decodeLossy_append_ascii (by decide), ← List.map_append]
  exact congrArg _ (Text.splitAt_append_sep _ _)

theorem exists_parse_eq_ok_iff :
    (∃ keys, parse scan = .ok keys) ↔ ∀ line ∈ scanLines scan, line = [] ∨ IsRecordLine line := by
  simp only [← exists_recordsIn_iff, ← Except.exists_mapM_eq_ok_iff, parse_eq, Except.map_eq_ok_iff]
  constructor
  · rintro ⟨_, records, h, -⟩
    exact ⟨records, h⟩
  · rintro ⟨records, h⟩
    exact ⟨_, records, h, rfl⟩

/-- Two scans, one behind the other: the first one's fault counts, and the second one's table. -/
theorem parse_append (a b : Bytes) : parse (a ++ 10 :: b) =
    parse a >>= fun keys => (parse b).map (keys.override ·) := by
  rw [parse_eq, parse_eq, parse_eq, scanLines_append, Except.mapM_append_eq]
  cases (scanLines a).mapM recordsIn with
  | error f => rfl
  | ok us =>
    cases (scanLines b).mapM recordsIn with
    | error f => rfl
    | ok vs =>
      show Except.ok (table (us ++ vs).flatten) = .ok ((table us.flatten).override (table vs.flatten))
      rw [List.flatten_append, table_append]

/-! ### The last record of a type -/

theorem lookup_recordsIn {records : List (String × Bytes)} (h : recordsIn line = .ok records)
    (type : String) (key : Bytes) :
    (table records).lookup type = some key ↔ Records line type key := by
  rw [lookup_table]
  rcases recordsIn_eq_ok_iff.1 h with ⟨rfl, rfl⟩ | ⟨type', key', hr, rfl⟩
  · exact iff_of_false nofun fun hr => hr.ne_nil rfl
  · constructor
    · intro hl
      by_cases ht : type = type'
      · have hk : key' = key := by simpa [ht] using hl
        exact ht ▸ hk ▸ hr
      · simp [List.lookup_cons, beq_false_of_ne ht] at hl
    · intro hr'
      obtain ⟨rfl, rfl⟩ := hr.inj hr'
      simp

/-- Whether the last record of a type among the lines is one of that key. -/
def Decides (lines : List (List Char)) (type : String) (key : Bytes) : Prop :=
  ∃ before line after, lines = before ++ line :: after ∧ Records line type key ∧
    ∀ l ∈ after, ∀ key', ¬Records l type key'

variable {lines : List (List Char)}

/-- What is found of a type in the records of some lines, and when nothing is. -/
theorem lookup_flatten {records : List (List (String × Bytes))}
    (h : List.Forall₂ (fun line rs => recordsIn line = .ok rs) lines records) (type : String) :
    ((table records.flatten).lookup type = none ↔ ∀ l ∈ lines, ∀ key, ¬Records l type key) ∧
      ∀ key, (table records.flatten).lookup type = some key ↔ Decides lines type key := by
  induction h with
  | nil =>
    refine ⟨iff_of_true rfl nofun, fun key => iff_of_false nofun ?_⟩
    rintro ⟨before, line, after, h, -⟩
    cases before <;> cases h
  | @cons line rs lines records hl hls ih =>
    obtain ⟨ihnone, ihsome⟩ := ih
    have hline := lookup_recordsIn hl type
    rw [List.flatten_cons, table_append, lookup_override, List.forall_mem_cons, ← ihnone]
    refine ⟨?_, fun key => ?_⟩
    · rw [Option.or_eq_none_iff, and_comm, Option.eq_none_iff_forall_ne_some]
      simp only [ne_eq, hline]
    · rw [Decides, exists_last_cons_iff, ← ihnone, ← hline, ← Decides, ← ihsome, Option.or_eq_some_iff]
      simp [and_comm]

/-- What a scan's table says of a type is what the last record of the type says. -/
theorem lookup_of_parse (h : parse scan = .ok keys) (type : String) (key : Bytes) :
    keys.lookup type = some key ↔ Decides (scanLines scan) type key := by
  rw [parse_eq, Except.map_eq_ok_iff] at h
  obtain ⟨records, hr, rfl⟩ := h
  exact (lookup_flatten (Except.mapM_eq_ok_iff.1 hr) type).2 key

end GuestLink.HostKeys
