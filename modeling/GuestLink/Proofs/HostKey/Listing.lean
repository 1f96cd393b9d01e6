import GuestLink.Proofs.Base64
import GuestLink.Proofs.HostKey.Record
import GuestLink.Proofs.Text.Utf8.Strict

/-!
# Reading back what was written

Keys that are written as records, with line ends of either kind and blank lines between them, are
read back (`parse_written`).  `parse_recordwise` puts together what a scan's table is.
-/

namespace GuestLink.HostKeys

/-- Whether a text can be a field of a record. -/
def IsField (text : String) : Prop := ' ' ∉ text.toList ∧ '\n' ∉ text.toList

instance : DecidablePred IsField := fun _ => inferInstanceAs (Decidable (_ ∧ _))

/-- A key of a host, with names that can be written in a record. -/
structure Entry where
  host : String
  type : String
  key : Bytes
  host_isField : IsField host
  type_isField : IsField type

/-- What a record of the key says. -/
def Entry.record (k : Entry) : String × Bytes := (k.type, k.key)

/-- What ends a line. -/
inductive LineEnd where
  | lf
  | crlf

/-- The characters that end a line. -/
def LineEnd.chars : LineEnd → List Char
  | .lf => ['\n']
  | .crlf => ['\r', '\n']

/-- The record of a host's key; without a key, a blank line. -/
def recordLine : Option Entry → List Char
  | none => []
  | some k => k.host.toList ++ ' ' :: (k.type.toList ++ ' ' :: Base64.encode k.key)

/-- The records of keys with blank lines between them, and what stands behind the last line end. -/
def written (rows : List (Option Entry × LineEnd)) (rest : Option Entry) : List Char :=
  rows.flatMap (fun row => recordLine row.1 ++ row.2.chars) ++ recordLine rest

/-- The keys of which there is a record, in order. -/
def writtenKeys (rows : List (Option Entry × LineEnd)) (rest : Option Entry) :
    List (String × Bytes) :=
  (rows.map (·.1) ++ [rest]).filterMap (·.map Entry.record)

theorem records_recordLine (k : Entry) : Records (recordLine (some k)) k.type k.key := by
  refine ⟨k.host.toList, Base64.encode k.key, rfl, k.host_isField.1, k.type_isField.1, ?_,
    Base64.decode_encode k.key⟩
  exact fun h => (Base64.isGraphic_of_mem_encode h).2 (by decide)

theorem recordsIn_recordLine (k : Option Entry) :
    recordsIn (recordLine k) = .ok (k.map Entry.record).toList := by
  cases k with
  | none => rfl
  | some k => exact recordsIn_eq_ok_iff.2 (.inr ⟨_, _, records_recordLine k, rfl⟩)

theorem newline_not_mem_recordLine (k : Option Entry) : '\n' ∉ recordLine k := by
  cases k with
  | none => exact List.not_mem_nil
  | some k =>
    have hkey : '\n' ∉ Base64.encode k.key :=
      fun h => (Base64.isGraphic_of_mem_encode h).2 (by decide)
    simp [recordLine, k.host_isField.2, k.type_isField.2, hkey]

theorem dropReturns_recordLine (k : Option Entry) :
    dropReturns (recordLine k) = recordLine k := by
  refine dropReturns_of_getLast? ?_
  cases k with
  | none => nofun
  | some k =>
    have hline : recordLine (some k) =
        (k.host.toList ++ ' ' :: k.type.toList) ++ ' ' :: Base64.encode k.key := by
      simp [recordLine]
    intro h
    rw [hline, List.getLast?_append_cons] at h
    rcases List.mem_cons.1 (List.mem_of_getLast? h) with h | h
    · exact absurd h (by decide)
    · exact (Base64.isGraphic_of_mem_encode h).2 (by decide)

theorem dropReturns_append_return (line : List Char) :
    dropReturns (line ++ ['\r']) = dropReturns line := by
  simp [dropReturns]

theorem scanLines_encode (cs : List Char) :
    scanLines (Utf8.encode cs) = (Text.splitAt '\n' cs).map dropReturns := by
  rw [scanLines, Utf8.decodeLossy_encode]

theorem scanLines_written (rows : List (Option Entry × LineEnd)) (rest : Option Entry) :
    scanLines (Utf8.encode (written rows rest)) =
      (rows.map (·.1) ++ [rest]).map recordLine := by
  rw [scanLines_encode]
  induction rows with
  | nil =>
    rw [written, List.flatMap_nil, List.nil_append,
      Text.splitAt_of_not_mem (newline_not_mem_recordLine rest)]
    simp [dropReturns_recordLine]
  | cons row rows ih =>
    obtain ⟨k, lineEnd⟩ := row
    have hk := newline_not_mem_recordLine k
    cases lineEnd with
    | lf =>
      have hw : written ((k, .lf) :: rows) rest = recordLine k ++ '\n' :: written rows rest := by
        simp [written, LineEnd.chars]
      rw [hw, Text.splitAt_append_cons hk, List.map_cons, ih, dropReturns_recordLine]
      rfl
    | crlf =>
      have hw : written ((k, .crlf) :: rows) rest =
          (recordLine k ++ ['\r']) ++ '\n' :: written rows rest := by
        simp [written, LineEnd.chars]
      rw [hw, Text.splitAt_append_cons (by simpa using hk), List.map_cons, ih,
        dropReturns_append_return, dropReturns_recordLine]
      rfl

/-- What is written as records is read back. -/
theorem parse_written (rows : List (Option Entry × LineEnd)) (rest : Option Entry) :
    parse (Utf8.encode (written rows rest)) = .ok (table (writtenKeys rows rest)) := by
  have h : ((rows.map (·.1) ++ [rest]).map recordLine).mapM recordsIn =
      .ok ((rows.map (·.1) ++ [rest]).map fun k => (k.map Entry.record).toList) := by
    rw [Except.mapM_eq_ok_iff, List.forall₂_map_left_iff, List.forall₂_map_right_iff]
    exact List.forall₂_same.2 fun k _ => recordsIn_recordLine k
  rw [parse_eq, scanLines_written, h, writtenKeys, List.filterMap_eq_flatMap_toList, List.flatMap]
  rfl

/-- A scan is accepted just if every line is blank or a record, and the last record of a type gives
its key.  Of two scans joined by a newline the first fault counts, else the second table overrides
the first one.  What was written as records is read back. -/
theorem parse_recordwise :
    (∀ scan, (∃ keys, parse scan = .ok keys) ↔
      ∀ line ∈ scanLines scan, line = [] ∨ IsRecordLine line) ∧
    (∀ scan keys, parse scan = .ok keys → ∀ type key,
      keys.lookup type = some key ↔ Decides (scanLines scan) type key) ∧
    (∀ a b, parse (a ++ 10 :: b) = parse a >>= fun keys => (parse b).map (keys.override ·)) ∧
    (∀ (keys news : HostKeys) type,
      (keys.override news).lookup type = (news.lookup type).or (keys.lookup type)) ∧
    (∀ rows rest, parse (Utf8.encode (written rows rest)) = .ok (table (writtenKeys rows rest))) ∧
    ∀ records type, (table records).lookup type = records.reverse.lookup type := by
  exact ⟨fun scan => exists_parse_eq_ok_iff, fun scan keys h => lookup_of_parse h, parse_append,
    lookup_override, parse_written, lookup_table⟩

/-- Two keys of one type with a blank line between them, and what their scan says of the type. -/
theorem parse_recordwise_sample :
    ∃ keys, parse (utf8 "h t YQ==\r\n\nh t Yg==") = .ok keys ∧ keys.lookup "t" = some [98] ∧
      Decides (scanLines (utf8 "h t YQ==\r\n\nh t Yg==")) "t" [98] := by
  obtain ⟨-, hdecides, -, -, hwritten, -⟩ := parse_recordwise
  let rows : List (Option Entry × LineEnd) :=
    [(some ⟨"h", "t", [97], by decide, by decide⟩, .crlf), (none, .lf)]
  let rest : Option Entry := some ⟨"h", "t", [98], by decide, by decide⟩
  have htext : utf8 "h t YQ==\r\n\nh t Yg==" = Utf8.encode (written rows rest) := by decide +kernel
  have hkey : (table (writtenKeys rows rest)).lookup "t" = some [98] := by decide +kernel
  have hparse := hwritten rows rest
  rw [htext]
  exact ⟨_, hparse, hkey, (hdecides _ _ hparse "t" [98]).1 hkey⟩

end GuestLink.HostKeys
