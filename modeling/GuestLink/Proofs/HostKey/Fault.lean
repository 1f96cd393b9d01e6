import GuestLink.HostKey.File
import GuestLink.Proofs.Base64
import GuestLink.Proofs.HostKey.Record
import GuestLink.Proofs.Session.Pinning

/-!
# What a faulty scan is reported as

The first line that is neither blank nor a record decides the failure of a scan
(`parse_of_firstFault`).  The failure names that line, unless its key has a character outside ASCII:
then an invalid value passes through, and the line is not named.
-/

namespace GuestLink.HostKeys

/-- Whether `line` is the first of the lines that is neither blank nor a record. -/
def FirstFault (lines : List (List Char)) (line : List Char) : Prop :=
  ∃ before after, lines = before ++ line :: after ∧
    (∀ l ∈ before, l = [] ∨ IsRecordLine l) ∧ line ≠ [] ∧ ¬IsRecordLine line

/-- Whether the key of a line has a character outside ASCII. -/
def HasForeignKey : List Char → Prop := HasKeyText fun text => ∃ c ∈ text, 0x80 ≤ c.toNat

/-- Whether a failure is one of the format of host keys and names the line. -/
def Blames (failure : Failure) (line : List Char) : Prop :=
  ∃ r, failure = .report r ∧ r.kind = .hostKeyFormat ∧
    r.context = .record [("line", .text (String.ofList line))]

/-- The failure of a key with a character outside ASCII. -/
def foreignKey : Failure := .incident ⟨.value, Base64.Flaw.message .notAscii⟩

variable {line : List Char} {scan : Bytes} {f : ScanFault}

/-! ### One line -/

theorem blames_fieldCount (line : List Char) (count : Nat) :
    Blames (ScanFault.fieldCount (String.ofList line) count).failure line := ⟨_, rfl, rfl, rfl⟩

theorem blames_key {flaw : Base64.Flaw} (h : flaw ≠ .notAscii) (line : List Char) :
    Blames (ScanFault.key (String.ofList line) flaw).failure line := by
  cases flaw with
  | notAscii => exact absurd rfl h
  | _ => exact ⟨_, rfl, rfl, rfl⟩

theorem not_blames_foreignKey (line : List Char) : ¬Blames foreignKey line := by
  rintro ⟨r, h, -⟩
  cases h

/-- The failure of a line that is no record. -/
theorem failure_of_parseRecord (h : parseRecord line = .error f) :
    (HasForeignKey line → f.failure = foreignKey) ∧ (¬HasForeignKey line → Blames f.failure line) := by
  rw [HasForeignKey, hasKeyText_iff]
  unfold parseRecord at h
  split at h
  · rename_i host type text hsplit
    have hforeign : (∃ host type text, Text.splitAt ' ' line = [host, type, text] ∧
        ∃ c ∈ text, 0x80 ≤ c.toNat) ↔ Base64.decode text = .error .notAscii := by
      rw [Base64.decode_eq_notAscii_iff, hsplit]
      constructor
      · rintro ⟨_, _, _, he, hc⟩
        cases he
        exact hc
      · exact fun hc => ⟨host, type, text, rfl, hc⟩
    rw [hforeign]
    cases hdecode : Base64.decode text with
    | ok key =>
      rw [hdecode] at h
      cases h
    | error flaw =>
      rw [hdecode] at h
      cases h
      constructor
      · rintro ⟨⟩
        rfl
      · exact fun hflaw => blames_key (fun he => hflaw (congrArg _ he)) line
  · rename_i fields hfields
    cases h
    refine ⟨?_, fun _ => blames_fieldCount line _⟩
    rintro ⟨host, type, text, hsplit, -⟩
    exact absurd hsplit (hfields host type text)

/-! ### Whole scans -/

theorem recordsIn_eq_error_iff :
    recordsIn line = .error f ↔ line ≠ [] ∧ parseRecord line = .error f := by
  by_cases hl : line = []
  · subst hl
    exact iff_of_false nofun fun h => h.1 rfl
  · rw [recordsIn_of_ne_nil hl]
    cases parseRecord line with
    | ok r => exact iff_of_false nofun fun h => nomatch h.2
    | error f' => simp [Except.map, hl]

theorem parse_eq_error_iff : parse scan = .error f ↔
    ∃ line, FirstFault (scanLines scan) line ∧ parseRecord line = .error f := by
  rw [parse_eq, Except.map_eq_error_iff, Except.mapM_eq_error_iff]
  simp only [exists_recordsIn_iff, recordsIn_eq_error_iff]
  constructor
  · rintro ⟨before, line, after, hlines, hbefore, hl, hf⟩
    refine ⟨line, ⟨before, after, hlines, hbefore, hl, fun hr => ?_⟩, hf⟩
    obtain ⟨type, key, hr⟩ := isRecordLine_iff.1 hr
    cases hf.symm.trans (parseRecord_eq_ok_iff.2 hr)
  · rintro ⟨line, ⟨before, after, hlines, hbefore, hl, -⟩, hf⟩
    exact ⟨before, line, after, hlines, hbefore, hl, hf⟩

/-- The first fault of a scan decides its failure. -/
theorem failure_of_parse (h : parse scan = .error f) :
    ∃ line, FirstFault (scanLines scan) line ∧
      (HasForeignKey line → f.failure = foreignKey) ∧
      (¬HasForeignKey line → Blames f.failure line) := by
  obtain ⟨line, hfirst, hf⟩ := parse_eq_error_iff.1 h
  exact ⟨line, hfirst, failure_of_parseRecord hf⟩

theorem load_of_read {d : Directory} {path : Path} {content : Bytes}
    (hpath : '\x00' ∉ path.text.toList) (h : d.read path = .ok content) :
    load d path = (parse content).mapError .scan := by
  have hcontains : path.text.toList.contains '\x00' = false := by simpa using hpath
  simp only [load, hcontains, h]
  rfl

end GuestLink.HostKeys

namespace GuestLink.Session

open Serial HostKeys

variable {s : Session} {id : TaskId} {identity : Identity} {moves : List Move}

/-! ### A bootstrap's scan -/

/-- A bootstrap ends with the fault of its scan. -/
theorem exists_finish_of_fault {body : List Bytes} {mark : Bytes} {f : ScanFault} (hs : s.MaySend id)
    (hpre : body ++ [mark] <+: (s.beginScan id (some identity)).transcript id moves)
    (hbody : ∀ l ∈ body, status? l = none) (hmark : status? mark = some (some 48))
    (hf : HostKeys.parse ([10].intercalate (marked body)) = .error f) :
    let s₁ := s.beginScan id (some identity)
    ∃ before m after, moves = before ++ m :: after ∧ ∃ records : List Log.Record,
      ((s₁.run before).step m).history = (s₁.run before).history ++ records.map .log ++
        [.finish id (.failed (.scan f))] := by
  intro s₁
  have hl : s₁.Listens id (.scan (some identity)) _ none := hs.listens _ _ _
  obtain ⟨-, before, m, after, hand, rest, rfl, -, -, -, hstep⟩ := hl.run hpre hbody hmark
  let e := exchange (.scan (some identity)) ⟨s.now, s.settings.scanTimeout⟩ (mark :: body.reverse)
  have hs₃ : (s₁.run before).step m = ((s₁.run before).withLines rest).conclude id
      (.scan (some identity)) e (.answered (some 48)) := by
    simpa only [e, exchange, List.append_nil] using hstep
  have houtput : e.output = [10].intercalate (marked body) :=
    output_of_answered (e := e) rfl hmark
  obtain ⟨-, records, hhistory⟩ :=
    exists_finish_of_parse (s := (s₁.run before).withLines rest) (houtput ▸ hf)
  refine ⟨before, m, after, rfl, records, ?_⟩
  rw [hs₃]
  exact hhistory

/-- A scan that has no table fails for the first of its lines that is neither blank nor a record.
The failure is one of the format of host keys and names that line just if the key of the line is
ASCII; else an invalid value passes through.  A file with the scan fails as the scan does, and so
does a bootstrap. -/
theorem scan_fault_reported (scan : Bytes) :
    ((∃ keys, HostKeys.parse scan = .ok keys) ∨ ∃ line f,
      FirstFault (scanLines scan) line ∧ HostKeys.parse scan = .error f ∧
      (Blames f.failure line ↔ ¬HasForeignKey line) ∧
      (HasForeignKey line → f.failure = foreignKey)) ∧
    (∀ (d : Directory) path, '\x00' ∉ path.text.toList → d.read path = .ok scan →
      (load d path).mapError LoadFault.failure = (HostKeys.parse scan).mapError ScanFault.failure) ∧
    ∀ (s : Session) id identity moves body mark f, s.MaySend id →
      body ++ [mark] <+: (s.beginScan id (some identity)).transcript id moves →
      (∀ l ∈ body, status? l = none) → status? mark = some (some 48) →
      [10].intercalate (marked body) = scan → HostKeys.parse scan = .error f →
      let s₁ := s.beginScan id (some identity)
      ∃ before m after, moves = before ++ m :: after ∧ ∃ records : List Log.Record, ∃ trouble,
        ((s₁.run before).step m).history = (s₁.run before).history ++ records.map .log ++
          [.finish id (.failed trouble)] ∧ trouble.failure = f.failure := by
  refine ⟨?_, fun d path hpath hread => ?_, ?_⟩
  · cases h : HostKeys.parse scan with
    | ok keys => exact .inl ⟨keys, rfl⟩
    | error f =>
      obtain ⟨line, hfirst, hforeign, hblames⟩ := failure_of_parse h
      refine .inr ⟨line, f, hfirst, rfl, ⟨fun hb hf => ?_, hblames⟩, hforeign⟩
      exact not_blames_foreignKey line (hforeign hf ▸ hb)
  · rw [load_of_read hpath hread]
    cases HostKeys.parse scan <;> rfl
  · rintro s id identity moves body mark f hs hpre hbody hmark rfl hf
    obtain ⟨before, m, after, hmoves, records, hhistory⟩ :=
      exists_finish_of_fault hs hpre hbody hmark hf
    exact ⟨before, m, after, hmoves, records, .scan f, hhistory, rfl⟩

/-- A scan that brings a record with a key outside ASCII. -/
def sampleForeignScan : List Move :=
  [.receive (utf8 "|1|x ssh-rsa é\nSERIAL STATUS: 0\n"), .read, .deal 0, .resume 0, .deal 0, .resume 0]

theorem scan_fault_reported_sample :
    let d : Directory := ⟨[("keys", utf8 "h t")], []⟩
    let s₁ := sample.beginScan 0
      (some ⟨{ type := "ssh-rsa", blob := [1], fingerprint := "f" }, utf8 "ssh-rsa AQ==\n"⟩)
    (load d ⟨"keys"⟩).mapError LoadFault.failure =
        (HostKeys.parse (utf8 "h t")).mapError ScanFault.failure ∧
      ∃ before m after, sampleForeignScan = before ++ m :: after ∧ ∃ records : List Log.Record,
        ∃ trouble, ((s₁.run before).step m).history = (s₁.run before).history ++
          records.map .log ++ [.finish 0 (.failed trouble)] ∧
        trouble.failure = (ScanFault.key "|1|x ssh-rsa é" .notAscii).failure := by
  obtain ⟨-, hload, -⟩ := scan_fault_reported (utf8 "h t")
  obtain ⟨-, -, hbootstrap⟩ := scan_fault_reported (utf8 "|1|x ssh-rsa é")
  refine ⟨hload _ _ (by decide) (by decide +kernel), ?_⟩
  exact hbootstrap sample 0 _ sampleForeignScan [utf8 "|1|x ssh-rsa é"] (utf8 "SERIAL STATUS: 0") _
    ⟨rfl, rfl, rfl, rfl, Nat.zero_lt_one⟩ (by decide +kernel) (by decide +kernel)
    (by decide +kernel) (by decide +kernel) (by decide +kernel)

/-- Not every scan that has no table is reported as one. -/
theorem foreign_key_passes_through :
    ∃ f, HostKeys.parse (utf8 "h t é") = .error f ∧ ¬∃ line, Blames f.failure line := by
  refine ⟨.key "h t é" .notAscii, by decide +kernel, ?_⟩
  rintro ⟨line, hb⟩
  exact not_blames_foreignKey line hb

end GuestLink.Session
