import GuestLink.Proofs.Console.Intake
import GuestLink.Proofs.HostKey.Scan
import GuestLink.Proofs.Session.Ownership

/-!
# The root of trust

A bootstrap pins exactly what the guest has answered to the scan (`bootstrap_pins_scan`): of the
lines before the status line those that begin with the mark of a record, and of these the last one
of each key type.
-/

namespace GuestLink.Session

open Serial HostKeys

variable {s : Session} {id : TaskId} {identity : Identity} {moves : List Move} {keys : HostKeys}

theorem isLine_of_happening {m : Move} {t : Instant} {line : Bytes}
    (h : (t, .line line) ∈ s.happening m) : Framing.IsLine line := by
  unfold happening at h
  split at h
  · split at h
    · rcases List.mem_append.1 h with h | h
      · obtain ⟨l, hl, he⟩ := List.mem_map.1 h
        cases he
        exact Console.isLine_of_intake hl
      · split at h
        · cases List.mem_singleton.1 h
        · cases h
    · cases h
  · cases List.mem_singleton.1 h
  · cases List.mem_singleton.1 h
  · cases h

theorem isLine_of_happenings {t : Instant} {line : Bytes}
    (h : (t, .line line) ∈ s.happenings moves) : Framing.IsLine line := by
  induction moves generalizing s with
  | nil => cases h
  | cons m moves ih =>
    rw [happenings, List.mem_append] at h
    rcases h with h | h
    exacts [isLine_of_happening h, ih h]

/-- What arrives are lines of the console. -/
theorem isLine_of_mem_linesOf {line : Bytes} (h : line ∈ linesOf (s.happenings moves)) :
    Framing.IsLine line := by
  obtain ⟨⟨t, x⟩, hx, hl⟩ := List.mem_filterMap.1 h
  cases x with
  | line content =>
    cases hl
    exact isLine_of_happenings hx
  | _ => cases hl

/-- The lines of a scan that are kept: those that begin with the mark of a record. -/
def marked (body : List Bytes) : List Bytes := body.filter (·.head? == some scanMark)

/-! ### After the scan -/

theorem beginConnect_history (s : Session) (id : TaskId) (identity : Identity) (keys : HostKeys)
    (boot : Bool) : ∃ r : ConnectRequest, r.hostKeys = keys ∧
      (s.beginConnect id identity keys boot).history =
        s.history ++ [.newClient s.clients, .pin s.clients, .connect id s.clients r] := by
  let r : ConnectRequest :=
    { host := s.host, port := s.port, user := s.settings.user, timeout := s.settings.connectTimeout
      key := identity.key, hostKeys := keys }
  exact ⟨r, rfl, by simp [beginConnect, r]⟩

/-- A scan of records is followed by a connection for which the keys of the scan are pinned. -/
theorem exists_connect_of_parse {e : Exchange} (h : HostKeys.parse e.output = .ok keys) :
    ∃ (records : List Log.Record) (c : ClientId) (r : ConnectRequest), r.hostKeys = keys ∧
      (s.conclude id (.scan (some identity)) e (.answered (some 48))).history =
        s.history ++ records.map .log ++ [.newClient c, .pin c, .connect id c r] := by
  let s₁ := (s.release.tell [e.succeededRecord]).tell [keys.parsedRecord]
  have hs : s.conclude id (.scan (some identity)) e (.answered (some 48)) =
      s₁.beginConnect id identity keys true := by
    simp only [conclude, afterSuccess, h, if_true, s₁]
  obtain ⟨r, hr, hhistory⟩ := beginConnect_history s₁ id identity keys true
  refine ⟨[e.succeededRecord, keys.parsedRecord], s₁.clients, r, hr, ?_⟩
  rw [hs, hhistory]
  simp [s₁]

/-- A scan that cannot be read ends the bootstrap. -/
theorem exists_finish_of_parse {e : Exchange} {f : ScanFault}
    (h : HostKeys.parse e.output = .error f) :
    (s.conclude id (.scan (some identity)) e (.answered (some 48))).task? id = none ∧
      ∃ records : List Log.Record,
        (s.conclude id (.scan (some identity)) e (.answered (some 48))).history =
          s.history ++ records.map .log ++ [.finish id (.failed (.scan f))] := by
  have hs : s.conclude id (.scan (some identity)) e (.answered (some 48)) =
      (s.release.tell [e.succeededRecord]).fail id (.scan f) := by
    simp only [conclude, afterSuccess, h, if_true]
  rw [hs]
  exact ⟨task?_finish_self _, [e.succeededRecord], rfl⟩

/-- After a scan, a client is to connect if each marked line is a record, and else the bootstrap has
failed. -/
theorem conclude_pins {body : List Bytes} {e : Exchange}
    (houtput : e.output = [10].intercalate (marked body))
    (hlines : ∀ l ∈ marked body, Framing.IsLine l ∧ l ≠ []) :
    let s' := s.conclude id (.scan (some identity)) e (.answered (some 48))
    ((∀ l ∈ marked body, IsRecord l) → ∃ (records : List Log.Record) (c : ClientId)
        (r : ConnectRequest),
      s'.history = s.history ++ records.map .log ++ [.newClient c, .pin c, .connect id c r] ∧
      HostKeys.parse ([10].intercalate (marked body)) = .ok r.hostKeys ∧
      (∀ type key, r.hostKeys.check type key = .ok () ↔ Pins (marked body) type key) ∧
      (marked body = [] → ∀ type key, r.hostKeys.check type key = .error (.unknownType type))) ∧
    ((∃ l ∈ marked body, ¬IsRecord l) → s'.task? id = none ∧
      ∃ (records : List Log.Record) (f : ScanFault),
      s'.history = s.history ++ records.map .log ++ [.finish id (.failed (.scan f))]) := by
  refine ⟨fun hr => ?_, fun hr => ?_⟩
  · obtain ⟨keys, hk⟩ := (exists_parse_iff hlines).2 hr
    obtain ⟨records, c, r, rfl, hhistory⟩ := exists_connect_of_parse (houtput ▸ hk)
    refine ⟨records, c, r, hhistory, hk, check_iff_of_parse hlines hk, fun he type key => ?_⟩
    have hnone : HostKeys.parse ([10].intercalate []) = .ok HostKeys.empty := by decide +kernel
    rw [he, hnone] at hk
    rw [← Except.ok.inj hk]
    rfl
  · obtain ⟨f, hf⟩ : ∃ f, HostKeys.parse ([10].intercalate (marked body)) = .error f := by
      cases hk : HostKeys.parse ([10].intercalate (marked body)) with
      | error f => exact ⟨f, rfl⟩
      | ok keys =>
        obtain ⟨l, hl, hno⟩ := hr
        exact absurd ((exists_parse_iff hlines).1 ⟨keys, hk⟩ l hl) hno
    obtain ⟨hgone, records, hhistory⟩ := exists_finish_of_parse (houtput ▸ hf)
    exact ⟨hgone, records, f, hhistory⟩

/-- A bootstrap pins its scan.  When its task has looked at lines and then at a status line that
reports success, the same move asks a new client for a connection, with a table that depends on the
marked lines alone and accepts a key just if the last marked line of its type names it.  If a marked
line is no record, the bootstrap ends there and then, without a client.  The lines looked at are
those that the console has read since the scan was sent, as long as nobody else uses the console and
the reader has room. -/
theorem bootstrap_pins_scan {body : List Bytes} {mark : Bytes} (hs : s.MaySend id)
    (hpre : body ++ [mark] <+: (s.beginScan id (some identity)).transcript id moves)
    (hbody : ∀ l ∈ body, status? l = none) (hmark : status? mark = some (some 48)) :
    let s₁ := s.beginScan id (some identity)
    ((∀ t ∈ s.tasks, t.id ≠ id → t.stage.isEngaged = false) → s₁.Serves moves →
      body ++ [mark] <+: linesOf (s₁.timeline moves)) ∧
    ∃ before m after, moves = before ++ m :: after ∧ s₁.transcript id before = body ∧
      (s₁.run before).looksAt? id m = some mark ∧
      let s₂ := s₁.run before
      let s₃ := s₂.step m
      ((∀ l ∈ marked body, IsRecord l) → ∃ (records : List Log.Record) (c : ClientId)
          (r : ConnectRequest),
        s₃.history = s₂.history ++ records.map .log ++ [.newClient c, .pin c, .connect id c r] ∧
        HostKeys.parse ([10].intercalate (marked body)) = .ok r.hostKeys ∧
        (∀ type key, r.hostKeys.check type key = .ok () ↔ Pins (marked body) type key) ∧
        (marked body = [] → ∀ type key, r.hostKeys.check type key = .error (.unknownType type))) ∧
      ((∃ l ∈ marked body, ¬IsRecord l) → s₃.task? id = none ∧
        ∃ (records : List Log.Record) (f : ScanFault),
        s₃.history = s₂.history ++ records.map .log ++ [.finish id (.failed (.scan f))]) := by
  intro s₁
  have hl : s₁.Listens id (.scan (some identity)) _ none := hs.listens _ _ _
  have hempty : s₁.console.lines = [] := hs.lines_eq_nil _ _ _
  obtain ⟨hsource, before, m, after, hand, rest, rfl, hbefore, -, hlook, hstep⟩ :=
    hl.run hpre hbody hmark
  refine ⟨fun hothers hserves => ?_, before, m, after, rfl, hbefore, hlook, ?_⟩
  · have ho : s₁.Owns id (.scan (some identity)) _ none := hs.owns _ _ _ hothers
    have harrivals := ho.prefix_arrivals hserves hpre hbody (by rw [hmark]; nofun)
    rw [hempty] at harrivals
    exact harrivals
  intro s₂ s₃
  let e := exchange (.scan (some identity)) ⟨s.now, s.settings.scanTimeout⟩ (mark :: body.reverse)
  have hs₃ : s₃ = (s₂.withLines rest).conclude id (.scan (some identity)) e
      (.answered (some 48)) := by
    simpa only [e, exchange, List.append_nil] using hstep
  have houtput : e.output = [10].intercalate (marked body) :=
    output_of_answered (e := e) rfl hmark
  have hlines : ∀ l ∈ marked body, Framing.IsLine l ∧ l ≠ [] := by
    intro l hl
    obtain ⟨hl, hm⟩ := List.mem_filter.1 hl
    refine ⟨?_, ?_⟩
    · rcases hsource l (List.mem_append_left _ hl) with hl | hl
      · rw [hempty] at hl
        cases hl
      · exact isLine_of_mem_linesOf hl
    · rintro rfl
      cases hm
  rw [hs₃]
  exact conclude_pins (s := s₂.withLines rest) houtput hlines

/-- A scan that brings one record. -/
def sampleScan : List Move :=
  [.receive (utf8 "ssh-keyscan\n|1|x ssh-rsa AAAA\nSERIAL STATUS: 0\n"), .read, .deal 0, .resume 0,
    .deal 0, .resume 0, .deal 0, .resume 0]

theorem bootstrap_pins_scan_sample :
    let s₁ := sample.beginScan 0
      (some ⟨{ type := "ssh-rsa", blob := [1], fingerprint := "f" }, utf8 "ssh-rsa AQ==\n"⟩)
    [utf8 "ssh-keyscan", utf8 "|1|x ssh-rsa AAAA", utf8 "SERIAL STATUS: 0"] <+:
        linesOf (s₁.timeline sampleScan) ∧
      ∃ before m after, sampleScan = before ++ m :: after ∧
        ∃ (records : List Log.Record) (c : ClientId) (r : ConnectRequest),
          ((s₁.run before).step m).history = (s₁.run before).history ++ records.map .log ++
            [.newClient c, .pin c, .connect 0 c r] ∧
          ∀ type key, r.hostKeys.check type key = .ok () ↔
            Pins [utf8 "|1|x ssh-rsa AAAA"] type key := by
  intro s₁
  have hs : sample.MaySend 0 := ⟨rfl, rfl, rfl, rfl, Nat.zero_lt_one⟩
  have hpre : [utf8 "ssh-keyscan", utf8 "|1|x ssh-rsa AAAA"] ++ [utf8 "SERIAL STATUS: 0"] <+:
      s₁.transcript 0 sampleScan := by decide +kernel
  have hbody : ∀ l ∈ [utf8 "ssh-keyscan", utf8 "|1|x ssh-rsa AAAA"], status? l = none := by
    decide +kernel
  have hmark : status? (utf8 "SERIAL STATUS: 0") = some (some 48) := by decide +kernel
  have hserves : s₁.Serves sampleScan := by decide +kernel
  obtain ⟨harrived, before, m, after, hmoves, -, -, hconnect, -⟩ :=
    bootstrap_pins_scan hs hpre hbody hmark
  have hmarked : marked [utf8 "ssh-keyscan", utf8 "|1|x ssh-rsa AAAA"] =
      [utf8 "|1|x ssh-rsa AAAA"] := by decide +kernel
  rw [hmarked] at hconnect
  obtain ⟨records, c, r, hhistory, -, hpins, -⟩ := hconnect fun l hl => by
    rw [List.mem_singleton.1 hl]
    exact ⟨"|1|x".toList, "ssh-rsa".toList, "AAAA".toList, [0, 0, 0], by decide +kernel,
      by decide +kernel⟩
  exact ⟨harrived (fun t ht => absurd ht List.not_mem_nil) hserves, before, m, after, hmoves,
    records, c, r, hhistory, hpins⟩

end GuestLink.Session
