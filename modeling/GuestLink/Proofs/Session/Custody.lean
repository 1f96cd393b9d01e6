import GuestLink.Proofs.Session.Closing

/-!
# Who has an SSH client

A client that a bootstrap has obtained is the session's own, or its end has been asked for, or the
client of a later bootstrap has been put in its place, and then nobody closes it
(`clients_closed_iff`).
-/

namespace GuestLink

/-- Whether a stage is part of a bootstrap. -/
def Stage.boots : Stage → Bool
  | .generating boot | .connecting _ _ boot | .reply (.setup _ boot) _ => boot
  | .reply (.scan boot) _ => boot.isSome
  | .discarding _ => true
  | _ => false

namespace Session

/-- The client that a bootstrap obtains with a move. -/
def gains? (s : Session) : Move → Option ClientId
  | .answer id (.connected (.ok ())) =>
    match s.stage? id with
    | some (.connecting c _ true) => some c
    | _ => none
  | _ => none

/-- The client in the place of which another one is put with a move. -/
def replaces? (s : Session) (m : Move) : Option ClientId :=
  if s.closed then none else (s.gains? m).bind fun _ => s.client

/-- The clients that bootstraps have obtained in a run. -/
def obtained (s : Session) : List Move → List ClientId
  | [] => []
  | m :: moves => (s.gains? m).toList ++ (s.step m).obtained moves

/-- The clients in the place of which others were put in a run. -/
def replaced (s : Session) : List Move → List ClientId
  | [] => []
  | m :: moves => (s.replaces? m).toList ++ (s.step m).replaced moves

/-- Whether a client was closed or asked to close. -/
def Asked (s : Session) (c : ClientId) : Prop := ∃ a ∈ s.history, a.closes? = some c

/-- Whether a task waits for the end of a client. -/
def awaitsEnd (s : Session) (id : TaskId) (c : ClientId) : Bool :=
  s.stage? id == some (.discarding c) || s.stage? id == some (.retiring c)

/-- Whether a client was closed: at once, or by a task that no longer waits for its end. -/
def hasClosed (s : Session) (c : ClientId) : Bool :=
  s.history.any fun
    | .closeClient c' => c' == c
    | .retireClient id c' => c' == c && !s.awaitsEnd id c
    | _ => false

variable {s s' : Session} {id : TaskId} {m : Move} {c : ClientId} {O R : List ClientId}

theorem awaitsEnd_iff : s.awaitsEnd id c = true ↔
    s.stage? id = some (.discarding c) ∨ s.stage? id = some (.retiring c) := by
  simp [awaitsEnd]

theorem hasClosed_iff : s.hasClosed c = true ↔ .closeClient c ∈ s.history ∨
    ∃ id, .retireClient id c ∈ s.history ∧ s.awaitsEnd id c = false := by
  rw [hasClosed, List.any_eq_true]
  constructor
  · rintro ⟨a, ha, hc⟩
    split at hc
    · obtain rfl := beq_iff_eq.1 hc
      exact .inl ha
    · obtain ⟨hc, hw⟩ := Bool.and_eq_true_iff.1 hc
      obtain rfl := beq_iff_eq.1 hc
      exact .inr ⟨_, ha, by simpa using hw⟩
    · cases hc
  · rintro (ha | ⟨id, ha, hw⟩)
    · exact ⟨_, ha, beq_self_eq_true c⟩
    · exact ⟨_, ha, by simp [hw]⟩

theorem asked_of_hasClosed (h : s.hasClosed c = true) : s.Asked c := by
  rcases hasClosed_iff.1 h with ha | ⟨id, ha, -⟩
  exacts [⟨_, ha, rfl⟩, ⟨_, ha, rfl⟩]

@[simp] theorem asked_emit (s : Session) (a : Act) :
    (s.emit a).Asked c ↔ s.Asked c ∨ a.closes? = some c := by
  simp [Asked, or_and_right, exists_or]

@[simp] theorem asked_tell (s : Session) (rs : List Log.Record) :
    (s.tell rs).Asked c ↔ s.Asked c := by
  simp [Asked, or_and_right, exists_or, Act.closes?]

@[simp] theorem asked_finish (s : Session) (id : TaskId) (o : Outcome) :
    (s.finish id o).Asked c ↔ s.Asked c := by
  simp [Asked, or_and_right, exists_or, Act.closes?]

@[simp] theorem asked_suspend (s : Session) (id : TaskId) (stage : Stage) :
    (s.suspend id stage).Asked c ↔ s.Asked c := Iff.rfl

@[simp] theorem stage?_emit (s : Session) (a : Act) (id : TaskId) :
    (s.emit a).stage? id = s.stage? id := rfl

@[simp] theorem stage?_tell (s : Session) (rs : List Log.Record) (id : TaskId) :
    (s.tell rs).stage? id = s.stage? id := rfl

@[simp] theorem stage?_finish (s : Session) (id id' : TaskId) (o : Outcome) :
    (s.finish id o).stage? id' = if id' = id then none else s.stage? id' := by
  split_ifs with h
  · rw [h, stage?, task?_finish_self]
    rfl
  · rw [stage?, task?_finish_of_ne (Ne.symm h), stage?]

@[simp] theorem stage?_suspend (s : Session) (id id' : TaskId) (stage : Stage) :
    (s.suspend id stage).stage? id' = if id' = id then some stage else s.stage? id' := by
  split_ifs with h
  · rw [h, stage?, task?_suspend_self]
    rfl
  · rw [stage?, task?_suspend_of_ne (Ne.symm h), stage?]

/-- A client that was closed stays so, unless a task comes to wait for its end again. -/
theorem hasClosed_mono (hh : s.history <+: s'.history)
    (hw : ∀ id, .retireClient id c ∈ s.history → s'.awaitsEnd id c = true →
      s.awaitsEnd id c = true) (hc : s.hasClosed c = true) : s'.hasClosed c = true := by
  rw [hasClosed_iff] at hc ⊢
  exact hc.imp (hh.subset ·) fun ⟨id, ha, hn⟩ =>
    ⟨id, hh.subset ha, Bool.eq_false_iff.2 fun hw' => Bool.eq_false_iff.1 hn (hw id ha hw')⟩

/-! ### Moves that close nothing -/

/-- Whether from `s` to `s'` nothing was closed, and no task has come to deal with a client, but
that the task `id` may have asked a new one to connect. -/
structure Rests (s s' : Session) (id : TaskId) : Prop where
  closed : s'.closed = s.closed
  client : s'.client = s.client
  clients : s.clients ≤ s'.clients
  started : s.started ≤ s'.started
  acts : ∃ acts, s'.history = s.history ++ acts ∧ ∀ a ∈ acts, a.closes? = none
  others : ∀ id', id' ≠ id → s'.stage? id' = s.stage? id'
  own : ∀ stage ∈ s'.stage? id, s.stage? id = some stage ∨ stage.client? = none ∨
    ∃ r boot, stage = .connecting s.clients r boot ∧ s.clients < s'.clients

theorem Idles.rests (h : s.Idles s' m) (hs : s.started ≤ s'.started) (id : TaskId) :
    s.Rests s' id := by
  have hstage (id' : TaskId) : s'.stage? id' = s.stage? id' :=
    congrArg (Option.map Task.stage) (task?_of_tasks_eq h.tasks id')
  obtain ⟨acts, hacts, hidle⟩ := h.acts
  refine ⟨h.closed, h.client, h.clients.ge, hs, ⟨acts, hacts, fun a ha => ?_⟩,
    fun id' _ => hstage id', fun stage ho => .inl ((hstage id).symm.trans ho)⟩
  obtain ⟨r, rfl⟩ := hidle a ha
  rfl

theorem Apart.rests (h : s.Apart s' m id) (hs : s.started ≤ s'.started) : s.Rests s' id := by
  obtain ⟨acts, hacts, hplain⟩ := h.acts
  refine ⟨h.closed, h.client, h.clients, hs, ⟨acts, hacts, fun a ha => (hplain a ha).closes⟩,
    fun id' hne => congrArg (Option.map Task.stage) (task?_eq_of_except h.except hne), ?_⟩
  intro stage ho
  obtain ⟨t, ht, rfl⟩ := stage?_eq_some.1 ho
  exact .inr (h.stage t ht)

/-- A task that ends without closing a client. -/
theorem finish_rests (s : Session) (rs : List Log.Record) (id : TaskId) (o : Outcome) :
    s.Rests ((s.tell rs).finish id o) id :=
  (((Leads.refl s (.abort id) id).tell rs).finish o).rests le_rfl

namespace Rests

variable (h : s.Rests s' id)
include h

theorem asked : s'.Asked c ↔ s.Asked c := by
  obtain ⟨acts, hacts, hnone⟩ := h.acts
  have hno : ¬∃ a ∈ acts, a.closes? = some c := by
    rintro ⟨a, ha, hc⟩
    cases (hnone a ha).symm.trans hc
  simp only [Asked, hacts, List.mem_append, or_and_right, exists_or, hno, or_false]

theorem retireClient_mem {id' : TaskId} :
    .retireClient id' c ∈ s'.history ↔ .retireClient id' c ∈ s.history := by
  obtain ⟨acts, hacts, hnone⟩ := h.acts
  rw [hacts, List.mem_append, or_iff_left fun ha => by cases hnone _ ha]

theorem stage {id' : TaskId} {stage : Stage} (hs : s'.stage? id' = some stage) :
    s.stage? id' = some stage ∨ stage.client? = none ∨
      id' = id ∧ ∃ r boot, stage = .connecting s.clients r boot ∧ s.clients < s'.clients := by
  by_cases hid : id' = id
  · subst hid
    exact (h.own stage hs).imp_right fun ho => ho.imp_right fun ho => ⟨rfl, ho⟩
  · exact .inl ((h.others id' hid).symm.trans hs)

theorem awaitsEnd {id' : TaskId} (hw : s'.awaitsEnd id' c = true) : s.awaitsEnd id' c = true := by
  rw [awaitsEnd_iff] at hw ⊢
  have same {stage : Stage} (hs : s'.stage? id' = some stage)
      (hst : stage = .discarding c ∨ stage = .retiring c) : s.stage? id' = some stage := by
    rcases h.stage hs with ho | hn | ⟨-, r, boot, hc, -⟩
    · exact ho
    · rcases hst with rfl | rfl <;> cases hn
    · rcases hst with rfl | rfl <;> cases hc
  exact hw.imp (same · (.inl rfl)) (same · (.inr rfl))

theorem history : s.history <+: s'.history := by
  obtain ⟨acts, hacts, -⟩ := h.acts
  exact hacts ▸ List.prefix_append ..

theorem hasClosed (hc : s.hasClosed c = true) : s'.hasClosed c = true :=
  hasClosed_mono h.history (fun _ _ => h.awaitsEnd) hc

end Rests

/-! ### Custody -/

/-- Where the clients of a session are, of which bootstraps have obtained `O` and lost `R` to
others.  A client that is to connect is nobody else's. -/
structure Custody (s : Session) (O R : List ClientId) : Prop where
  numbered : s.Numbered
  connecting : ∀ id c r boot, s.stage? id = some (.connecting c r boot) →
    c < s.clients ∧ c ∉ O ∧ ¬s.Asked c ∧
      ∀ id' r' boot', s.stage? id' = some (.connecting c r' boot') → id' = id
  made : ∀ c, c ∈ O ∨ s.Asked c → c < s.clients
  askers : ∀ id c, .retireClient id c ∈ s.history → id < s.started
  waits : ∀ id c, s.awaitsEnd id c = true → .retireClient id c ∈ s.history
  retiring : ∀ id c, s.stage? id = some (.retiring c) →
    s.closed = true ∧ (s.client = none ∨ s.client = some c)
  current : ∀ c, s.client = some c → c ∈ O ∧ c ∉ R ∧ (s.Asked c ↔ s.closed = true)
  lost : ∀ c ∈ R, c ∈ O ∧ ¬s.Asked c

/-- Whether a client that bootstraps have obtained is the session's own, has been replaced, was
closed or is about to be. -/
def Kept (s : Session) (R : List ClientId) (c : ClientId) : Prop :=
  s.client = some c ∨ c ∈ R ∨ s.hasClosed c = true ∨ ∃ id, s.stage? id = some (.discarding c)

theorem Custody.rests (h : s.Custody O R) (hr : s.Rests s' id) (hn : s'.Numbered) :
    s'.Custody O R := by
  have made (c : ClientId) (hc : c ∈ O ∨ s.Asked c) : c < s'.clients :=
    (h.made c hc).trans_le hr.clients
  refine ⟨hn, fun id' c r boot hs => ?_, fun c hc => made c (hc.imp_right hr.asked.1),
    fun id' c ha => (h.askers id' c (hr.retireClient_mem.1 ha)).trans_le hr.started,
    fun id' c hw => hr.retireClient_mem.2 (h.waits id' c (hr.awaitsEnd hw)), fun id' c hs => ?_, ?_,
    fun c hc => (h.lost c hc).imp_right (mt hr.asked.1)⟩
  · rw [hr.asked]
    rcases hr.stage hs with ho | hnone | ⟨rfl, r', boot', hnew, hlt⟩
    · obtain ⟨hlt, hO, hasked, hunique⟩ := h.connecting id' c r boot ho
      refine ⟨hlt.trans_le hr.clients, hO, hasked, fun id'' r'' boot'' hs'' => ?_⟩
      rcases hr.stage hs'' with ho'' | hnone | ⟨-, r', boot', hnew, -⟩
      · exact hunique id'' r'' boot'' ho''
      · cases hnone
      · cases hnew
        exact absurd hlt (lt_irrefl _)
    · cases hnone
    · cases hnew
      refine ⟨hlt, fun hO => lt_irrefl _ (h.made _ (.inl hO)),
        fun ha => lt_irrefl _ (h.made _ (.inr ha)), fun id'' r'' boot'' hs'' => ?_⟩
      rcases hr.stage hs'' with ho'' | hnone | ⟨rfl, -⟩
      · exact absurd (h.connecting id'' _ r'' boot'' ho'').1 (lt_irrefl _)
      · cases hnone
      · rfl
  · rw [hr.closed, hr.client]
    rcases hr.stage hs with ho | hnone | ⟨-, r', boot', hnew, -⟩
    · exact h.retiring id' c ho
    · cases hnone
    · cases hnew
  · intro c hc
    rw [hr.asked, hr.closed]
    exact h.current c (hr.client ▸ hc)

theorem Custody.kept_rests (h : s.Custody O R) (hr : s.Rests s' id) (hk : s.Kept R c) :
    s'.Kept R c := by
  rcases hk with hc | hR | hc | ⟨id', hs⟩
  · exact .inl (hr.client.trans hc)
  · exact .inr (.inl hR)
  · exact .inr (.inr (.inl (hr.hasClosed hc)))
  · by_cases hs' : s'.stage? id' = some (.discarding c)
    · exact .inr (.inr (.inr ⟨id', hs'⟩))
    · have ha := h.waits id' c (awaitsEnd_iff.2 (.inl hs))
      refine .inr (.inr (.inl (hasClosed_iff.2 (.inr ⟨id', hr.history.subset ha, ?_⟩))))
      refine Bool.eq_false_iff.2 fun hw => ?_
      rcases awaitsEnd_iff.1 hw with hd | hd
      · exact hs' hd
      · rcases hr.stage hd with ho | hn | ⟨-, r, boot, hn, -⟩
        · cases ho.symm.trans hs
        · cases hn
        · cases hn

/-! ### Moves that close a client -/

/-- Whether from `s` to `s'` a client has been closed or asked to close that the task `id` asked to
connect. -/
structure Drops (s s' : Session) (id : TaskId) (c : ClientId) : Prop where
  closed : s'.closed = s.closed
  client : s'.client = s.client
  clients : s'.clients = s.clients
  started : s'.started = s.started
  history : s.history <+: s'.history
  asked : ∀ c', s'.Asked c' ↔ s.Asked c' ∨ c' = c
  askers : ∀ id' c', .retireClient id' c' ∈ s'.history →
    .retireClient id' c' ∈ s.history ∨ id' = id ∧ c' = c
  others : ∀ id', id' ≠ id → s'.stage? id' = s.stage? id'
  own : s'.stage? id = none ∨
    s'.stage? id = some (.discarding c) ∧ .retireClient id c ∈ s'.history

theorem closeClient_drops (s : Session) (id : TaskId) (c : ClientId) (o : Outcome) :
    s.Drops ((s.emit (.closeClient c)).finish id o) id c := by
  refine ⟨rfl, rfl, rfl, rfl, ⟨[.closeClient c, .finish id o], by simp⟩, fun c' => ?_,
    fun id' c' ha => .inl (by simpa using ha), fun id' hne => by simp [hne], .inl (by simp)⟩
  simp [Act.closes?, eq_comm]

theorem retireClient_drops (s : Session) (id : TaskId) (c : ClientId) (rs : List Log.Record) :
    s.Drops (((s.tell rs).suspend id (.discarding c)).emit (.retireClient id c)) id c := by
  refine ⟨rfl, rfl, rfl, rfl, ⟨rs.map .log ++ [.retireClient id c], by simp⟩, fun c' => ?_,
    fun id' c' ha => by simpa using ha, fun id' hne => by simp [hne], .inr (by simp)⟩
  simp [Act.closes?, eq_comm]

section

variable {r : ConnectRequest} {boot : Bool} {O' : List ClientId} (h : s.Custody O R)
  (hs : s.stage? id = some (.connecting c r boot))
include h hs

theorem Custody.drops (hd : s.Drops s' id c) (hn : s'.Numbered) (hO : O ⊆ O')
    (hO' : ∀ c' ∈ O', c' ∈ O ∨ c' = c) : s'.Custody O' R := by
  obtain ⟨hlt, hcO, hasked, hunique⟩ := h.connecting id c r boot hs
  have hstage {id' : TaskId} {stage : Stage} (h' : s'.stage? id' = some stage) :
      id' ≠ id ∧ s.stage? id' = some stage ∨ id' = id ∧ stage = .discarding c := by
    by_cases hid : id' = id
    · subst hid
      rcases hd.own with ho | ⟨ho, -⟩
      · cases ho.symm.trans h'
      · exact .inr ⟨rfl, Option.some.inj (h'.symm.trans ho)⟩
    · exact .inl ⟨hid, (hd.others id' hid).symm.trans h'⟩
  refine ⟨hn, fun id' c' r' boot' h' => ?_, fun c' hc' => ?_, fun id' c' ha => ?_,
    fun id' c' hw => ?_, fun id' c' h' => ?_, fun c' hc' => ?_, fun c' hc' => ?_⟩
  · rcases hstage h' with ⟨hid, h'⟩ | ⟨-, h'⟩
    · obtain ⟨hlt', hcO', hasked', hunique'⟩ := h.connecting id' c' r' boot' h'
      have hne : c' ≠ c := by
        rintro rfl
        exact hid (hunique id' r' boot' h')
      refine ⟨hd.clients ▸ hlt', fun hc => (hO' c' hc).elim hcO' hne,
        fun ha => ((hd.asked c').1 ha).elim hasked' hne, fun id'' r'' boot'' h'' => ?_⟩
      rcases hstage h'' with ⟨-, h''⟩ | ⟨-, h''⟩
      · exact hunique' id'' r'' boot'' h''
      · cases h''
    · cases h'
  · rw [hd.clients]
    rcases hc' with hc' | hc'
    · exact (hO' c' hc').elim (fun hc => h.made c' (.inl hc)) fun hc => hc ▸ hlt
    · exact ((hd.asked c').1 hc').elim (fun hc => h.made c' (.inr hc)) fun hc => hc ▸ hlt
  · rw [hd.started]
    rcases hd.askers id' c' ha with ha | ⟨rfl, -⟩
    · exact h.askers id' c' ha
    · obtain ⟨t, ht, -⟩ := stage?_eq_some.1 hs
      exact id_of_task? ht ▸ h.numbered t (mem_of_task? ht)
  · rcases awaitsEnd_iff.1 hw with h' | h'
    · rcases hstage h' with ⟨-, h'⟩ | ⟨rfl, h'⟩
      · exact hd.history.subset (h.waits id' c' (awaitsEnd_iff.2 (.inl h')))
      · cases h'
        rcases hd.own with ho | ⟨-, ha⟩
        · rcases awaitsEnd_iff.1 hw with hw | hw <;> cases ho.symm.trans hw
        · exact ha
    · rcases hstage h' with ⟨-, h'⟩ | ⟨-, h'⟩
      · exact hd.history.subset (h.waits id' c' (awaitsEnd_iff.2 (.inr h')))
      · cases h'
  · rw [hd.closed, hd.client]
    rcases hstage h' with ⟨-, h'⟩ | ⟨-, h'⟩
    · exact h.retiring id' c' h'
    · cases h'
  · obtain ⟨hcO', hR, ha⟩ := h.current c' (hd.client ▸ hc')
    have hne : c' ≠ c := fun hc => hcO (hc ▸ hcO')
    exact ⟨hO hcO', hR, by rw [hd.asked, hd.closed, ← ha, or_iff_left hne]⟩
  · obtain ⟨hcO', ha⟩ := h.lost c' hc'
    have hne : c' ≠ c := fun hc => hcO (hc ▸ hcO')
    exact ⟨hO hcO', fun ha' => ((hd.asked c').1 ha').elim ha hne⟩

theorem Custody.kept_drops {c' : ClientId} (hd : s.Drops s' id c) (hk : s.Kept R c') :
    s'.Kept R c' := by
  obtain ⟨-, -, hasked, -⟩ := h.connecting id c r boot hs
  rcases hk with hc | hR | hc | ⟨id', hs'⟩
  · exact .inl (hd.client.trans hc)
  · exact .inr (.inl hR)
  · refine .inr (.inr (.inl (hasClosed_mono hd.history (fun id' ha hw => ?_) hc)))
    have hne : c' ≠ c := by
      rintro rfl
      exact hasked ⟨_, ha, rfl⟩
    by_cases hid : id' = id
    · subst hid
      rw [awaitsEnd_iff] at hw
      rcases hd.own with ho | ⟨ho, -⟩ <;> rw [ho] at hw <;> simp at hw
      exact absurd hw.symm hne
    · rwa [awaitsEnd, hd.others id' hid] at hw
  · refine .inr (.inr (.inr ⟨id', ?_⟩))
    rw [hd.others id' fun hid => ?_]
    · exact hs'
    · cases hs.symm.trans (hid ▸ hs')

end

/-! ### Moves that change the session's client -/

/-- Another client takes the place of the session's own. -/
theorem Custody.gains {r : ConnectRequest} (h : s.Custody O R) (hc : s.closed = false)
    (hs : s.stage? id = some (.connecting c r true)) (rs : List Log.Record) (o : Outcome)
    (hn : (({ s with client := some c }.tell rs).finish id o).Numbered) :
    (({ s with client := some c }.tell rs).finish id o).Custody (O ++ [c])
      (R ++ s.client.toList) := by
  obtain ⟨hlt, hcO, hasked, hunique⟩ := h.connecting id c r true hs
  have hr := finish_rests s rs id o
  have hgone {id' : TaskId} {stage : Stage}
      (h' : ((s.tell rs).finish id o).stage? id' = some stage) :
      id' ≠ id ∧ s.stage? id' = some stage := by
    rw [stage?_finish] at h'
    split_ifs at h' with hid
    exact ⟨hid, h'⟩
  have hA (c' : ClientId) : ((s.tell rs).finish id o).Asked c' ↔ s.Asked c' := hr.asked
  refine ⟨hn, fun id' c' r' boot' h' => ?_, fun c' hc' => ?_,
    fun id' c' ha => h.askers id' c' (hr.retireClient_mem.1 ha),
    fun id' c' hw => hr.retireClient_mem.2 (h.waits id' c' (hr.awaitsEnd hw)),
    fun id' c' h' => ?_, fun c' hc' => ?_, fun c' hc' => ?_⟩
  · obtain ⟨hid, hs'⟩ := hgone h'
    obtain ⟨hlt', hcO', hasked', hunique'⟩ := h.connecting id' c' r' boot' hs'
    refine ⟨hlt', fun hc' => ?_, fun ha => hasked' ((hA c').1 ha),
      fun id'' r'' boot'' h'' => hunique' id'' r'' boot'' (hgone h'').2⟩
    rcases List.mem_append.1 hc' with hc' | hc'
    · exact hcO' hc'
    · exact hid (hunique id' r' boot' (List.mem_singleton.1 hc' ▸ hs'))
  · rcases hc' with hc' | hc'
    · rcases List.mem_append.1 hc' with hc' | hc'
      · exact h.made c' (.inl hc')
      · exact List.mem_singleton.1 hc' ▸ hlt
    · exact h.made c' (.inr ((hA c').1 hc'))
  · exact absurd (h.retiring id' c' (hgone h').2).1 (by simp [hc])
  · obtain rfl : c = c' := Option.some.inj hc'
    refine ⟨List.mem_append_right _ List.mem_cons_self, fun hR => ?_, ?_⟩
    · rcases List.mem_append.1 hR with hR | hR
      · exact hcO (h.lost c hR).1
      · exact hcO (h.current c (Option.mem_toList.1 hR)).1
    · exact iff_of_false (fun ha => hasked ((hA c).1 ha)) (by simp [hc])
  · rcases List.mem_append.1 hc' with hR | hc'
    · exact (h.lost c' hR).imp (List.mem_append_left _) fun ha ha' => ha ((hA c').1 ha')
    · obtain ⟨hO, -, ha⟩ := h.current c' (Option.mem_toList.1 hc')
      exact ⟨List.mem_append_left _ hO, fun ha' => absurd (ha.1 ((hA c').1 ha')) (by simp [hc])⟩

/-- A session whose client is asked to close. -/
def retireClient (s : Session) (c : ClientId) : Session :=
  ({ s with started := s.started + 1, closed := true }.suspend s.started (.retiring c)).emit
    (.retireClient s.started c)

theorem asked_retireClient {c' : ClientId} :
    (s.retireClient c).Asked c' ↔ s.Asked c' ∨ c' = c := by
  refine (asked_emit _ _).trans (or_congr Iff.rfl ?_)
  simp [Act.closes?, eq_comm]

theorem stage?_retireClient (s : Session) (c : ClientId) (id : TaskId) :
    (s.retireClient c).stage? id = if id = s.started then some (.retiring c) else s.stage? id :=
  stage?_suspend { s with started := s.started + 1, closed := true } _ _ _

theorem stage_of_retireClient {stage : Stage} (h : (s.retireClient c).stage? id = some stage) :
    s.stage? id = some stage ∨ id = s.started ∧ stage = .retiring c := by
  rw [stage?_retireClient] at h
  split_ifs at h with hid
  exacts [.inr ⟨hid, (Option.some.inj h).symm⟩, .inl h]

theorem awaitsEnd_of_retireClient {c' : ClientId}
    (hw : (s.retireClient c).awaitsEnd id c' = true) :
    s.awaitsEnd id c' = true ∨ id = s.started ∧ c' = c := by
  rw [awaitsEnd_iff] at hw ⊢
  rcases hw with h | h
  · rcases stage_of_retireClient h with ho | ⟨-, hn⟩
    · exact .inl (.inl ho)
    · cases hn
  · rcases stage_of_retireClient h with ho | ⟨hid, hn⟩
    · exact .inl (.inr ho)
    · exact .inr ⟨hid, Stage.retiring.inj hn⟩

theorem Custody.retires (h : s.Custody O R) (hc : s.client = some c)
    (hn : (s.retireClient c).Numbered) : (s.retireClient c).Custody O R := by
  obtain ⟨hcO, hcR, -⟩ := h.current c hc
  have hmem {id' : TaskId} {c' : ClientId} : .retireClient id' c' ∈ (s.retireClient c).history ↔
      .retireClient id' c' ∈ s.history ∨ id' = s.started ∧ c' = c := by
    simp [retireClient]
  refine ⟨hn, fun id' c' r' boot' h' => ?_, fun c' hc' => ?_, fun id' c' ha => ?_,
    fun id' c' hw => ?_, fun id' c' h' => ?_, fun c' hc' => ?_, fun c' hc' => ?_⟩
  · rcases stage_of_retireClient h' with h' | ⟨-, hn⟩
    · obtain ⟨hlt, hO, ha, hunique⟩ := h.connecting id' c' r' boot' h'
      refine ⟨hlt, hO, fun ha' => (asked_retireClient.1 ha').elim ha fun he => hO (he ▸ hcO),
        fun id'' r'' boot'' h'' => ?_⟩
      rcases stage_of_retireClient h'' with h'' | ⟨-, hn⟩
      · exact hunique id'' r'' boot'' h''
      · cases hn
    · cases hn
  · rw [asked_retireClient, ← or_assoc] at hc'
    exact hc'.elim (h.made c') fun he => he ▸ h.made c (.inl hcO)
  · rcases hmem.1 ha with ha | ⟨rfl, -⟩
    exacts [(h.askers id' c' ha).trans (Nat.lt_succ_self _), Nat.lt_succ_self _]
  · rcases awaitsEnd_of_retireClient hw with hw | hw
    exacts [hmem.2 (.inl (h.waits id' c' hw)), hmem.2 (.inr hw)]
  · rcases stage_of_retireClient h' with h' | ⟨-, hn⟩
    · exact ⟨rfl, (h.retiring id' c' h').2⟩
    · exact ⟨rfl, .inr (hc.trans (congrArg some (Stage.retiring.inj hn).symm))⟩
  · obtain rfl : c = c' := Option.some.inj (hc.symm.trans hc')
    exact ⟨hcO, hcR, iff_of_true (asked_retireClient.2 (.inr rfl)) rfl⟩
  · exact (h.lost c' hc').imp_right fun ha ha' =>
      (asked_retireClient.1 ha').elim ha fun he => hcR (he ▸ hc')

theorem Custody.kept_retires {c' : ClientId} (h : s.Custody O R) (hk : s.Kept R c') :
    (s.retireClient c).Kept R c' := by
  rcases hk with hc' | hR | hc' | ⟨id', hs⟩
  · exact .inl hc'
  · exact .inr (.inl hR)
  · refine .inr (.inr (.inl (hasClosed_mono (List.prefix_append s.history _)
      (fun id' ha hw => ?_) hc')))
    rcases awaitsEnd_of_retireClient hw with hw | ⟨hid, -⟩
    · exact hw
    · exact absurd hid (h.askers id' c' ha).ne
  · refine .inr (.inr (.inr ⟨id', ?_⟩))
    obtain ⟨t, ht, -⟩ := stage?_eq_some.1 hs
    have hlt : id' < s.started := id_of_task? ht ▸ h.numbered t (mem_of_task? ht)
    rw [stage?_retireClient, if_neg hlt.ne]
    exact hs

/-- The session's client has come to its end. -/
theorem Custody.retired (h : s.Custody O R) (hs : s.stage? id = some (.retiring c))
    (hn : ({ s with client := none }.closeConsole id).Numbered) :
    ({ s with client := none }.closeConsole id).Custody O R ∧
      ∀ c', s.Kept R c' → ({ s with client := none }.closeConsole id).Kept R c' := by
  let s₁ : Session := { s with client := none }
  have h₁ : s₁.Custody O R := ⟨h.numbered, h.connecting, h.made, h.askers, h.waits,
    fun id' c' h' => ⟨(h.retiring id' c' h').1, .inl rfl⟩, nofun, h.lost⟩
  have ha : s₁.Apart (s₁.closeConsole id) (.answer id (.clientClosed (.ok ()))) id :=
    closeConsole_apart (.refl s₁ _ id)
  have hr : s₁.Rests (s₁.closeConsole id) id := ha.rests (closeConsole_aside (.refl s₁)).started
  refine ⟨h₁.rests hr hn, fun c' hk => ?_⟩
  by_cases hc' : s.client = some c'
  · obtain rfl : c = c' := by
      rcases (h.retiring id c hs).2 with hnone | hsome
      · cases hnone.symm.trans hc'
      · exact Option.some.inj (hsome.symm.trans hc')
    refine .inr (.inr (.inl (hasClosed_iff.2 (.inr ⟨id, hr.history.subset
      (h.waits id c (awaitsEnd_iff.2 (.inr hs))), Bool.eq_false_iff.2 fun hw => ?_⟩))))
    rcases awaitsEnd_iff.1 hw with hw | hw
    all_goals
      obtain ⟨t, ht, hstage⟩ := stage?_eq_some.1 hw
      rcases ha.stage t ht with hnone | ⟨r, boot, hnew, -⟩
      · rw [hstage] at hnone
        cases hnone
      · cases hstage.symm.trans hnew
  · exact h₁.kept_rests hr (hk.resolve_left hc' |> .inr)

/-- A session without a client is closed. -/
theorem Custody.closes (h : s.Custody O R) (hc : s.client = none) :
    let s₁ : Session := { s with started := s.started + 1, closed := true }
    (s₁.closeConsole s.started).Numbered → (s₁.closeConsole s.started).Custody O R ∧
      ∀ c, s.Kept R c → (s₁.closeConsole s.started).Kept R c := by
  intro s₁ hn
  have h₁ : s₁.Custody O R := ⟨fun t ht => (h.numbered t ht).trans (Nat.lt_succ_self _),
    h.connecting, h.made, fun id c ha => (h.askers id c ha).trans (Nat.lt_succ_self _), h.waits,
    fun id c h' => ⟨rfl, .inl hc⟩, fun c hc' => (nomatch hc.symm.trans hc'), h.lost⟩
  have ha : s₁.Apart (s₁.closeConsole s.started) (.start .close) s.started :=
    closeConsole_apart (.refl s₁ _ _)
  have hr := ha.rests (closeConsole_aside (.refl s₁)).started
  exact ⟨h₁.rests hr hn, fun c hk => h₁.kept_rests hr hk⟩

/-! ### Runs -/

theorem gains?_eq_some (h : s.gains? m = some c) : ∃ id r,
    m = .answer id (.connected (.ok ())) ∧ s.stage? id = some (.connecting c r true) := by
  unfold gains? at h
  split at h
  · split at h
    · rename_i hs
      cases h
      exact ⟨_, _, rfl, hs⟩
    · cases h
  · cases h

theorem gains?_eq {r : ConnectRequest} (hs : s.stage? id = some (.connecting c r true)) :
    s.gains? (.answer id (.connected (.ok ()))) = some c := by
  simp only [gains?, hs]

/-- A move that is none of a client that bootstraps obtain. -/
theorem Custody.step_of_none (h : s.Custody O R) (hg : s.gains? m = none) :
    (s.step m).Custody O R ∧ ∀ c, s.Kept R c → (s.step m).Kept R c := by
  have hn := h.numbered.step m
  have hstarted := started_le_step s m
  have rests {id : TaskId} (hr : s.Rests (s.step m) id) :
      (s.step m).Custody O R ∧ ∀ c, s.Kept R c → (s.step m).Kept R c :=
    ⟨h.rests hr hn, fun _ hk => h.kept_rests hr hk⟩
  have drops {id : TaskId} {c : ClientId} {r : ConnectRequest} {boot : Bool}
      (hs : s.stage? id = some (.connecting c r boot)) (hd : s.Drops (s.step m) id c) :
      (s.step m).Custody O R ∧ ∀ c, s.Kept R c → (s.step m).Kept R c :=
    ⟨h.drops hs hd hn (List.Subset.refl O) fun _ hc => .inl hc, fun _ hk => h.kept_drops hs hd hk⟩
  cases step_dealing s m with
  | idle idle => exact rests (idle.rests hstarted s.started)
  | apart id _ _ apart => exact rests (apart.rests hstarted)
  | refused t c r boot f ht hs _ step =>
    exact drops (stage?_eq_some.2 ⟨t, ht, hs⟩) (step ▸ closeClient_drops s t.id c _)
  | dropped t c r boot ht hs _ step =>
    exact drops (stage?_eq_some.2 ⟨t, ht, hs⟩) (step ▸ closeClient_drops s t.id c _)
  | late t c r _ ht hs hm =>
    rw [hm, gains?_eq (stage?_eq_some.2 ⟨t, ht, hs⟩)] at hg
    cases hg
  | gained t c r _ ht hs hm =>
    rw [hm, gains?_eq (stage?_eq_some.2 ⟨t, ht, hs⟩)] at hg
    cases hg
  | handed t c r _ _ _ step =>
    have hr : s.Rests (s.step m) t.id := by
      rw [step]
      exact finish_rests s [establishedRecord r] t.id _
    exact rests hr
  | failed t c o _ _ _ _ step =>
    have hr := finish_rests s [] t.id o
    rw [tell_nil] at hr
    exact rests (step.symm ▸ hr)
  | retired t c ht hs _ step =>
    rw [step] at hn ⊢
    exact h.retired (stage?_eq_some.2 ⟨t, ht, hs⟩) hn
  | retires c hc _ step =>
    rw [step] at hn ⊢
    exact ⟨h.retires hc hn, fun _ => h.kept_retires⟩
  | closes hc _ step =>
    rw [step] at hn ⊢
    exact h.closes hc hn

/-- A move with which a bootstrap obtains a client. -/
theorem Custody.step_of_some (h : s.Custody O R) (hg : s.gains? m = some c) :
    (s.step m).Custody (O ++ [c]) (R ++ (s.replaces? m).toList) ∧
      (s.step m).Kept (R ++ (s.replaces? m).toList) c ∧
      ∀ c', s.Kept R c' → (s.step m).Kept (R ++ (s.replaces? m).toList) c' := by
  have hn := h.numbered.step m
  obtain ⟨id, r, rfl, hs⟩ := gains?_eq_some hg
  have hstep := connected_eq hs (.ok ())
  cases hc : s.closed with
  | true =>
    have hr : s.replaces? (.answer id (.connected (.ok ()))) = none := if_pos hc
    replace hstep := hstep.trans (if_pos (c := (s.tell _).closed = true) hc)
    have hd : s.Drops (s.step (.answer id (.connected (.ok ())))) id c :=
      hstep ▸ retireClient_drops s id c [establishedRecord r]
    rw [hr, Option.toList_none, List.append_nil]
    refine ⟨h.drops hs hd hn (List.subset_append_left ..) fun c' hc' => ?_, ?_,
      fun c' hk => h.kept_drops hs hd hk⟩
    · exact (List.mem_append.1 hc').imp_right List.mem_singleton.1
    · refine .inr (.inr (.inr ⟨id, ?_⟩))
      rw [hstep, stage?_emit, stage?_suspend, if_pos rfl]
  | false =>
    have hr : s.replaces? (.answer id (.connected (.ok ()))) = s.client := by
      rw [replaces?, if_neg (by simp [hc]), hg, Option.bind_some]
    replace hstep : s.step (.answer id (.connected (.ok ()))) =
        ({ s with client := some c }.tell [establishedRecord r]).finish id (.ok (.client c)) :=
      hstep.trans (if_neg (c := (s.tell _).closed = true) (by simp [hc]))
    rw [hr]
    rw [hstep] at hn ⊢
    refine ⟨h.gains hc hs _ _ hn, .inl rfl, fun c' hk => ?_⟩
    rcases hk with hc' | hR | hc' | ⟨id', hs'⟩
    · exact .inr (.inl (List.mem_append_right _ (Option.mem_toList.2 hc')))
    · exact .inr (.inl (List.mem_append_left _ hR))
    · exact .inr (.inr (.inl ((finish_rests s [establishedRecord r] id _).hasClosed hc')))
    · have hne : id' ≠ id := by
        rintro rfl
        cases hs.symm.trans hs'
      refine .inr (.inr (.inr ⟨id', (stage?_finish _ _ _ _).trans ?_⟩))
      rw [if_neg hne]
      exact hs'

theorem Custody.run {moves : List Move} (h : s.Custody O R) (hk : ∀ c ∈ O, s.Kept R c) :
    (s.run moves).Custody (O ++ s.obtained moves) (R ++ s.replaced moves) ∧
      ∀ c ∈ O ++ s.obtained moves, (s.run moves).Kept (R ++ s.replaced moves) c := by
  induction moves generalizing s O R with
  | nil => simpa [obtained, replaced] using ⟨h, hk⟩
  | cons m moves ih =>
    rw [obtained, replaced, ← List.append_assoc, ← List.append_assoc]
    cases hg : s.gains? m with
    | none =>
      have hr : s.replaces? m = none := by
        rw [replaces?, hg]
        exact ite_self none
      obtain ⟨h', hk'⟩ := h.step_of_none hg
      rw [hr, Option.toList_none, List.append_nil, List.append_nil]
      exact ih h' fun c hc => hk' c (hk c hc)
    | some c =>
      obtain ⟨h', hc, hk'⟩ := h.step_of_some hg
      refine ih h' fun c' hc' => ?_
      rcases List.mem_append.1 hc' with hc' | hc'
      exacts [hk' c' (hk c' hc'), List.mem_singleton.1 hc' ▸ hc]

theorem Custody.of_nil (hs : s.tasks = []) (hh : s.history = []) (hc : s.client = none) :
    s.Custody [] [] := by
  have hstage (id : TaskId) : s.stage? id = none := by
    rw [stage?, task?, hs]
    rfl
  have hasked (c : ClientId) : ¬s.Asked c := by
    rintro ⟨a, ha, -⟩
    rw [hh] at ha
    cases ha
  refine ⟨fun t ht => absurd ht (hs ▸ List.not_mem_nil), fun id c r boot h => ?_, fun c h => ?_,
    fun id c ha => ?_, fun id c hw => ?_, fun id c h => ?_, fun c h => ?_, List.forall_mem_nil _⟩
  · cases (hstage id).symm.trans h
  · exact (h.resolve_left List.not_mem_nil |> hasked c).elim
  · rw [hh] at ha
    cases ha
  · rw [awaitsEnd_iff, hstage] at hw
    rcases hw with hw | hw <;> cases hw
  · cases (hstage id).symm.trans h
  · cases hc.symm.trans h

/-- While no bootstrap is in flight, the clients that are neither the session's own nor closed are
those that have been replaced. -/
theorem Custody.closed_iff (h : s.Custody O R) (hk : ∀ c ∈ O, s.Kept R c)
    (hb : ∀ t ∈ s.tasks, t.stage.boots = false) :
    (∀ c ∈ O, s.client = some c ∨ s.hasClosed c = true) ↔ R = [] := by
  constructor
  · intro hall
    refine List.eq_nil_iff_forall_not_mem.2 fun c hR => ?_
    obtain ⟨hO, ha⟩ := h.lost c hR
    rcases hall c hO with hcur | hclosed
    · exact (h.current c hcur).2.1 hR
    · exact ha (asked_of_hasClosed hclosed)
  · rintro rfl c hO
    rcases hk c hO with hcur | hR | hclosed | ⟨id, hd⟩
    · exact .inl hcur
    · cases hR
    · exact .inr hclosed
    · obtain ⟨t, ht, hst⟩ := stage?_eq_some.1 hd
      have hboot := hb t (mem_of_task? ht)
      rw [hst] at hboot
      cases hboot

/-- When the task that closes a session has ended, there is no client. -/
theorem client_eq_none_of_closed {before after : List Move}
    (ho : .finish (s.run before).started (.ok .nothing) ∈
      (s.run before).since (s.run (before ++ .start .close :: after))) :
    (s.run (before ++ .start .close :: after)).client = none := by
  have hafter := (close_aftermath (s.run before)).run after
  have hrun : s.run (before ++ .start .close :: after) =
      ((s.run before).step (.start .close)).run after := run_append ..
  rw [hrun] at ho ⊢
  exact hafter.ends.elim (fun hc => hc) fun hf => absurd (hf.2 _ ho) Bool.false_ne_true

/-- Every client that a bootstrap has obtained is the session's own or was closed, whenever no
bootstrap is in flight, just if no bootstrap has put its client in the place of another one.  After
the task that closes the session has ended, all of them were closed then. -/
theorem clients_closed_iff {moves : List Move} (hs : s.tasks = []) (hh : s.history = [])
    (hc : s.client = none) (hb : ∀ t ∈ (s.run moves).tasks, t.stage.boots = false) :
    let s' := s.run moves
    ((∀ c ∈ s.obtained moves, s'.client = some c ∨ s'.hasClosed c = true) ↔
      s.replaced moves = []) ∧
    ∀ before after, moves = before ++ .start .close :: after →
      let s₁ := s.run before
      .finish s₁.started (.ok .nothing) ∈ s₁.since s' →
        ((∀ c ∈ s.obtained moves, s'.hasClosed c = true) ↔ s.replaced moves = []) := by
  intro s'
  obtain ⟨h, hk⟩ : s'.Custody ([] ++ s.obtained moves) ([] ++ s.replaced moves) ∧
      ∀ c ∈ [] ++ s.obtained moves, s'.Kept ([] ++ s.replaced moves) c :=
    (Custody.of_nil hs hh hc).run (List.forall_mem_nil _)
  rw [List.nil_append, List.nil_append] at h hk
  have hiff := h.closed_iff hk hb
  refine ⟨hiff, ?_⟩
  rintro before after rfl s₁ ho
  have hnone : s'.client = none := client_eq_none_of_closed ho
  simpa only [hnone, reduceCtorEq, false_or] using hiff

/-- The moves with which the task `id` completes a bootstrap. -/
def bootMoves (id : TaskId) : List Move :=
  let status : List Move := [.receive (utf8 "SERIAL STATUS: 0\n"), .read, .deal id, .resume id]
  .start .bootstrap ::
    .answer id (.keyPair (.ok { type := "ssh-rsa", blob := [1], fingerprint := "f" })) ::
    (status ++ status ++ [.answer id (.connected (.ok ()))])

/-- A bootstrap, and another one behind it. -/
def twoBoots : List Move := bootMoves 1 ++ bootMoves 2

/-- The client of the first bootstrap is never closed. -/
theorem second_bootstrap_leaks :
    let s' := sample.run (twoBoots ++ [.start .close, .answer 3 (.clientClosed (.ok ()))])
    sample.obtained twoBoots = [0, 1] ∧ s'.closed = true ∧ s'.client = none ∧ s'.tasks = [] ∧
      s'.hasClosed 1 = true ∧ ¬(s'.client = some 0 ∨ s'.hasClosed 0 = true) := by
  decide +kernel

/-- The client of the only bootstrap is closed with the session. -/
theorem clients_closed_iff_sample :
    let s₁ := sample.run (bootMoves 1)
    let after : List Move := [.answer 2 (.clientClosed (.ok ()))]
    let moves := bootMoves 1 ++ .start .close :: after
    let s' := sample.run moves
    sample.obtained moves = [0] ∧ sample.replaced moves = [] ∧
      (∀ t ∈ s'.tasks, t.stage.boots = false) ∧
      .finish s₁.started (.ok .nothing) ∈ s₁.since s' ∧ s'.hasClosed 0 = true := by
  intro s₁ after moves s'
  have hb : ∀ t ∈ s'.tasks, t.stage.boots = false := by decide +kernel
  have ho : sample.obtained moves = [0] := by decide +kernel
  have hr : sample.replaced moves = [] := by decide +kernel
  have hf : .finish s₁.started (.ok .nothing) ∈ s₁.since s' :=
    finish_mem_since (by decide +kernel)
  obtain ⟨-, hclosed⟩ := clients_closed_iff (s := sample) rfl rfl rfl hb
  have hall := (hclosed (bootMoves 1) after rfl hf).2 hr
  exact ⟨ho, hr, hb, hf, hall 0 (by rw [ho]; exact List.mem_cons_self)⟩

end Session

end GuestLink
