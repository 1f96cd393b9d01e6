import GuestLink.Proofs.Session.Departure
import GuestLink.Proofs.Session.Exclusion
import Mathlib.Data.List.Perm.Subperm

/-!
# The order in which lines are returned

Several tasks may hold lines at a time.  No line is looked at twice (`returned_subperm`).  If each
task looks at its line in its turn, that is before those that were handed theirs later, then all
lines are looked at in the order in which they left the queue (`returned_sublist`).  So they are if
they are waited for one by one (`OneByOne.inTurn`), as commands do that own the console
(`Exclusive.oneByOne`).
-/

namespace GuestLink.Session

open Serial

/-- The line that a task looks at with a move. -/
def returns? (s : Session) : Move → Option Bytes
  | .resume id => s.looksAt? id (.resume id)
  | _ => none

/-- The lines that tasks look at in a run. -/
def returned (s : Session) : List Move → List Bytes
  | [] => []
  | m :: moves => (s.returns? m).toList ++ (s.step m).returned moves

/-- The tasks among which are all that hold a line after a move, where `hs` held one before. -/
def candidates (s : Session) (hs : List TaskId) : Move → List TaskId
  | .deal id => if s.hand? id = none then hs ++ [id] else hs
  | _ => hs

/-- The tasks that hold a line after a move, longest first, where `hs` held one before. -/
def holders (s : Session) (hs : List TaskId) (m : Move) : List TaskId :=
  (s.candidates hs m).filter fun id => ((s.step m).hand? id).isSome

/-- Whether with a move no task looks at a line while another has held its own for longer. -/
def KeepsTurn (s : Session) (hs : List TaskId) (m : Move) : Prop :=
  s.returns? m ≠ none → ∀ first ∈ hs.head?, s.actor? m = some first

instance (s : Session) (hs : List TaskId) (m : Move) : Decidable (s.KeepsTurn hs m) :=
  inferInstanceAs (Decidable (_ → ∀ first ∈ _, _))

/-- Whether in a run every task looks at its line in its turn. -/
def InTurn (s : Session) (hs : List TaskId) : List Move → Prop
  | [] => True
  | m :: moves => s.KeepsTurn hs m ∧ (s.step m).InTurn (s.holders hs m) moves

instance : (s : Session) → (hs : List TaskId) → (moves : List Move) → Decidable (s.InTurn hs moves)
  | _, _, [] => .isTrue trivial
  | s, hs, m :: moves =>
    have : Decidable ((s.step m).InTurn (s.holders hs m) moves) :=
      instDecidableInTurn (s.step m) (s.holders hs m) moves
    inferInstanceAs (Decidable (s.KeepsTurn hs m ∧ (s.step m).InTurn (s.holders hs m) moves))

/-- Whether no two tasks wait for a line. -/
def Single (s : Session) : Prop :=
  ∀ t ∈ s.tasks, ∀ u ∈ s.tasks, t.stage.lineSignal?.isSome → u.stage.lineSignal?.isSome → t.id = u.id

instance (s : Session) : Decidable s.Single :=
  inferInstanceAs (Decidable (∀ t ∈ s.tasks, ∀ u ∈ s.tasks, _ → _ → t.id = u.id))

/-- Whether in a run lines are waited for one by one: whoever comes to wait for one does so when
nobody else does. -/
def OneByOne (s : Session) : List Move → Prop
  | [] => s.Single
  | m :: moves => s.Single ∧ (s.step m).OneByOne moves

instance : (s : Session) → (moves : List Move) → Decidable (s.OneByOne moves)
  | s, [] => inferInstanceAs (Decidable s.Single)
  | s, m :: moves =>
    have : Decidable ((s.step m).OneByOne moves) := instDecidableOneByOne (s.step m) moves
    inferInstanceAs (Decidable (s.Single ∧ (s.step m).OneByOne moves))

/-- The lines that were taken. -/
def taken (ds : List (Departure × Bytes)) : List Bytes :=
  ds.filterMap fun
    | (.taken _, l) => some l
    | _ => none

/-- Whether `hs` are the tasks that hold a line. -/
structure HeldBy (s : Session) (hs : List TaskId) : Prop where
  nodup : hs.Nodup
  mem : ∀ id, id ∈ hs ↔ s.hand? id ≠ none

variable {s : Session} {hs : List TaskId} {id : TaskId} {m : Move} {moves : List Move} {l : Bytes}

theorem taken_sublist (ds : List (Departure × Bytes)) : (taken ds).Sublist (ds.map Prod.snd) := by
  induction ds with
  | nil => exact .slnil
  | cons d ds ih =>
    obtain ⟨_ | _ | _, l⟩ := d
    · exact ih.cons_cons l
    · exact ih.cons l
    · exact ih.cons l

@[simp] theorem taken_cons (id : TaskId) (l : Bytes) (ds : List (Departure × Bytes)) :
    taken ((.taken id, l) :: ds) = l :: taken ds := rfl

@[simp] theorem taken_map_discarded (lines : List Bytes) :
    taken (lines.map (.discarded, ·)) = [] := by
  simp [taken]

@[simp] theorem taken_map_displaced (lines : List Bytes) :
    taken (lines.map (.displaced, ·)) = [] := by
  simp [taken]

theorem filterMap_filter_isSome {α β : Type} (f : α → Option β) (xs : List α) :
    (xs.filter fun x => (f x).isSome).filterMap f = xs.filterMap f := by
  rw [List.filterMap_filter]
  congr 1
  funext x
  cases f x <;> rfl

theorem filterMap_sublist {α β : Type} {f g : α → Option β} (h : ∀ x, f x = g x ∨ f x = none)
    (xs : List α) : (xs.filterMap f).Sublist (xs.filterMap g) := by
  induction xs with
  | nil => exact .slnil
  | cons x xs ih =>
    rcases h x with hx | hx
    · rw [List.filterMap_cons, List.filterMap_cons, hx]
      cases g x with
      | none => exact ih
      | some y => exact ih.cons_cons y
    · rw [List.filterMap_cons_none hx, List.filterMap_cons]
      cases g x with
      | none => exact ih
      | some y => exact ih.cons y

theorem returns?_eq_none (h : ∀ id, s.looksAt? id m = none) : s.returns? m = none := by
  cases m with
  | resume id => exact h id
  | _ => rfl

theorem filterMap_hand?_step {ids : List TaskId} (hid : id ∉ ids)
    (hands : ∀ id', id' ≠ id → (s.step m).hand? id' = s.hand? id') :
    ids.filterMap (s.step m).hand? = ids.filterMap s.hand? :=
  List.filterMap_congr fun id' hm => hands id' fun he => hid (he ▸ hm)

theorem hand?_step_cases (hn : s.Numbered) (hw : s.HandsWait) (m : Move) (id : TaskId) :
    (s.step m).hand? id = s.hand? id ∨ (s.step m).hand? id = none ∨
      m = .deal id ∧ s.hand? id = none := by
  cases s.passage hn hw m with
  | displaces hm leaves hands => exact .inl (hands id)
  | discards lines leaves cause hands => exact .inl (hands id)
  | takes id' l leaves hm hands before =>
    by_cases hid : id = id'
    · exact .inr (.inr (hid ▸ ⟨hm, before⟩))
    · exact .inl (hands id hid)
  | returns id' l lines leaves cause hm hands before after =>
    by_cases hid : id = id'
    · exact .inr (.inl (hid ▸ after))
    · exact .inl (hands id hid)
  | ends id' lines leaves cause hm hands after =>
    by_cases hid : id = id'
    · exact .inr (.inl (hid ▸ after))
    · exact .inl (hands id hid)

namespace HeldBy

theorem candidates_nodup (h : s.HeldBy hs) (m : Move) : (s.candidates hs m).Nodup := by
  unfold candidates
  split
  · split_ifs with hnone
    · refine List.nodup_append.2 ⟨h.nodup, by simp, fun a ha b hb => ?_⟩
      rintro rfl
      exact (h.mem a).1 ha (List.mem_singleton.1 hb ▸ hnone)
    · exact h.nodup
  · exact h.nodup

theorem step (h : s.HeldBy hs) (hn : s.Numbered) (hw : s.HandsWait) (m : Move) :
    (s.step m).HeldBy (s.holders hs m) := by
  refine ⟨(h.candidates_nodup m).filter _, fun id => ?_⟩
  rw [holders, List.mem_filter, Option.isSome_iff_ne_none, and_iff_right_iff_imp]
  intro hh
  rcases hand?_step_cases hn hw m id with hsame | hnone | ⟨rfl, hnone⟩
  · have hmem : id ∈ hs := (h.mem id).2 (hsame ▸ hh)
    unfold candidates
    split
    · split_ifs
      exacts [List.mem_append_left _ hmem, hmem]
    · exact hmem
  · exact absurd hnone hh
  · rw [candidates, if_pos hnone]
    exact List.mem_append_right hs (List.mem_singleton_self id)

theorem candidates_filterMap (s : Session) (hs : List TaskId) (m : Move) :
    (s.candidates hs m).filterMap s.hand? = hs.filterMap s.hand? := by
  unfold candidates
  split
  · split_ifs with hnone
    · rw [List.filterMap_append, List.filterMap_cons_none hnone, List.filterMap_nil,
        List.append_nil]
    · rfl
  · rfl

/-- The tasks hold what they held before but for those that let go of it. -/
theorem held_sublist (hh : ∀ id, (s.step m).hand? id = s.hand? id ∨ (s.step m).hand? id = none) :
    ((s.candidates hs m).filterMap (s.step m).hand?).Sublist (hs.filterMap s.hand?) :=
  candidates_filterMap s hs m ▸ filterMap_sublist hh _

/-- What tasks look at or hold after a move they held before or have taken, in this order. -/
theorem returns_sublist (h : s.HeldBy hs) (hn : s.Numbered) (hw : s.HandsWait)
    (ht : s.KeepsTurn hs m) :
    ((s.returns? m).toList ++ (s.holders hs m).filterMap (s.step m).hand?).Sublist
      (hs.filterMap s.hand? ++ taken (s.leaves m)) := by
  rw [holders, filterMap_filter_isSome]
  cases s.passage hn hw m with
  | displaces hm leaves hands looks =>
    rw [returns?_eq_none looks, leaves, taken_map_displaced, List.append_nil]
    exact held_sublist fun id => .inl (hands id)
  | discards lines leaves cause hands looks =>
    rw [returns?_eq_none looks, leaves, taken_map_discarded, List.append_nil]
    exact held_sublist fun id => .inl (hands id)
  | takes id l leaves hm hands before after looks =>
    subst hm
    have hid : id ∉ hs := fun hm => (h.mem id).1 hm before
    rw [returns?_eq_none looks, leaves, candidates, if_pos before, List.filterMap_append,
      filterMap_hand?_step hid hands, List.filterMap_cons_some after]
    exact List.Sublist.refl _
  | returns id l lines leaves cause hm hands before after look looks =>
    subst hm
    have hturn (first : TaskId) (hf : first ∈ hs.head?) : first = id :=
      (Option.some.inj (ht (by simp [returns?, look]) first hf)).symm
    have hc : s.candidates hs (.resume id) = hs := rfl
    rw [leaves, hc, returns?, look]
    -- It is this task's turn, so nobody holds a line, or it is the first of those who do.
    rcases before with before | before
    · have hid : id ∉ hs := fun hm => (h.mem id).1 hm before
      have hnil : hs = [] := by
        cases hs with
        | nil => rfl
        | cons first rest => exact absurd (hturn first rfl ▸ List.mem_cons_self) hid
      rw [hnil, if_pos before]
      simp [taken]
    · obtain ⟨rest, rfl⟩ : ∃ rest, hs = id :: rest := by
        have hm : id ∈ hs := (h.mem id).2 (by simp [before])
        cases hs with
        | nil => cases hm
        | cons first rest => exact ⟨rest, by rw [hturn first rfl]⟩
      have hid := (List.nodup_cons.1 h.nodup).1
      rw [List.filterMap_cons_none after, List.filterMap_cons_some before,
        filterMap_hand?_step hid hands,
        if_neg (by simp [before]), taken_map_discarded, List.append_nil]
      exact List.Sublist.refl _
  | ends id lines leaves cause hm hands after loss looks =>
    rw [returns?_eq_none looks, leaves, taken_map_discarded, List.append_nil]
    refine held_sublist fun id' => ?_
    by_cases hid : id' = id
    · exact .inr (hid ▸ after)
    · exact .inl (hands id' hid)

/-- Whoever looks at a line, what tasks look at or hold after a move they held before or have
taken. -/
theorem returns_subperm (h : s.HeldBy hs) (hn : s.Numbered) (hw : s.HandsWait) (m : Move) :
    ((s.returns? m).toList ++ (s.holders hs m).filterMap (s.step m).hand?).Subperm
      (hs.filterMap s.hand? ++ taken (s.leaves m)) := by
  by_cases ht : s.KeepsTurn hs m
  · exact (h.returns_sublist hn hw ht).subperm
  have hlooks : ¬∀ id, s.looksAt? id m = none := fun hnone =>
    ht fun hne => absurd (returns?_eq_none hnone) hne
  rw [holders, filterMap_filter_isSome]
  cases s.passage hn hw m with
  | displaces hm leaves hands looks => exact absurd looks hlooks
  | discards lines leaves cause hands looks => exact absurd looks hlooks
  | takes id l leaves hm hands before after looks => exact absurd looks hlooks
  | ends id lines leaves cause hm hands after loss looks => exact absurd looks hlooks
  | returns id l lines leaves cause hm hands before after look looks =>
    subst hm
    have hc : s.candidates hs (.resume id) = hs := rfl
    rw [leaves, hc, returns?, look]
    rcases before with before | before
    · have hid : id ∉ hs := fun hm => (h.mem id).1 hm before
      rw [filterMap_hand?_step hid hands, if_pos before, taken_cons, taken_map_discarded]
      exact (List.perm_append_singleton l _).symm.subperm
    · have hid : id ∈ hs := (h.mem id).2 (by simp [before])
      have herase := List.perm_cons_erase hid
      have hheld := herase.filterMap s.hand?
      have hkept := herase.filterMap (s.step (.resume id)).hand?
      rw [List.filterMap_cons_some before] at hheld
      rw [List.filterMap_cons_none after, filterMap_hand?_step h.nodup.not_mem_erase hands] at hkept
      rw [if_neg (by simp [before]), taken_map_discarded, List.append_nil]
      exact ((hkept.cons l).trans hheld.symm).subperm

end HeldBy

/-- No line that was taken is looked at twice. -/
theorem returned_subperm (h : s.HeldBy hs) (hn : s.Numbered) (hw : s.HandsWait)
    (moves : List Move) :
    (s.returned moves).Subperm (hs.filterMap s.hand? ++ taken (s.departures moves)) := by
  induction moves generalizing s hs with
  | nil => exact List.nil_subperm
  | cons m moves ih =>
    have hstep := h.returns_subperm hn hw m
    have hrun := ih (h.step hn hw m) (hn.step m) (hw.step hn m)
    rw [returned, departures, taken, List.filterMap_append, ← taken, ← taken, ← List.append_assoc]
    refine List.Subperm.trans ?_ ((List.subperm_append_right _).2 hstep)
    rw [List.append_assoc]
    exact (List.subperm_append_left _).2 hrun

/-- Lines that tasks look at in their turn are looked at in the order in which they were taken. -/
theorem returned_sublist (h : s.HeldBy hs) (hn : s.Numbered) (hw : s.HandsWait)
    (ht : s.InTurn hs moves) :
    (s.returned moves).Sublist (hs.filterMap s.hand? ++ taken (s.departures moves)) := by
  induction moves generalizing s hs with
  | nil => exact List.nil_sublist _
  | cons m moves ih =>
    have hstep := h.returns_sublist hn hw ht.1
    have hrun := ih (h.step hn hw m) (hn.step m) (hw.step hn m) ht.2
    rw [returned, departures, taken, List.filterMap_append, ← taken, ← taken, ← List.append_assoc]
    refine List.Sublist.trans ?_ (hstep.append_right _)
    rw [List.append_assoc]
    exact hrun.append_left _

/-! ### One by one -/

theorem lineSignal?_of_hand? {t : Task} (hw : s.HandsWait) (ht : s.task? id = some t)
    (hh : s.hand? id ≠ none) : t.stage.lineSignal?.isSome = true := by
  rw [Option.isSome_iff_ne_none]
  intro hnone
  exact hh ((hand?_of_task? ht).trans (hw id t ht hnone))

/-- A task that waits alone looks at its line in its turn. -/
theorem Single.keepsTurn (h : s.Single) (hh : s.HeldBy hs) (hw : s.HandsWait) (m : Move) :
    s.KeepsTurn hs m := by
  intro hlooks first hfirst
  have hheld : s.hand? first ≠ none := (hh.mem first).1 (List.mem_of_mem_head? hfirst)
  cases m with
  | resume id =>
    have look : (s.task? id).bind s.lookedAt? ≠ none := by
      rwa [returns?, looksAt?, if_pos rfl] at hlooks
    obtain ⟨t, ht⟩ : ∃ t, s.task? id = some t := by
      cases ht : s.task? id with
      | none => exact absurd (by rw [ht]; rfl) look
      | some t => exact ⟨t, rfl⟩
    obtain ⟨u, hu⟩ : ∃ u, s.task? first = some u := by
      cases hu : s.task? first with
      | none => exact absurd (hand?_of_none hu) hheld
      | some u => exact ⟨u, rfl⟩
    have hwaits : t.stage.lineSignal?.isSome = true := by
      cases hsignal : t.stage.lineSignal? with
      | none => exact absurd (by rw [ht, Option.bind_some, lookedAt?, hsignal]; rfl) look
      | some signal => rfl
    have hid := h t (mem_of_task? ht) u (mem_of_task? hu) hwaits (lineSignal?_of_hand? hw hu hheld)
    rw [id_of_task? ht, id_of_task? hu] at hid
    exact congrArg some hid
  | _ => exact absurd rfl hlooks

theorem OneByOne.inTurn (h : s.OneByOne moves) (hh : s.HeldBy hs) (hn : s.Numbered)
    (hw : s.HandsWait) : s.InTurn hs moves := by
  induction moves generalizing s hs with
  | nil => trivial
  | cons m moves ih =>
    exact ⟨h.1.keepsTurn hh hw m, ih h.2 (hh.step hn hw m) (hn.step m) (hw.step hn m)⟩

/-- No two commands wait for a line. -/
theorem Exclusive.single (h : s.Exclusive) : s.Single := by
  intro t ht u hu hts hus
  have waits {v : Task} (hv : v.stage.lineSignal?.isSome = true) : v.stage.isEngaged = true := by
    simp [Stage.isEngaged, hv]
  rcases h.owner with ⟨hidle, -⟩ | ⟨-, id, errand, p, hand, hd⟩
  · cases (hidle t ht).symm.trans (waits hts)
  · have owner {v : Task} (hv : v ∈ s.tasks) (hs : v.stage.lineSignal?.isSome = true) :
        v.id = id := by
      by_contra hne
      cases (hd.others v hv hne).symm.trans (waits hs)
    rw [owner ht hts, owner hu hus]

/-- As long as the caller does not use the console by hand, lines are waited for one by one. -/
theorem Exclusive.oneByOne (h : s.Exclusive) (hm : ∀ m ∈ moves, m.isManual = false) :
    s.OneByOne moves := by
  induction moves generalizing s with
  | nil => exact h.single
  | cons m moves ih =>
    have hm := List.forall_mem_cons.1 hm
    exact ⟨h.single, ih (h.step hm.1) hm.2⟩

end GuestLink.Session
