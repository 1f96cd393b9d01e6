import GuestLink.Log.Logger
import Mathlib.Data.List.Induction

/-!
# The logger under repeated configuration

The parts of a program may configure the logger as often as they like and in any order.  Whatever
the calls were, the library's own handler is there once, behind the handlers that were there before,
and shows as many lines as the last call asked for; the severity is that of the last call that
decided one (`history_isConfigured`).

A call with an invalid severity is refused, but decides about the handler like any other.
-/

namespace GuestLink.Log

/-! ### Severities that are given -/

namespace Severity

/-- A datum gives a severity, which is shown by a name: a number gives itself, and a word what the
table says.  The truth values are numbers, but truth is shown by a name of its own. -/
inductive Given : Datum → Severity → String → Prop
  | number (i : Int) : Given (.int i) i (Severity.name i)
  | falsity : Given (.bool false) 0 "NOTSET"
  | truth : Given (.bool true) 1 "Level True"
  | word {w : String} {s : Severity} (h : (w, s) ∈ names) : Given (.text w) s s.name

theorem ofName?_eq_some_iff {w : String} {s : Severity} : ofName? w = some s ↔ (w, s) ∈ names := by
  have hnodup : (names.map Prod.fst).Nodup := by decide
  rw [ofName?, List.lookup_eq_some_iff]
  constructor
  · rintro ⟨before, after, h, -⟩
    rw [h]
    exact List.mem_append_right _ List.mem_cons_self
  · intro h
    obtain ⟨before, after, h⟩ := List.append_of_mem h
    refine ⟨before, after, h, fun p hp => ?_⟩
    rw [h, List.map_append, List.map_cons, List.nodup_append] at hnodup
    have hne : p.1 ≠ w := hnodup.2.2 _ (List.mem_map_of_mem hp) _ List.mem_cons_self
    simpa using hne.symm

end Severity

/-! ### What a call asks for -/

/-- One call of `Logger.configure`. -/
structure Configuration where
  severity : Option Datum := none
  quiet : Bool := false
  tail : Int := defaultTail

namespace Configuration

variable {c : Configuration} {s : Severity} {name : String}

/-- The call decides for a severity: for that of errors when quiet, else for the one given. -/
inductive Decides (c : Configuration) : Severity → String → Prop
  | quiet (h : c.quiet = true) : Decides c .error "ERROR"
  | given {d : Datum} {s : Severity} {name : String} (hloud : c.quiet = false)
      (hgiven : c.severity = some d) (h : Severity.Given d s name) : Decides c s name

/-- The call looks at the severity given, which is not one. -/
def IsRefused (c : Configuration) : Prop :=
  c.quiet = false ∧ ∃ d ∈ c.severity, ∀ s name, ¬Severity.Given d s name

/-- The call leaves the severity as it is: it neither is quiet nor gives one, or it is refused. -/
def IsSilent (c : Configuration) : Prop := c.quiet = false ∧ c.severity = none ∨ c.IsRefused

theorem decides_or_isSilent (c : Configuration) : (∃ s name, c.Decides s name) ∨ c.IsSilent := by
  obtain ⟨severity, quiet, tail⟩ := c
  cases quiet with
  | true => exact .inl ⟨_, _, .quiet rfl⟩
  | false =>
    cases severity with
    | none => exact .inr (.inl ⟨rfl, rfl⟩)
    | some d =>
      by_cases h : ∃ s name, Severity.Given d s name
      · obtain ⟨s, name, h⟩ := h
        exact .inl ⟨s, name, .given rfl rfl h⟩
      · exact .inr (.inr ⟨rfl, d, rfl, fun s name hd => h ⟨s, name, hd⟩⟩)

theorem Decides.not_isRefused (h : c.Decides s name) : ¬c.IsRefused := by
  rintro ⟨hloud, d, hd, hnone⟩
  cases h with
  | quiet hquiet => exact absurd hquiet (by simp [hloud])
  | given _ hgiven h =>
    obtain rfl := Option.some.inj (hgiven.symm.trans hd)
    exact hnone _ _ h

end Configuration

namespace Logger

variable {l start : Logger} {c last : Configuration} {calls : List Configuration}
  {s : Severity} {name : String} {d : Datum} {tail : Int}

/-- The logger after a call, with the answer to it. -/
def apply (l : Logger) (c : Configuration) : Logger × Except SeverityFault Unit :=
  l.configure c.severity c.quiet c.tail

theorem setSeverity_of_given (h : Severity.Given d s name) :
    l.setSeverity d = .ok { l with severity := s, severityName := name } := by
  cases h with
  | number | falsity | truth => rfl
  | word h =>
    rw [setSeverity, Severity.ofName?_eq_some_iff.2 h]
    rfl

theorem exists_given_of_setSeverity {l' : Logger} (h : l.setSeverity d = .ok l') :
    ∃ s name, Severity.Given d s name := by
  cases d with
  | int i => exact ⟨_, _, .number i⟩
  | bool b =>
    cases b with
    | false => exact ⟨_, _, .falsity⟩
    | true => exact ⟨_, _, .truth⟩
  | text w =>
    cases hname : Severity.ofName? w with
    | some s => exact ⟨_, _, .word (Severity.ofName?_eq_some_iff.1 hname)⟩
    | none => simp [setSeverity, hname] at h
  | null | float => cases h
  | list | record =>
    simp only [setSeverity] at h
    split at h <;> cases h

/-! ### What a call does -/

theorem apply_of_decides (h : c.Decides s name) :
    l.apply c = ({ l.install c.tail with severity := s, severityName := name }, .ok ()) := by
  cases h with
  | quiet hquiet =>
    simp only [apply, configure, hquiet, if_true]
    rfl
  | given hloud hgiven h => simp [apply, configure, hloud, hgiven, setSeverity_of_given h]

theorem apply_of_none (hloud : c.quiet = false) (hnone : c.severity = none) :
    l.apply c = (l.install c.tail, .ok ()) := by
  simp [apply, configure, hloud, hnone]

theorem exists_apply_of_isRefused (h : c.IsRefused) :
    ∃ fault, l.apply c = (l.install c.tail, .error fault) := by
  obtain ⟨hloud, d, hd, hnone⟩ := h
  cases hset : (l.install c.tail).setSeverity d with
  | ok l' =>
    obtain ⟨s, name, h⟩ := exists_given_of_setSeverity hset
    exact absurd h (hnone s name)
  | error fault =>
    rw [Option.mem_def] at hd
    exact ⟨fault, by simp [apply, configure, hloud, hd, hset]⟩

theorem apply_fst_of_isSilent (h : c.IsSilent) : (l.apply c).1 = l.install c.tail := by
  obtain ⟨hloud, hnone⟩ | h := h
  · rw [apply_of_none hloud hnone]
  · obtain ⟨fault, h⟩ := exists_apply_of_isRefused (l := l) h
    rw [h]

theorem apply_snd_eq_ok_iff : (l.apply c).2 = .ok () ↔ ¬c.IsRefused := by
  obtain ⟨s, name, h⟩ | ⟨hloud, hnone⟩ | h := c.decides_or_isSilent
  · rw [apply_of_decides h]
    exact iff_of_true rfl h.not_isRefused
  · rw [apply_of_none hloud hnone]
    refine iff_of_true rfl fun ⟨_, d, hd, _⟩ => ?_
    rw [hnone] at hd
    cases hd
  · obtain ⟨fault, hfault⟩ := exists_apply_of_isRefused (l := l) h
    rw [hfault]
    exact iff_of_false nofun (not_not_intro h)

/-- But for the severity, a call leaves the logger with the handler installed. -/
theorem exists_apply_eq (l : Logger) (c : Configuration) :
    ∃ s name, (l.apply c).1 = { l.install c.tail with severity := s, severityName := name } := by
  obtain ⟨s, name, h⟩ | h := c.decides_or_isSilent
  · exact ⟨s, name, congrArg Prod.fst (apply_of_decides h)⟩
  · exact ⟨_, _, apply_fst_of_isSilent h⟩

/-! ### The library's own handler -/

theorem severity_install : (l.install tail).severity = l.severity := by
  unfold install
  split <;> rfl

theorem severityName_install : (l.install tail).severityName = l.severityName := by
  unfold install
  split <;> rfl

theorem install_withSeverity :
    { l with severity := s, severityName := name }.install tail =
      { l.install tail with severity := s, severityName := name } := by
  unfold install
  cases adjustFirst? tail l.handlers <;> rfl

theorem adjustFirst?_of_foreign {hs : List Handler} (h : ∀ a ∈ hs, a.isRelay = false) :
    adjustFirst? tail hs = none := by
  induction hs with
  | nil => rfl
  | cons a hs ih =>
    obtain ⟨ha, hhs⟩ := List.forall_mem_cons.1 h
    cases a with
    | silent | foreign => simp [adjustFirst?, ih hhs]
    | relay => cases ha

theorem adjustFirst?_append {hs : List Handler} (h : ∀ a ∈ hs, a.isRelay = false)
    (others : List Handler) :
    adjustFirst? tail (hs ++ others) = (adjustFirst? tail others).map (hs ++ ·) := by
  induction hs with
  | nil => simp
  | cons a hs ih =>
    obtain ⟨ha, hhs⟩ := List.forall_mem_cons.1 h
    cases a with
    | silent | foreign => simp [adjustFirst?, ih hhs, Option.map_map, Function.comp_def]
    | relay => cases ha

theorem isRelay_of_adjustFirst? {hs : List Handler} (h : adjustFirst? tail hs = none) :
    ∀ a ∈ hs, a.isRelay = false := by
  induction hs with
  | nil => exact nofun
  | cons a hs ih =>
    cases a with
    | silent | foreign => exact List.forall_mem_cons.2 ⟨rfl, ih (Option.map_eq_none_iff.1 h)⟩
    | relay => cases h

/-- To adjust a handler again changes nothing. -/
theorem adjustFirst?_again {hs hs' : List Handler} (h : adjustFirst? tail hs = some hs') :
    adjustFirst? tail hs' = some hs' := by
  induction hs generalizing hs' with
  | nil => cases h
  | cons a hs ih =>
    cases a with
    | silent | foreign =>
      obtain ⟨rest, hrest, rfl⟩ := Option.map_eq_some_iff.1 h
      simp [adjustFirst?, ih hrest]
    | relay =>
      cases h
      rfl

theorem install_of_adjusted {hs : List Handler} (h : adjustFirst? tail l.handlers = some hs) :
    l.install tail = { l with handlers := hs } := by
  rw [install, h]

theorem install_of_foreign (h : ∀ a ∈ l.handlers, a.isRelay = false) :
    l.install tail =
      { l with handlers := l.handlers ++ [.relay l.made tail], made := l.made + 1 } := by
  rw [install, adjustFirst?_of_foreign h]

theorem install_of_relay {hs : List Handler} {number : Nat} {old : Int}
    (h : ∀ a ∈ hs, a.isRelay = false) (hl : l.handlers = hs ++ [.relay number old]) :
    l.install tail = { l with handlers := hs ++ [.relay number tail] } := by
  apply install_of_adjusted
  rw [hl, adjustFirst?_append h]
  rfl

theorem install_install : (l.install tail).install tail = l.install tail := by
  cases h : adjustFirst? tail l.handlers with
  | some hs =>
    rw [install_of_adjusted h]
    exact install_of_adjusted (adjustFirst?_again h)
  | none =>
    have hmade : l.install tail =
        { l with handlers := l.handlers ++ [.relay l.made tail], made := l.made + 1 } := by
      rw [install, h]
    have hforeign : ∀ a ∈ l.handlers, a.isRelay = false := isRelay_of_adjustFirst? h
    rw [hmade]
    exact install_of_relay hforeign rfl

theorem apply_apply : ((l.apply c).1.apply c).1 = (l.apply c).1 := by
  obtain ⟨s, name, h⟩ | h := c.decides_or_isSilent
  · rw [apply_of_decides h, apply_of_decides h, install_withSeverity, install_install]
  · rw [apply_fst_of_isSilent h, apply_fst_of_isSilent h, install_install]

/-! ### Histories -/

/-- The logger after some calls, refused ones among them. -/
def applyAll (l : Logger) (calls : List Configuration) : Logger :=
  calls.foldl (fun l c => (l.apply c).1) l

/-- The severity of `l` is the one for which the last call decides that is not silent, or that of
`start` if all calls are silent. -/
def Settles (start : Logger) (calls : List Configuration) (l : Logger) : Prop :=
  ((∀ c ∈ calls, c.IsSilent) ∧
      l.severity = start.severity ∧ l.severityName = start.severityName) ∨
    ∃ earlier c later, calls = earlier ++ c :: later ∧ c.Decides l.severity l.severityName ∧
      ∀ c' ∈ later, c'.IsSilent

/-- How the calls, the last of them `last`, leave the logger `start`. -/
structure IsConfigured (start : Logger) (calls : List Configuration) (last : Configuration)
    (l : Logger) : Prop where
  /-- Behind the handlers of `start` stands the first one made since, which shows as many lines as
  the last call asks for. -/
  handlers : l.handlers = start.handlers ++ [.relay start.made last.tail]
  /-- No other was made. -/
  made : l.made = start.made + 1
  settles : start.Settles calls l
  sources : l.sources = start.sources

theorem applyAll_concat (calls : List Configuration) :
    start.applyAll (calls ++ [c]) = ((start.applyAll calls).apply c).1 := by
  rw [applyAll, List.foldl_append]
  rfl

theorem settles_nil : l.Settles [] l := .inl ⟨nofun, rfl, rfl⟩

theorem Settles.apply (h : start.Settles calls l) :
    start.Settles (calls ++ [c]) (l.apply c).1 := by
  obtain ⟨s, name, hc⟩ | hc := c.decides_or_isSilent
  · rw [apply_of_decides hc]
    exact .inr ⟨calls, c, [], rfl, hc, nofun⟩
  · have hconcat {cs : List Configuration} (hcs : ∀ c' ∈ cs, c'.IsSilent) :
        ∀ c' ∈ cs ++ [c], c'.IsSilent :=
      List.forall_mem_append.2 ⟨hcs, List.forall_mem_singleton.2 hc⟩
    rw [apply_fst_of_isSilent hc, Settles, severity_install, severityName_install]
    obtain ⟨hcalls, hkept⟩ | ⟨earlier, c', later, rfl, hdecides, hlater⟩ := h
    · exact .inl ⟨hconcat hcalls, hkept⟩
    · exact .inr ⟨earlier, c', later ++ [c], by simp, hdecides, hconcat hlater⟩

section Foreign

variable (hforeign : ∀ a ∈ start.handlers, a.isRelay = false)
include hforeign

theorem isConfigured_singleton : start.IsConfigured [c] c (start.apply c).1 := by
  have hsettles : start.Settles [c] (start.apply c).1 := settles_nil.apply
  obtain ⟨s, name, happly⟩ := exists_apply_eq start c
  rw [install_of_foreign hforeign] at happly
  rw [happly] at hsettles ⊢
  exact ⟨rfl, rfl, hsettles, rfl⟩

theorem IsConfigured.apply (h : start.IsConfigured calls last l) :
    start.IsConfigured (calls ++ [c]) c (l.apply c).1 := by
  have hsettles : start.Settles (calls ++ [c]) (l.apply c).1 := h.settles.apply
  obtain ⟨s, name, happly⟩ := exists_apply_eq l c
  rw [install_of_relay hforeign h.handlers] at happly
  rw [happly] at hsettles ⊢
  exact ⟨rfl, h.made, hsettles, h.sources⟩

theorem isConfigured_applyAll (hcalls : calls ≠ []) :
    start.IsConfigured calls (calls.getLast hcalls) (start.applyAll calls) := by
  -- From the back: the last call meets `start`, or a logger that the calls before it configured.
  induction calls using List.reverseRecOn with
  | nil => exact absurd rfl hcalls
  | append_singleton calls c ih =>
    rw [List.getLast_concat, applyAll_concat]
    by_cases hnil : calls = []
    · subst hnil
      exact isConfigured_singleton hforeign
    · exact (ih hnil).apply hforeign

theorem IsConfigured.tail?_eq (h : start.IsConfigured calls last l) :
    l.tail? = some last.tail := by
  rw [tail?, h.handlers, List.findSome?_append, List.findSome?_eq_none_iff.2]
  · rfl
  · intro a ha
    cases a with
    | silent | foreign => rfl
    | relay => cases hforeign _ ha

end Foreign

/-- Whatever calls configure a logger that has no handler of the library's: the first call makes
one, and in the end that one stands, alone of its kind, behind the handlers that were there, which
are as they were, and shows as many lines as the last call asks for.  The severity is that for which
the last call that is quiet or gives one decides, refused calls apart; a call is refused exactly if
it looks at a datum that gives no severity.  To make the last call again changes nothing. -/
theorem history_isConfigured (start : Logger) (calls : List Configuration)
    (hforeign : ∀ a ∈ start.handlers, a.isRelay = false) (hcalls : calls ≠ []) :
    let first := calls.head hcalls
    let last := calls.getLast hcalls
    let l := start.applyAll calls
    start.IsConfigured [first] first (start.apply first).1 ∧
      start.IsConfigured calls last l ∧ l.tail? = some last.tail ∧ (l.apply last).1 = l ∧
      ∀ (l : Logger) (c : Configuration), (l.apply c).2 = .ok () ↔ ¬c.IsRefused := by
  intro first last l
  have hlast : start.IsConfigured calls last l := isConfigured_applyAll hforeign hcalls
  refine ⟨isConfigured_singleton hforeign, hlast, hlast.tail?_eq hforeign, ?_,
    fun _ _ => apply_snd_eq_ok_iff⟩
  have hconcat : calls.dropLast ++ [last] = calls := List.dropLast_concat_getLast hcalls
  have hl : l = ((start.applyAll calls.dropLast).apply last).1 := by
    rw [← applyAll_concat, hconcat]
  rw [hl, apply_apply]

/-- A logger with the handlers of a program that removed the library's own twice. -/
def sampleLogger : Logger := { severity := 25, handlers := [.silent, .foreign "file"], made := 2 }

/-- Calls of which the last two do not decide for a severity. -/
def sampleCalls : List Configuration :=
  [{ severity := some (.text "DEBUG"), tail := 5 },
    { severity := some (.bool true), quiet := true },
    { severity := some (.text "WARN") },
    { severity := some (.text "warn"), tail := 7 },
    { tail := 0 }]

theorem history_isConfigured_sample :
    sampleLogger.IsConfigured sampleCalls { tail := 0 } (sampleLogger.applyAll sampleCalls) ∧
    (sampleLogger.applyAll sampleCalls).handlers = [.silent, .foreign "file", .relay 2 0] ∧
    (sampleLogger.applyAll sampleCalls).tail? = some 0 ∧
    (sampleLogger.applyAll sampleCalls).severity = .warning := by
  obtain ⟨-, hlast, htail, -, -⟩ := history_isConfigured sampleLogger sampleCalls (by decide) nofun
  exact ⟨hlast, hlast.handlers, htail, by decide⟩

end Logger

end GuestLink.Log
