import GuestLink.Machine.CommandLine
import GuestLink.Proofs.Argument.Reading

/-!
# The command line of a machine

`commandLine_faithful` says when a machine has a command line, and that this, read back, gives
exactly the options that the machine asks for.  As these determine the machine
(`options_injective`), no text of one machine can pass for an option of another.
-/

namespace GuestLink

namespace Machine

open Argument

/-- Whether a text consists of safe characters, of which there is one at least. -/
def IsPlain (s : String) : Prop := s ≠ "" ∧ ∀ c ∈ s.toList, c ∈ safeAlphabet

/-- Whether every text of a machine can be written without escapes. -/
structure IsWritable (m : Machine) : Prop where
  model : IsPlain m.model
  serialSocket : IsPlain m.serialSocket.text
  bootImage : IsPlain m.bootImage.text
  disks : ∀ d ∈ m.disks, IsPlain d.path.text
  forwardHost : ∀ c ∈ m.forwardHost.toList, c ∈ safeAlphabet

/-- The items that attach a disk. -/
def driveItems (d : Disk) : List (String × String) :=
  [("file", d.path.text), ("format", d.format.name), ("if", "virtio")] ++
    (if d.readOnly then [("readonly", "on")] else []) ++
    (if d.snapshot then [("snapshot", "on")] else [])

/-- The options that a machine asks for, and no other. -/
def options (m : Machine) : List (String × Argument.Value) :=
  [("machine", .items [("type", m.model)]),
    ("accel", .items (("accel", m.accelerator.name) ::
      if m.accelerator = .tcg then [("thread", "single")] else [])),
    ("m", .uint m.memory),
    ("smp", .uint m.cores),
    ("nographic", .none),
    ("no-reboot", .none),
    ("chardev", .items [("backend", "socket"), ("id", "serial0"), ("path", m.serialSocket.text),
      ("server", "on"), ("wait", "off")]),
    ("serial", .string "chardev:serial0"),
    ("netdev", .items [("type", "user"), ("id", "net0"),
      ("hostfwd", "tcp:" ++ m.forwardHost ++ ":" ++ toString m.forwardPort ++ "-:22")]),
    ("device", .items [("driver", "virtio-net-pci"), ("netdev", "net0")]),
    ("drive", .items [("file", m.bootImage.text), ("format", m.bootFormat.name), ("if", "virtio"),
      ("snapshot", "on")])] ++
    m.disks.map fun d => ("drive", .items (driveItems d))

/-! ### What the options need -/

theorem isPlain_iff {s : String} : IsPlain s ↔ IsSafe s := isSafe_iff.symm

theorem isSafe_forwardRule_iff {m : Machine} :
    IsSafe (m.forwardRule (toString m.forwardPort)) ↔ ∀ c ∈ m.forwardHost.toList, isSafeChar c = true := by
  have hport : ∀ c ∈ Nat.toDigits 10 m.forwardPort, isSafeChar c = true := by
    intro c hc
    have hd := Nat.isDigit_of_mem_toDigits (by decide) (by decide) hc
    simp [isSafeChar, Char.isAlphanum, hd]
  have htext : (m.forwardRule (toString m.forwardPort)).toList = ['t', 'c', 'p', ':'] ++ m.forwardHost.toList ++ [':'] ++
      Nat.toDigits 10 m.forwardPort ++ ['-', ':', '2', '2'] := by
    simp [forwardRule, guestPort]
    decide
  have hne : m.forwardRule (toString m.forwardPort) ≠ "" := by
    intro e
    rw [e] at htext
    simp at htext
  simp only [IsSafe, hne, ne_eq, not_false_eq_true, true_and, htext, List.all_append,
    List.all_eq_true.2 hport, Bool.and_eq_true, List.all_eq_true]
  constructor
  · intro h
    exact h.1.1.1.2
  · intro h
    -- of the fixed parts `List.all` is what can be evaluated
    exact ⟨⟨⟨⟨List.all_eq_true.1 rfl, h⟩, List.all_eq_true.1 rfl⟩, trivial⟩, List.all_eq_true.1 rfl⟩

theorem allSafe_acceleratorItems (a : Accelerator) : AllSafe (acceleratorItems a) := by
  cases a <;> decide

theorem allSafe_serialItems_iff {m : Machine} :
    AllSafe m.serialItems ↔ IsSafe m.serialSocket.text :=
  allSafe_insert_iff [("backend", "socket"), ("id", serialDevice)] "path" _
    [("server", "on"), ("wait", "off")] (by decide) (by decide) (by decide)

theorem allSafe_networkItems_iff {m : Machine} :
    AllSafe (m.networkItems (toString m.forwardPort)) ↔ ∀ c ∈ m.forwardHost.toList, isSafeChar c = true := by
  rw [← isSafe_forwardRule_iff]
  exact allSafe_insert_iff [("type", "user"), ("id", networkDevice)] "hostfwd" _ [] (by decide)
    (by decide) (by decide)

theorem allSafe_bootItems_iff {m : Machine} : AllSafe m.bootItems ↔ IsSafe m.bootImage.text := by
  refine allSafe_insert_iff [] "file" _
    [("format", m.bootFormat.name), ("if", "virtio"), ("snapshot", "on")] (by decide) (by decide) ?_
  cases m.bootFormat <;> decide

theorem allSafe_diskItems_iff {d : Disk} : AllSafe (diskItems d) ↔ IsSafe d.path.text := by
  refine allSafe_insert_iff [] "file" _ ([("format", d.format.name), ("if", "virtio")] ++
    (if d.readOnly then [("readonly", "on")] else []) ++
    (if d.snapshot then [("snapshot", "on")] else [])) (by decide) (by decide) ?_
  cases d.format <;> cases d.readOnly <;> cases d.snapshot <;> decide

theorem isWritable_iff {m : Machine} :
    m.IsWritable ↔ IsSafe m.model ∧ AllSafe m.serialItems ∧
      AllSafe (m.networkItems (toString m.forwardPort)) ∧ AllSafe m.bootItems ∧
      ∀ d ∈ m.disks, AllSafe (diskItems d) := by
  simp only [allSafe_serialItems_iff, allSafe_networkItems_iff, allSafe_bootItems_iff,
    allSafe_diskItems_iff, isSafeChar_iff_mem, ← isPlain_iff]
  constructor
  · intro h
    exact ⟨h.model, h.serialSocket, h.forwardHost, h.bootImage, h.disks⟩
  · rintro ⟨hm, hs, hf, hb, hd⟩
    exact ⟨hm, hs, hb, hd, hf⟩

theorem serialDevice_text : "chardev:" ++ serialDevice = "chardev:serial0" := by decide

theorem networkItems_eq (m : Machine) (port : String) : m.networkItems port =
    [("type", "user"), ("id", "net0"),
      ("hostfwd", "tcp:" ++ m.forwardHost ++ ":" ++ port ++ "-:22")] := by
  have hport : "-:" ++ toString guestPort = "-:22" := by decide
  rw [networkItems, forwardRule, String.append_assoc, hport, networkDevice]

/-! ### Building them -/

variable {limit : DigitLimit} {m : Machine} {args : List Argument} {fault : ArgumentFault}

theorem exists_ofUint (limit : DigitLimit) (option : String) (n : Nat)
    (hk : optionKind option = some .uint) : ∃ a, ofUint limit option (.int n) = .ok a :=
  ⟨_, ofUint_eq_ok_iff.2 ⟨n, hk, rfl, rfl⟩⟩

theorem exists_fixedFlag (option : String) (hk : optionKind option = some .none) :
    ∃ a, fixedFlag option = .ok a := ⟨_, fixedFlag_eq_ok_iff.2 ⟨hk, rfl⟩⟩

theorem exists_arguments_of_isWritable (h : m.IsWritable) (hport : limit.Admits m.forwardPort) :
    ∃ args, m.arguments limit = .ok args := by
  obtain ⟨hm, hs, hf, hb, hd⟩ := isWritable_iff.1 h
  have items (option : String) {texts} (hk : optionKind option = some .keyValue)
      (ht : AllSafe texts) : ∃ a, ofItems option texts = .ok a := exists_ofItems_iff.2 ⟨hk, ht⟩
  have hmodel : AllSafe [("type", m.model)] :=
    (allSafe_insert_iff [] "type" m.model [] (by decide) (by decide) (by decide)).2 hm
  obtain ⟨model, h1⟩ := items "machine" rfl hmodel
  obtain ⟨accelerator, h2⟩ := items "accel" rfl (allSafe_acceleratorItems m.accelerator)
  obtain ⟨memory, h3⟩ := exists_ofUint limit "m" m.memory rfl
  obtain ⟨cores, h4⟩ := exists_ofUint limit "smp" m.cores rfl
  obtain ⟨noGraphic, h5⟩ := exists_fixedFlag "nographic" rfl
  obtain ⟨noReboot, h6⟩ := exists_fixedFlag "no-reboot" rfl
  obtain ⟨device, h7⟩ := items "chardev" rfl hs
  obtain ⟨serial, h8⟩ : ∃ a, ofString "serial" ("chardev:" ++ serialDevice) = .ok a :=
    ⟨_, ofString_eq_ok_iff.2 ⟨⟨_, by decide⟩, rfl, rfl, rfl⟩⟩
  have h9 : limit.write m.forwardPort = .ok (toString m.forwardPort) :=
    DigitLimit.write_of_admits hport
  obtain ⟨network, h10⟩ := items "netdev" rfl hf
  obtain ⟨card, h11⟩ := items "device" rfl (show AllSafe cardItems by decide)
  obtain ⟨boot, h12⟩ := items "drive" rfl hb
  obtain ⟨disks, h13⟩ := Except.exists_mapM_eq_ok_iff.2 fun d hd' =>
    items "drive" rfl (hd d hd')
  refine ⟨[model, accelerator, memory, cores, noGraphic, noReboot, device, serial, network, card,
    boot] ++ disks, ?_⟩
  simp only [arguments, h1, h2, h3, h4, h5, h6, h7, h8, h9, h10, h11, h12, h13,
    Except.bind_eq_ok_iff, Except.mapError_eq_ok_iff, Except.pure_eq_ok_iff, Except.ok.injEq,
    exists_eq_left']

/-- Options are built for writable machines only, and they are the ones asked for. -/
theorem meaning_of_arguments (h : m.arguments limit = .ok args) :
    m.IsWritable ∧ limit.Admits m.forwardPort ∧ args.map meaning = m.options := by
  have safe {option texts a} (h : ofItems option texts = .ok a) : AllSafe texts :=
    (exists_ofItems_iff.1 ⟨a, h⟩).2
  simp only [arguments, Except.bind_eq_ok_iff, Except.mapError_eq_ok_iff,
    Except.pure_eq_ok_iff] at h
  obtain ⟨model, h1, accelerator, h2, memory, h3, cores, h4, noGraphic, h5, noReboot, h6, device,
    h7, serial, h8, port, h9, network, h10, card, h11, boot, h12, disks, h13, rfl⟩ := h
  obtain ⟨hport, rfl⟩ := DigitLimit.write_eq_ok_iff.1 h9
  refine ⟨?_, hport, ?_⟩
  · refine isWritable_iff.2 ⟨(safe h1 _ (List.mem_singleton_self _)).2, safe h7, safe h10, safe h12,
      fun d hd => ?_⟩
    obtain ⟨a, ha⟩ := Except.exists_mapM_eq_ok_iff.1 ⟨disks, h13⟩ d hd
    exact safe ha
  · have hdisks : disks.map meaning = m.disks.map fun d => ("drive", .items (driveItems d)) := by
      rw [← List.forall₂_eq_eq_eq, List.forall₂_map_left_iff, List.forall₂_map_right_iff]
      exact (Except.mapM_eq_ok_iff.1 h13).flip.imp fun _ _ => meaning_of_ofItems
    rw [List.map_append, hdisks]
    simp only [List.map_cons, List.map_nil, meaning_of_ofItems h1, meaning_of_ofItems h2,
      meaning_of_ofUint h3, meaning_of_ofUint h4, meaning_of_fixedFlag h5, meaning_of_fixedFlag h6,
      meaning_of_ofItems h7, meaning_of_ofString h8, meaning_of_ofItems h10,
      meaning_of_ofItems h11, meaning_of_ofItems h12, serialDevice_text, networkItems_eq]
    rfl

/-- What is not built is refused, or the port is not written. -/
theorem isRefusal_or_of_arguments (h : m.arguments limit = .error fault) :
    fault.IsRefusal ∨ ¬limit.Admits m.forwardPort ∧ ∃ e, fault = .excess e := by
  have built {α : Type} {x : Except ArgumentFault α} (hx : ∃ a, x = .ok a) : x ≠ .error fault := by
    obtain ⟨a, rfl⟩ := hx
    exact nofun
  obtain h | ⟨_, -, h⟩ := Except.bind_eq_error_iff.1 h
  · exact .inl (isRefusal_of_ofItems h)
  obtain h | ⟨_, -, h⟩ := Except.bind_eq_error_iff.1 h
  · exact .inl (isRefusal_of_ofItems h)
  obtain h | ⟨_, -, h⟩ := Except.bind_eq_error_iff.1 h
  · exact absurd h (built (exists_ofUint limit "m" m.memory rfl))
  obtain h | ⟨_, -, h⟩ := Except.bind_eq_error_iff.1 h
  · exact absurd h (built (exists_ofUint limit "smp" m.cores rfl))
  obtain h | ⟨_, -, h⟩ := Except.bind_eq_error_iff.1 h
  · exact absurd h (built (exists_fixedFlag "nographic" rfl))
  obtain h | ⟨_, -, h⟩ := Except.bind_eq_error_iff.1 h
  · exact absurd h (built (exists_fixedFlag "no-reboot" rfl))
  obtain h | ⟨_, -, h⟩ := Except.bind_eq_error_iff.1 h
  · exact .inl (isRefusal_of_ofItems h)
  obtain h | ⟨_, -, h⟩ := Except.bind_eq_error_iff.1 h
  · exact .inl (isRefusal_of_ofString h)
  obtain h | ⟨_, -, h⟩ := Except.bind_eq_error_iff.1 h
  · obtain ⟨e, he, rfl⟩ := Except.mapError_eq_error_iff.1 h
    refine .inr ⟨fun hport => ?_, e, rfl⟩
    rw [DigitLimit.write_of_admits hport] at he
    cases he
  obtain h | ⟨_, -, h⟩ := Except.bind_eq_error_iff.1 h
  · exact .inl (isRefusal_of_ofItems h)
  obtain h | ⟨_, -, h⟩ := Except.bind_eq_error_iff.1 h
  · exact .inl (isRefusal_of_ofItems h)
  obtain h | ⟨_, -, h⟩ := Except.bind_eq_error_iff.1 h
  · exact .inl (isRefusal_of_ofItems h)
  obtain h | ⟨_, -, h⟩ := Except.bind_eq_error_iff.1 h
  · obtain ⟨-, d, -, -, -, hd⟩ := Except.mapM_eq_error_iff.1 h
    exact .inl (isRefusal_of_ofItems hd)
  · exact absurd h Except.pure_ne_error

/-! ### What the options tell -/

theorem accelerator_name_injective : Function.Injective Accelerator.name := by
  intro a b h
  cases a <;> cases b <;> first | rfl | exact absurd h (by decide)

theorem imageFormat_name_injective : Function.Injective ImageFormat.name := by
  intro a b h
  cases a <;> cases b <;> first | rfl | exact absurd h (by decide)

theorem path_text_injective : Function.Injective Path.text := by
  rintro ⟨p⟩ ⟨q⟩ rfl
  rfl

/-- The host and the port can be told apart, as the port holds no colon. -/
theorem forwardRule_injective {h h' : String} {p p' : Nat}
    (e : "tcp:" ++ h ++ ":" ++ toString p ++ "-:22" =
      "tcp:" ++ h' ++ ":" ++ toString p' ++ "-:22") : h = h' ∧ p = p' := by
  have hcolon (n : Nat) : ':' ∉ (toString n).toList.reverse := by
    rw [List.mem_reverse, Nat.toString_eq_ofList_toDigits, String.toList_ofList]
    intro hc
    exact absurd (Nat.isDigit_of_mem_toDigits (by decide) (by decide) hc) (by decide)
  rw [String.append_left_inj] at e
  have hl := congrArg (Text.splitAt ':' ∘ List.reverse ∘ String.toList) e
  simp only [Function.comp_apply, String.toList_append, List.reverse_append, List.append_assoc,
    show ":".toList.reverse = [':'] from rfl, List.cons_append] at hl
  rw [Text.splitAt_append_cons (hcolon p), Text.splitAt_append_cons (hcolon p')] at hl
  have hp : p = p' := by
    have := congrArg Numeral.readDigits? (List.reverse_injective (List.cons.inj hl).1)
    rwa [readDigits?_toString, readDigits?_toString, Option.some_inj] at this
  subst hp
  rw [String.append_left_inj, String.append_left_inj, String.append_right_inj] at e
  exact ⟨e, rfl⟩

theorem driveItems_injective : Function.Injective driveItems := by
  rintro ⟨⟨p⟩, f, r, s⟩ ⟨⟨p'⟩, f', r', s'⟩ h
  have hf : f = f' := by
    simp only [driveItems, List.append_assoc, List.cons_append, List.cons.injEq, Prod.mk.injEq,
      true_and] at h
    exact imageFormat_name_injective h.2.1
  cases r <;> cases r' <;> cases s <;> cases s' <;> simp_all [driveItems]

/-- The options determine the machine. -/
theorem options_injective : Function.Injective options := by
  intro m m' h
  simp only [options, List.cons_append, List.nil_append, List.cons.injEq, Prod.mk.injEq, true_and,
    and_true, Argument.Value.items.injEq, Argument.Value.uint.injEq] at h
  obtain ⟨hmodel, ⟨haccel, -⟩, hmemory, hcores, hsocket, hforward, ⟨hboot, hformat⟩, hdisks⟩ := h
  obtain ⟨hhost, hport⟩ := forwardRule_injective hforward
  have hd : Function.Injective fun d => ("drive", Argument.Value.items (driveItems d)) :=
    fun d d' e => driveItems_injective (Argument.Value.items.inj (Prod.ext_iff.1 e).2)
  cases m
  cases m'
  exact (Machine.mk.injEq ..).mpr ⟨hmemory, hcores, accelerator_name_injective haccel, hmodel,
    path_text_injective hboot, imageFormat_name_injective hformat,
    (List.map_injective_iff.2 hd) hdisks,
    path_text_injective hsocket, hhost, hport⟩

/-- Of the options that are not drives, all that a machine asks for come first. -/
theorem filter_options {name : String} (hname : name ≠ "drive") (m : Machine) :
    (m.options.filter fun o => o.1 = name) = (m.options.take 11).filter fun o => o.1 = name := by
  have hdisks : (m.disks.map fun d => ("drive", Value.items (driveItems d))).filter
      (fun o => o.1 = name) = [] := by
    rw [List.filter_map, List.map_eq_nil_iff, List.filter_eq_nil_iff]
    intro d _
    simpa using hname.symm
  rw [options, List.filter_append, hdisks, List.append_nil]
  rfl

theorem filter_netdev (m : Machine) : (m.options.filter fun o => o.1 = "netdev") =
    [("netdev", .items (m.networkItems (toString m.forwardPort)))] := by
  rw [filter_options (by decide), networkItems_eq]
  rfl

/-! ### The command line -/

/-- Whether the numbers of a machine are written; if there is no limit, they are. -/
structure Fits (limit : DigitLimit) (m : Machine) : Prop where
  memory : limit.Admits m.memory
  cores : limit.Admits m.cores
  forwardPort : limit.Admits m.forwardPort

theorem fits_options_iff :
    (∀ o ∈ m.options, o.2.Fits limit) ↔ limit.Admits m.memory ∧ limit.Admits m.cores := by
  have hdisks : ∀ o ∈ m.disks.map fun d => ("drive", Value.items (driveItems d)),
      o.2.Fits limit := by
    intro o ho
    obtain ⟨d, -, rfl⟩ := List.mem_map.1 ho
    trivial
  rw [options, List.forall_mem_append, and_iff_left hdisks]
  simp [Value.Fits]

theorem fits_arguments_iff (h : m.arguments limit = .ok args) :
    (∀ a ∈ args, a.Fits limit) ↔ limit.Admits m.memory ∧ limit.Admits m.cores := by
  rw [← fits_options_iff, ← (meaning_of_arguments h).2.2, List.forall_mem_map]
  rfl

/-- The words of a command line: the arguments are built, their numbers are written, and what stands
behind the program is what they say. -/
theorem commandLine_eq_ok_iff {settings : Settings} {words : List String} :
    m.commandLine limit settings = .ok words ↔ m.IsWritable ∧ m.Fits limit ∧
      words = settings.emulator.text :: m.options.flatMap spell := by
  simp only [commandLine, program, Except.bind_eq_ok_iff, Except.map_eq_ok_iff, encode_eq_ok_iff]
  constructor
  · rintro ⟨args, hargs, _, ⟨hfits, rfl⟩, rfl⟩
    obtain ⟨hwritable, hport, hmeaning⟩ := meaning_of_arguments hargs
    obtain ⟨hmemory, hcores⟩ := (fits_arguments_iff hargs).1 hfits
    exact ⟨hwritable, ⟨hmemory, hcores, hport⟩, by rw [hmeaning]⟩
  · rintro ⟨hwritable, hfits, rfl⟩
    obtain ⟨args, hargs⟩ := exists_arguments_of_isWritable hwritable hfits.forwardPort
    refine ⟨args, hargs, _, ⟨(fits_arguments_iff hargs).2 ⟨hfits.memory, hfits.cores⟩, rfl⟩, ?_⟩
    rw [(meaning_of_arguments hargs).2.2]

theorem readWords?_options {settings : Settings} {words : List String}
    (h : m.commandLine limit settings = .ok words) :
    words.head? = some settings.emulator.text ∧ readWords? words.tail = some m.options := by
  obtain ⟨args, hargs, h⟩ := Except.bind_eq_ok_iff.1 h
  obtain ⟨words, hwords, rfl⟩ := Except.map_eq_ok_iff.1 h
  exact ⟨rfl, (meaning_of_arguments hargs).2.2 ▸ readWords?_encode hwords⟩

/-- A machine without a command line is refused, or a number of it is not written. -/
theorem isRefusal_or_of_commandLine {settings : Settings}
    (h : m.commandLine limit settings = .error fault) :
    fault.IsRefusal ∧ (limit.Admits m.forwardPort → ¬m.IsWritable) ∨
      ¬m.Fits limit ∧ ∃ e, fault = .excess e := by
  obtain h | ⟨args, hargs, h⟩ := Except.bind_eq_error_iff.1 h
  · obtain hrefusal | ⟨hport, hexcess⟩ := isRefusal_or_of_arguments h
    · refine .inl ⟨hrefusal, fun hport hwritable => ?_⟩
      obtain ⟨args, hargs⟩ := exists_arguments_of_isWritable hwritable hport
      rw [hargs] at h
      cases h
    · exact .inr ⟨fun hfits => hport hfits.forwardPort, hexcess⟩
  · obtain ⟨e, rfl⟩ := exists_excess_of_encode (Except.map_eq_error_iff.1 h)
    refine .inr ⟨fun hfits => ?_, e, rfl⟩
    have hall := (fits_arguments_iff hargs).2 ⟨hfits.memory, hfits.cores⟩
    have hencode : encode limit args = .ok _ := encode_eq_ok_iff.2 ⟨hall, rfl⟩
    rw [program, Except.map_eq_error_iff, hencode] at h
    cases h

end Machine

end GuestLink
