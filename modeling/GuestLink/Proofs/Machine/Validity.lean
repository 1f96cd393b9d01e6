import GuestLink.Proofs.Argument.Words
import GuestLink.Proofs.Check
import GuestLink.Proofs.Machine.CommandLine
import GuestLink.Proofs.Numeral
import GuestLink.Proofs.Path

/-!
# Valid machines

However its fields were written, a machine that passes the checks of a validation has its numbers
within their bounds and its paths in normal form.  Such a machine passes the checks again with the
fields that it gives back, and stays the same (`ofFields_toFields`).  `accepted_isSettled` adds that
the numbers come to the command line as they are, each in one place.
-/

namespace GuestLink

/-- Whether a path is the path of its text. -/
def Path.IsNormal (p : Path) : Prop := Path.ofText p.text = p

/-- Whether a disk could have been read. -/
def Disk.IsValid (d : Disk) : Prop := d.path.IsNormal

/-- Whether a machine could have been read. -/
structure Machine.IsValid (m : Machine) : Prop where
  memory : 128 ≤ m.memory
  cores : 1 ≤ m.cores ∧ m.cores ≤ 64
  bootImage : m.bootImage.IsNormal
  disks : ∀ d ∈ m.disks, d.IsValid
  serialSocket : m.serialSocket.IsNormal
  forwardPort : 1 ≤ m.forwardPort ∧ m.forwardPort ≤ 65535

variable {v : Validation} (hv : v.IsDocumented)

/-! ### What is read -/

namespace Validation.IsDocumented

include hv

theorem isNormal_of_path {d : Datum} {p : Path} (h : v.path d = .ok p) : p.IsNormal := by
  obtain ⟨s, rfl⟩ := hv.exists_text_of_path h
  exact Path.ofText_text_ofText s

theorem isNormal_of_field {fs : Fields} {name : String} {p : Path}
    (h : v.field fs name none v.path = .ok p) : p.IsNormal :=
  hv.holds_of_field (p := Path.IsNormal) h nofun fun _ _ => hv.isNormal_of_path

theorem path_of_isNormal {p : Path} (h : p.IsNormal) : v.path (.text p.text) = .ok p := by
  rw [hv.path_text, h]

theorem accelerator_name (a : Accelerator) :
    v.oneOf Accelerator.byName (.text a.name) = .ok a := by
  apply hv.oneOf_name
  cases a <;> rfl

theorem imageFormat_name (f : ImageFormat) : v.oneOf ImageFormat.byName (.text f.name) = .ok f := by
  apply hv.oneOf_name
  cases f <;> rfl

end Validation.IsDocumented

open Checked

/-! ### Disks -/

namespace Disk

variable {fs : Fields} {d : Disk}

/-- Whether each field of a disk is read from that of its name, and no other field is there. -/
structure IsReadFrom (v : Validation) (d : Disk) (fs : Fields) : Prop where
  path : v.field fs "path" none v.path = .ok d.path
  format : v.field fs "format" (some .raw) (v.oneOf ImageFormat.byName) = .ok d.format
  readOnly : v.field fs "read_only" (some false) v.truth = .ok d.readOnly
  snapshot : v.field fs "snapshot" (some false) v.truth = .ok d.snapshot
  known : v.unknown fs fieldNames = []

theorem ofFields_eq_ok_iff : ofFields v fs = .ok d ↔ d.IsReadFrom v fs := by
  simp only [ofFields, but_eq_ok_iff, ap_eq_ok_iff, ok.injEq]
  constructor
  · rintro ⟨⟨_, _, ⟨_, _, ⟨_, _, ⟨_, _, rfl, hpath, rfl⟩, hformat, rfl⟩, hreadOnly, rfl⟩,
      hsnapshot, rfl⟩, hknown⟩
    exact ⟨hpath, hformat, hreadOnly, hsnapshot, hknown⟩
  · rintro ⟨hpath, hformat, hreadOnly, hsnapshot, hknown⟩
    exact ⟨⟨_, _, ⟨_, _, ⟨_, _, ⟨_, _, rfl, hpath, rfl⟩, hformat, rfl⟩, hreadOnly, rfl⟩,
      hsnapshot, rfl⟩, hknown⟩

include hv

theorem isValid_of_read {datum : Datum} (h : read v datum = .ok d) : d.IsValid := by
  obtain ⟨fs, hfs⟩ := hv.exists_read_of_record h
  exact hv.isNormal_of_field (ofFields_eq_ok_iff.1 hfs).path

theorem ofFields_toFields (h : d.IsValid) : ofFields v d.toFields = .ok d :=
  ofFields_eq_ok_iff.2
    { path := hv.field_eq_ok_of_lookup rfl (hv.path_of_isNormal h)
      format := hv.field_eq_ok_of_lookup rfl (hv.imageFormat_name _)
      readOnly := hv.field_eq_ok_of_lookup rfl (hv.truth_bool _)
      snapshot := hv.field_eq_ok_of_lookup rfl (hv.truth_bool _)
      known := hv.unknown_eq_nil (by simp [toFields, fieldNames]) }

theorem read_toFields (h : d.IsValid) : read v (.record d.toFields) = .ok d :=
  (hv.record_record _ _ _).trans (ofFields_toFields hv h)

end Disk

namespace Machine

open Argument Numeral

variable {fs : Fields} {m : Machine}

/-! ### The fields of a machine -/

/-- Whether each field of a machine is read from that of its name, and no other field is there. -/
structure IsReadFrom (v : Validation) (m : Machine) (fs : Fields) : Prop where
  memory : v.field fs "memory_mb" (some defaultMemory) (v.natural minMemory none) = .ok m.memory
  cores : v.field fs "cpu_cores" (some defaultCores) (v.natural 1 (some 64)) = .ok m.cores
  accelerator : v.field fs "accel" (some .kvm) (v.oneOf Accelerator.byName) = .ok m.accelerator
  model : v.field fs "machine" (some "q35") v.text = .ok m.model
  bootImage : v.field fs "boot_image" none v.path = .ok m.bootImage
  bootFormat : v.field fs "boot_image_format" (some .qcow2) (v.oneOf ImageFormat.byName) =
    .ok m.bootFormat
  disks : v.field fs "disks" (some []) (v.each (Disk.read v)) = .ok m.disks
  serialSocket : v.field fs "serial_socket_path" none v.path = .ok m.serialSocket
  forwardHost : v.field fs "ssh_forward_host" (some defaultForwardHost) v.text = .ok m.forwardHost
  forwardPort : v.field fs "ssh_forward_port" none (v.natural 1 (some 65535)) = .ok m.forwardPort
  known : v.unknown fs fieldNames = []

theorem ofFields_eq_ok_iff : ofFields v fs = .ok m ↔ m.IsReadFrom v fs := by
  simp only [ofFields, but_eq_ok_iff, ap_eq_ok_iff, ok.injEq]
  constructor
  · rintro ⟨⟨_, _, ⟨_, _, ⟨_, _, ⟨_, _, ⟨_, _, ⟨_, _, ⟨_, _, ⟨_, _, ⟨_, _, ⟨_, _, rfl, hmemory,
      rfl⟩, hcores, rfl⟩, haccelerator, rfl⟩, hmodel, rfl⟩, himage, rfl⟩, hformat, rfl⟩, hdisks,
      rfl⟩, hsocket, rfl⟩, hhost, rfl⟩, hport, rfl⟩, hknown⟩
    exact ⟨hmemory, hcores, haccelerator, hmodel, himage, hformat, hdisks, hsocket, hhost, hport,
      hknown⟩
  · rintro ⟨hmemory, hcores, haccelerator, hmodel, himage, hformat, hdisks, hsocket, hhost, hport,
      hknown⟩
    exact ⟨⟨_, _, ⟨_, _, ⟨_, _, ⟨_, _, ⟨_, _, ⟨_, _, ⟨_, _, ⟨_, _, ⟨_, _, ⟨_, _, rfl, hmemory,
      rfl⟩, hcores, rfl⟩, haccelerator, rfl⟩, hmodel, rfl⟩, himage, rfl⟩, hformat, rfl⟩, hdisks,
      rfl⟩, hsocket, rfl⟩, hhost, rfl⟩, hport, rfl⟩, hknown⟩

include hv in
theorem isValid_of_ofFields (h : ofFields v fs = .ok m) : m.IsValid := by
  have hread := ofFields_eq_ok_iff.1 h
  constructor
  case memory =>
    refine hv.holds_of_field (p := fun n => 128 ≤ n) hread.memory ?_ fun _ _ hd =>
      (hv.natural_bounds hd).1
    rintro n ⟨⟩
    decide
  case cores =>
    refine hv.holds_of_field (p := fun n => 1 ≤ n ∧ n ≤ 64) hread.cores ?_ fun _ _ hd => ?_
    · rintro n ⟨⟩
      decide
    · exact ⟨(hv.natural_bounds hd).1, (hv.natural_bounds hd).2 64 rfl⟩
  case bootImage => exact hv.isNormal_of_field hread.bootImage
  case disks =>
    refine hv.holds_of_field (p := fun ds => ∀ d ∈ ds, d.IsValid) hread.disks ?_ fun _ ds hd => ?_
    · rintro ds ⟨⟩
      exact nofun
    · intro d hmem
      obtain ⟨datum, hdatum⟩ := hv.exists_read_of_each hd d hmem
      exact Disk.isValid_of_read hv hdatum
  case serialSocket => exact hv.isNormal_of_field hread.serialSocket
  case forwardPort =>
    refine hv.holds_of_field (p := fun n => 1 ≤ n ∧ n ≤ 65535) hread.forwardPort nofun
      fun _ _ hd => ?_
    exact ⟨(hv.natural_bounds hd).1, (hv.natural_bounds hd).2 65535 rfl⟩

include hv in
/-- A valid machine is read from the fields that it gives back. -/
theorem ofFields_toFields (h : m.IsValid) : ofFields v m.toFields = .ok m := by
  have hdisks : v.each (Disk.read v) (.list (m.disks.map (.record ·.toFields))) = .ok m.disks := by
    apply hv.each_list
    rw [List.forall₂_map_left_iff, List.forall₂_same]
    exact fun d hd => Disk.read_toFields hv (h.disks d hd)
  have hmemory : v.natural minMemory none (.int m.memory) = .ok m.memory :=
    hv.natural_int h.memory nofun
  have hcores : v.natural 1 (some 64) (.int m.cores) = .ok m.cores := by
    refine hv.natural_int h.cores.1 ?_
    rintro g ⟨⟩
    exact h.cores.2
  have hport : v.natural 1 (some 65535) (.int m.forwardPort) = .ok m.forwardPort := by
    refine hv.natural_int h.forwardPort.1 ?_
    rintro g ⟨⟩
    exact h.forwardPort.2
  exact ofFields_eq_ok_iff.2
    { memory := hv.field_eq_ok_of_lookup rfl hmemory
      cores := hv.field_eq_ok_of_lookup rfl hcores
      accelerator := hv.field_eq_ok_of_lookup rfl (hv.accelerator_name _)
      model := hv.field_eq_ok_of_lookup rfl (hv.text_text _)
      bootImage := hv.field_eq_ok_of_lookup rfl (hv.path_of_isNormal h.bootImage)
      bootFormat := hv.field_eq_ok_of_lookup rfl (hv.imageFormat_name _)
      disks := hv.field_eq_ok_of_lookup rfl hdisks
      serialSocket := hv.field_eq_ok_of_lookup rfl (hv.path_of_isNormal h.serialSocket)
      forwardHost := hv.field_eq_ok_of_lookup rfl (hv.text_text _)
      forwardPort := hv.field_eq_ok_of_lookup rfl hport
      known := hv.unknown_eq_nil (by simp [toFields, fieldNames]) }

/-! ### The numbers on the command line -/

theorem hyphenFree_options (m : Machine) : HyphenFree m.options := by
  have items (key value : String) (texts : List (String × String)) (hne : key ≠ "")
      (hkey : key.toList.head? ≠ some '-') :
      (Value.items ((key, value) :: texts)).text.toList.head? ≠ some '-' := by
    rwa [head?_text_items hne]
  have number (n : Nat) : (Value.uint n).text.toList.head? ≠ some '-' := by
    intro h
    exact (isDecimal_toString n).not_mem (c := '-') rfl (List.mem_of_mem_head? h)
  intro o ho
  rw [options, List.mem_append] at ho
  rcases ho with ho | ho
  · simp only [List.mem_cons, List.not_mem_nil, or_false] at ho
    rcases ho with rfl | rfl | rfl | rfl | rfl | rfl | rfl | rfl | rfl | rfl | rfl
    · exact items _ _ _ (by decide) (by decide)
    · exact items _ _ _ (by decide) (by decide)
    · exact number m.memory
    · exact number m.cores
    · decide
    · decide
    · exact items _ _ _ (by decide) (by decide)
    · decide
    · exact items _ _ _ (by decide) (by decide)
    · exact items _ _ _ (by decide) (by decide)
    · exact items _ _ _ (by decide) (by decide)
  · obtain ⟨d, -, rfl⟩ := List.mem_map.1 ho
    exact items _ _ _ (by decide) (by decide)

theorem text_networkItems (m : Machine) :
    (Value.items (m.networkItems (toString m.forwardPort))).text =
    "type=user,id=net0,hostfwd=tcp:" ++ m.forwardHost ++ ":" ++ toString m.forwardPort ++
      "-:22" := by
  rw [networkItems_eq, ← String.toList_inj]
  simp [Value.text]

include hv in
/-- A machine that was read from any fields is read again from the fields that it gives back, and
stays the same.  On its command line, behind the program, the memory, the number of processors and
the network stand once each, and their numbers are decimal numerals of numbers within bounds. -/
theorem accepted_isSettled (h : ofFields v fs = .ok m) :
    ofFields v m.toFields = .ok m ∧
    ∀ (limit : DigitLimit) (settings : Settings) (words : List String),
      m.commandLine limit settings = .ok words →
      ∃ memory cores port,
        (CarriesOnce words.tail "-m" memory ∧ IsDecimal memory m.memory ∧ 128 ≤ m.memory) ∧
        (CarriesOnce words.tail "-smp" cores ∧ IsDecimal cores m.cores ∧
          1 ≤ m.cores ∧ m.cores ≤ 64) ∧
        CarriesOnce words.tail "-netdev"
          ("type=user,id=net0,hostfwd=tcp:" ++ m.forwardHost ++ ":" ++ port ++ "-:22") ∧
        IsDecimal port m.forwardPort ∧ 1 ≤ m.forwardPort ∧ m.forwardPort ≤ 65535 := by
  have hvalid := isValid_of_ofFields hv h
  refine ⟨ofFields_toFields hv hvalid, fun limit settings words hwords => ?_⟩
  obtain ⟨-, -, rfl⟩ := commandLine_eq_ok_iff.1 hwords
  have once (option : String) (value : Value) (hvalue : value ≠ .none)
      (hfilter : (m.options.filter fun o => o.1 = option) = [(option, value)]) :
      CarriesOnce (m.options.flatMap spell) ("-" ++ option) value.text :=
    carriesOnce_spell hvalue (hyphenFree_options m) hfilter
  have hmemory := once "m" (.uint m.memory) (by simp) (filter_options (by decide) m)
  have hcores := once "smp" (.uint m.cores) (by simp) (filter_options (by decide) m)
  have hnetwork := once "netdev" _ (by simp) (filter_netdev m)
  rw [text_networkItems] at hnetwork
  exact ⟨_, _, _, ⟨hmemory, isDecimal_toString _, hvalid.memory⟩,
    ⟨hcores, isDecimal_toString _, hvalid.cores⟩,
    hnetwork, isDecimal_toString _, hvalid.forwardPort⟩

/-- Fields with numbers in other shapes and paths that are not in normal form. -/
def sampleFields : Fields :=
  [("memory_mb", .text " +0_512.0"), ("cpu_cores", .bool true),
    ("boot_image", .text "//images//./alpine.qcow2/"),
    ("disks", .list [.record [("path", .text "./data/../b.img"), ("read_only", .text "ON")]]),
    ("serial_socket_path", .text "///run/serial.sock"), ("ssh_forward_port", .float (.ofInt 2222))]

/-- The machine that the sample fields describe. -/
def sampleMachine : Machine :=
  { memory := 512, cores := 1, accelerator := .kvm, model := "q35",
    bootImage := ⟨"//images/alpine.qcow2"⟩, bootFormat := .qcow2,
    disks := [⟨⟨"data/../b.img"⟩, .raw, true, false⟩], serialSocket := ⟨"/run/serial.sock"⟩,
    forwardHost := "127.0.0.1", forwardPort := 2222 }

theorem accepted_isSettled_sample :
    Validation.lax.IsDocumented ∧ ofFields .lax sampleFields = .ok sampleMachine ∧
    ofFields .lax sampleMachine.toFields = .ok sampleMachine ∧
    ∃ settings words, sampleMachine.commandLine .usual settings = .ok words ∧
      ∃ memory, CarriesOnce words.tail "-m" memory ∧ IsDecimal memory 512 := by
  have hfields : ofFields .lax sampleFields = .ok sampleMachine := by decide +kernel
  have hwritable : sampleMachine.IsWritable := by
    refine isWritable_iff.2 ?_
    decide
  have hfits : sampleMachine.Fits .usual := ⟨by decide, by decide, by decide⟩
  let settings : Settings := ⟨⟨"qemu"⟩, .ofInt 5, .ofInt 5, "root", .ofInt 10⟩
  have hwords : sampleMachine.commandLine .usual settings = .ok _ :=
    commandLine_eq_ok_iff.2 ⟨hwritable, hfits, rfl⟩
  obtain ⟨hsettled, hnumbers⟩ := accepted_isSettled Validation.lax_isDocumented hfields
  obtain ⟨memory, -, -, ⟨honce, hdecimal, -⟩, -⟩ := hnumbers .usual settings _ hwords
  exact ⟨Validation.lax_isDocumented, hfields, hsettled, settings, _, hwords, memory, honce,
    hdecimal⟩

end Machine

end GuestLink
