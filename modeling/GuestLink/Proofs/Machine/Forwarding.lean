import GuestLink.Proofs.Machine.CommandLine
import GuestLink.Proofs.Numeral

/-!
# Port forwards

The emulator reads a forwarding rule by cutting it at the first colon, the next colon, the next
hyphen and the next colon.  `forward_read_iff` says that of the rule of a machine it reads the
forward that the machine means exactly if there is no colon in the host address.  Colons are safe
characters, so that an address with one is not refused, and the emulator takes what follows the
colon for the port.
-/

namespace GuestLink

namespace Text

variable {sep : Char} {xs ys : List Char}

/-- What stands before the first `sep`, and what stands behind it. -/
def cut? (sep : Char) (cs : List Char) : Option (List Char × List Char) :=
  match cs.dropWhile (· != sep) with
  | [] => none
  | _ :: rest => some (cs.takeWhile (· != sep), rest)

theorem takeWhile_eq_self_iff : xs.takeWhile (· != sep) = xs ↔ sep ∉ xs := by
  simp only [List.takeWhile_eq_self_iff, bne_iff_ne]
  constructor
  · intro h hm
    exact h sep hm rfl
  · intro h x hx hs
    exact h (hs ▸ hx)

theorem cut?_append_cons (h : sep ∉ xs) (ys : List Char) :
    cut? sep (xs ++ sep :: ys) = some (xs, ys) := by
  have hp : ∀ x ∈ xs, (x != sep) = true := List.takeWhile_eq_self_iff.1 (takeWhile_eq_self_iff.2 h)
  simp [cut?, List.dropWhile_append_of_pos hp, List.takeWhile_append_of_pos hp]

/-- A cut before a separator that is there loses nothing behind that one. -/
theorem exists_cut?_append_cons (sep : Char) (xs ys : List Char) :
    ∃ rest, cut? sep (xs ++ sep :: ys) = some (xs.takeWhile (· != sep), rest) ∧ ys <:+ rest := by
  by_cases h : sep ∈ xs
  · obtain ⟨before, behind, rfl, hb⟩ := List.eq_append_cons_of_mem h
    have ht : (before ++ sep :: behind).takeWhile (· != sep) = before := by
      have hp := List.takeWhile_eq_self_iff.1 (takeWhile_eq_self_iff.2 hb)
      simp [List.takeWhile_append_of_pos hp]
    refine ⟨behind ++ sep :: ys, ?_, behind ++ [sep], by simp⟩
    rw [ht, List.append_assoc, List.cons_append, cut?_append_cons hb]
  · refine ⟨ys, ?_, List.suffix_rfl⟩
    rw [cut?_append_cons h, takeWhile_eq_self_iff.2 h]

end Text

/-- A forward of a host port to the guest, by the parts of its rule. -/
structure Forward where
  protocol : String
  hostAddress : String
  hostPort : String
  guestAddress : String
  guestPort : String
  deriving DecidableEq

/-- The forward that a rule means to the emulator. -/
def Forward.read? (rule : String) : Option Forward := do
  let (protocol, rest) ← Text.cut? ':' rule.toList
  let (hostAddress, rest) ← Text.cut? ':' rest
  let (hostPort, rest) ← Text.cut? '-' rest
  let (guestAddress, guestPort) ← Text.cut? ':' rest
  return ⟨.ofList protocol, .ofList hostAddress, .ofList hostPort, .ofList guestAddress,
    .ofList guestPort⟩

theorem Forward.read?_of_cuts {rule : String} {protocol host port guest guestPort rest rest' rest''}
    (hprotocol : Text.cut? ':' rule.toList = some (protocol, rest))
    (hhost : Text.cut? ':' rest = some (host, rest'))
    (hport : Text.cut? '-' rest' = some (port, rest''))
    (hguest : Text.cut? ':' rest'' = some (guest, guestPort)) :
    read? rule = some ⟨.ofList protocol, .ofList host, .ofList port, .ofList guest,
      .ofList guestPort⟩ := by
  simp [read?, hprotocol, hhost, hport, hguest]

namespace Machine

open Argument

/-- The forward that a machine means: of its host address and port to the SSH daemon of the guest,
whatever address the guest has. -/
def forward (m : Machine) : Forward := ⟨"tcp", m.forwardHost, toString m.forwardPort, "", "22"⟩

/-! ### The rule -/

/-- What stands behind the host address in a rule. -/
def behindHost (m : Machine) : List Char := (toString m.forwardPort).toList ++ "-:22".toList

/-- The rule of a machine. -/
def rule (m : Machine) : String := m.forwardRule (toString m.forwardPort)

theorem cut?_rule (m : Machine) : Text.cut? ':' m.rule.toList =
    some ("tcp".toList, m.forwardHost.toList ++ ':' :: m.behindHost) := by
  have hguest : toString guestPort = "22" := by decide
  have htext : m.rule.toList =
      "tcp".toList ++ ':' :: (m.forwardHost.toList ++ ':' :: m.behindHost) := by
    rw [rule, forwardRule, hguest]
    simp [behindHost]
  rw [htext, Text.cut?_append_cons (by decide)]

theorem read?_rule {m : Machine} (h : ':' ∉ m.forwardHost.toList) :
    Forward.read? m.rule = some m.forward := by
  have hport : Text.cut? '-' m.behindHost = some ((toString m.forwardPort).toList, ":22".toList) :=
    Text.cut?_append_cons ((Numeral.isDecimal_toString m.forwardPort).not_mem rfl) _
  have hguest : Text.cut? ':' ":22".toList = some ([], "22".toList) := by decide
  rw [Forward.read?_of_cuts (cut?_rule m) (Text.cut?_append_cons h _) hport hguest]
  simp only [String.ofList_toList, forward, String.ofList_nil]

/-- A rule is always read, and what comes before the first colon of the host address is taken for
the whole of it. -/
theorem exists_read?_rule (m : Machine) :
    ∃ f, Forward.read? m.rule = some f ∧ f.protocol = "tcp" ∧
      f.hostAddress = String.ofList (m.forwardHost.toList.takeWhile (· != ':')) := by
  -- behind each separator of the rule the next one is still to come, whatever the address cuts off
  obtain ⟨rest, hhost, front, rfl⟩ :=
    Text.exists_cut?_append_cons ':' m.forwardHost.toList m.behindHost
  obtain ⟨rest, hport, front', rfl⟩ :=
    Text.exists_cut?_append_cons '-' (front ++ (toString m.forwardPort).toList) ":22".toList
  obtain ⟨rest, hguest, -⟩ := Text.exists_cut?_append_cons ':' front' "22".toList
  rw [List.append_assoc] at hport
  exact ⟨_, Forward.read?_of_cuts (cut?_rule m) hhost hport hguest,
    String.ofList_toList, rfl⟩

/-! ### The network option -/

/-- The options of a machine have one network with one forwarding rule.  The emulator reads a
forward off it, of which the protocol is the one meant and the host address is the one meant up to
its first colon; and this is the forward that the machine means just if there is no such colon. -/
theorem forward_read_iff {limit : DigitLimit} {m : Machine} {args : List Argument}
    (h : m.arguments limit = .ok args) :
    ∃ items rule f, ((args.map meaning).filter fun o => o.1 = "netdev") =
        [("netdev", .items items)] ∧
      (items.filter fun i => i.1 = "hostfwd") = [("hostfwd", rule)] ∧
      Forward.read? rule = some f ∧ f.protocol = "tcp" ∧
      f.hostAddress = String.ofList (m.forwardHost.toList.takeWhile (· != ':')) ∧
      (f = m.forward ↔ ':' ∉ m.forwardHost.toList) := by
  obtain ⟨f, hread, hprotocol, hhost⟩ := exists_read?_rule m
  refine ⟨m.networkItems (toString m.forwardPort), m.rule, f, ?_, rfl, hread, hprotocol, hhost, ?_⟩
  · rw [(meaning_of_arguments h).2.2, filter_netdev]
  · constructor
    · rintro rfl
      have htake : m.forwardHost.toList.takeWhile (· != ':') = m.forwardHost.toList := by
        rw [← String.toList_ofList (l := List.takeWhile _ _), ← hhost, forward]
      exact Text.takeWhile_eq_self_iff.1 htake
    · intro hcolon
      rw [read?_rule hcolon] at hread
      exact (Option.some.inj hread).symm

/-- A machine that is reached at a host address. -/
def sampleAt (host : String) : Machine :=
  { memory := 512, cores := 1, accelerator := .kvm, model := "q35",
    bootImage := ⟨"/images/alpine.qcow2"⟩, bootFormat := .qcow2,
    disks := [⟨⟨"/dev/sdb"⟩, .raw, true, false⟩], serialSocket := ⟨"/run/serial.sock"⟩,
    forwardHost := host, forwardPort := 2222 }

theorem forward_read_iff_sample :
    ∃ args, (sampleAt "my-host.local").arguments .usual = .ok args ∧
    ∃ items rule f, ((args.map meaning).filter fun o => o.1 = "netdev") =
        [("netdev", .items items)] ∧
      (items.filter fun i => i.1 = "hostfwd") = [("hostfwd", rule)] ∧
      Forward.read? rule = some f ∧ f = ⟨"tcp", "my-host.local", "2222", "", "22"⟩ := by
  have hwritable : (sampleAt "my-host.local").IsWritable := by
    refine isWritable_iff.2 ?_
    decide
  have hport : DigitLimit.usual.Admits 2222 := by decide
  obtain ⟨args, hargs⟩ := exists_arguments_of_isWritable hwritable hport
  obtain ⟨items, rule, f, hitems, hrule, hread, -, -, hf⟩ := forward_read_iff hargs
  refine ⟨args, hargs, items, rule, f, hitems, hrule, hread, ?_⟩
  rw [hf.2 (by decide)]
  decide

/-- The address `::1` is accepted, and the emulator reads no address and the port `:1:2222`. -/
theorem address_shifts_port :
    ∃ args rule f, (sampleAt "::1").arguments .usual = .ok args ∧
      ("netdev", Value.items [("type", "user"), ("id", "net0"), ("hostfwd", rule)]) ∈
        args.map meaning ∧
      Forward.read? rule = some f ∧ f = ⟨"tcp", "", ":1:2222", "", "22"⟩ ∧
      f ≠ (sampleAt "::1").forward := by
  have hwritable : (sampleAt "::1").IsWritable := by
    refine isWritable_iff.2 ?_
    decide
  have hport : DigitLimit.usual.Admits 2222 := by decide
  obtain ⟨args, hargs⟩ := exists_arguments_of_isWritable hwritable hport
  refine ⟨args, "tcp:::1:2222-:22", _, hargs, ?_, by decide, rfl, by decide⟩
  rw [(meaning_of_arguments hargs).2.2]
  decide

end Machine

end GuestLink
