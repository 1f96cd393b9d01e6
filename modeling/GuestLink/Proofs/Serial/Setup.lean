import GuestLink.Identity
import GuestLink.Proofs.Base64
import GuestLink.Proofs.Shell.Word
import GuestLink.Proofs.Text.Blank
import GuestLink.Proofs.Text.Utf8.Strict
import GuestLink.Serial.Setup

/-!
# The words of the setup line

A key is quoted twice on its way to the guest, once as a word of the script that accepts it and once
more inside the script, which is a word of the line that is sent.  Splitting the line and then the
script gives back the key whatever it holds, between words that do not depend on it
(`setupCommand_carries`).
-/

namespace GuestLink.Serial

/-- The words of a line that runs `script`. -/
def setupWords (script : List Char) : List (List Char) :=
  ["set", "-ex;", "do_setup", "()", "\x7b", "sh", "-c"].map String.toList ++
    (script ++ [';']) ::
      ["echo", "SERIAL STATUS: $?;", "\x7d;", "do_setup"].map String.toList

/-- The words of a script that accepts `key`. -/
def scriptWords (key : List Char) : List (List Char) :=
  ["set", "-ex;", "ifconfig", "eth0", "up;", "ifconfig", "lo", "up;", "udhcpc;", "mkdir", "-p",
      "~/.ssh;", "echo"].map String.toList ++
    key ::
      [">", "~/.ssh/authorized_keys;", "rc-update", "add", "sshd;", "service", "sshd",
        "start"].map String.toList

/-! ### Splitting -/

section

open Shell

theorem split_setupLine (script : List Char) :
    split (setupLine script) = some (setupWords script) := by
  have hfront : ("set -ex; do_setup () \x7b sh -c ").toList.foldl Splitter.step ⟨.bare, none, []⟩ =
      ⟨.bare, none, (["set", "-ex;", "do_setup", "()", "\x7b", "sh", "-c"].map
        String.toList).reverse⟩ := by cbv
  have hback (w : List Char) (ws : List (List Char)) :
      ("; echo \"SERIAL STATUS: $?\"; \x7d; do_setup\n").toList.foldl Splitter.step
        ⟨.bare, some w, ws⟩ =
      ⟨.bare, none, (["echo", "SERIAL STATUS: $?;", "\x7d;", "do_setup"].map
        String.toList).reverse ++ (w.reverse ++ [';']) :: ws⟩ := by
    rw [← List.reverse_cons]
    cbv
  unfold setupLine setupWords
  simp only [split, List.foldl_append, hfront, foldl_step_quote, hback, if_true,
    Splitter.finish, List.reverse_append, List.reverse_cons, List.reverse_reverse,
    Option.getD_none, List.append_nil, List.append_assoc, List.singleton_append]

theorem split_setupScript (key : List Char) :
    split (setupScript key) = some (scriptWords key) := by
  have hfront : ("set -ex; ifconfig eth0 up; ifconfig lo up; udhcpc; mkdir -p ~/.ssh; echo "
        ).toList.foldl Splitter.step ⟨.bare, none, []⟩ =
      ⟨.bare, none, (["set", "-ex;", "ifconfig", "eth0", "up;", "ifconfig", "lo", "up;", "udhcpc;",
        "mkdir", "-p", "~/.ssh;", "echo"].map String.toList).reverse⟩ := by cbv
  have hback (w : List Char) (ws : List (List Char)) :
      (" > ~/.ssh/authorized_keys; rc-update add sshd; service sshd start").toList.foldl
        Splitter.step ⟨.bare, some w, ws⟩ =
      ⟨.bare, some "start".toList.reverse, ([">", "~/.ssh/authorized_keys;", "rc-update", "add",
        "sshd;", "service", "sshd"].map String.toList).reverse ++ w.reverse :: ws⟩ := by cbv
  unfold setupScript scriptWords
  simp only [split, List.foldl_append, hfront, foldl_step_quote, hback, if_true,
    Splitter.finish, List.reverse_cons, List.reverse_reverse, Option.getD_none, List.append_nil,
    List.append_assoc, List.map_cons, List.map_nil, List.reverse_nil, List.nil_append,
    List.cons_append]

/-- The line breaks of a setup line are those of the key and the one at its end. -/
theorem count_setupLine (key : List Char) :
    (setupLine (setupScript key)).count '\n' = key.count '\n' + 1 := by
  have hline : ("set -ex; do_setup () \x7b sh -c ").toList.count '\n' = 0 := by cbv
  have hend : ("; echo \"SERIAL STATUS: $?\"; \x7d; do_setup\n").toList.count '\n' = 1 := by cbv
  have hscript : ("set -ex; ifconfig eth0 up; ifconfig lo up; udhcpc; mkdir -p ~/.ssh; echo "
      ).toList.count '\n' = 0 := by cbv
  have hrest : (" > ~/.ssh/authorized_keys; rc-update add sshd; service sshd start").toList.count
      '\n' = 0 := by cbv
  unfold setupLine setupScript
  simp only [List.count_append, count_quote (d := '\n') (by decide) (by decide), hline, hend,
    hscript, hrest, Nat.zero_add, Nat.add_zero]

theorem getLast?_setupLine (script : List Char) : (setupLine script).getLast? = some '\n' := by
  have hback : ("; echo \"SERIAL STATUS: $?\"; \x7d; do_setup\n").toList.getLast? = some '\n' := by
    cbv
  unfold setupLine
  simp only [List.getLast?_append, hback, Option.some_or]

end

/-! ### Generated keys -/

/-- What the guest is given of a generated key: the name of its type and its encoded public half,
with a blank between them when neither is empty. -/
def keyText (pair : KeyPair) : List Char :=
  if pair.blob = [] then pair.type.toList
  else if pair.type.toList = [] then Base64.encode pair.blob
  else pair.type.toList ++ ' ' :: Base64.encode pair.blob

theorem authorizedLine_eq (type : String) (blob : Bytes) :
    Identity.authorizedLine type blob =
      Utf8.encode (type.toList ++ ' ' :: Base64.encode blob ++ ['\n']) := by
  simp only [Identity.authorizedLine, utf8, Utf8.encode, ← List.flatMap_append, List.append_assoc]
  rfl

theorem trim_authorizedText {pair : KeyPair} (h : ∀ c ∈ pair.type.toList, ¬ Text.isBlank c) :
    Text.trim (pair.type.toList ++ ' ' :: Base64.encode pair.blob ++ ['\n']) = keyText pair := by
  have hdigits : ∀ c ∈ Base64.encode pair.blob, ¬ Text.isBlank c := fun c hc =>
    (Base64.isGraphic_of_mem_encode hc).2
  have hnewline : ∀ c ∈ ['\n'], Text.isBlank c := List.forall_mem_singleton.2 rfl
  have hspace : ∀ c ∈ [' '], Text.isBlank c := List.forall_mem_singleton.2 rfl
  unfold keyText
  split_ifs with hblob htype
  · rw [hblob, Base64.encode, List.append_assoc]
    exact Text.trim_append [] (by simp) (List.forall_mem_cons.2 ⟨rfl, hnewline⟩)
      (fun c hc => h c (List.mem_of_mem_head? hc)) fun c hc => h c (List.mem_of_mem_getLast? hc)
  · rw [htype]
    exact Text.trim_append [' '] hspace hnewline
      (fun c hc => hdigits c (List.mem_of_mem_head? hc))
      fun c hc => hdigits c (List.mem_of_mem_getLast? hc)
  · refine Text.trim_append [] (by simp) hnewline (fun c hc => ?_) fun c hc => ?_
    · rw [List.head?_append_of_ne_nil _ htype] at hc
      exact h c (List.mem_of_mem_head? hc)
    · rw [List.getLast?_append_of_ne_nil _ (List.cons_ne_nil _ _), List.getLast?_cons_of_ne_nil
        (mt Base64.encode_eq_nil_iff.1 hblob)] at hc
      exact hdigits c (List.mem_of_mem_getLast? hc)

/-! ### The line that is sent -/

theorem setupCommand_eq_ok_iff {key : Bytes} {line : List Char} : setupCommand key = .ok line ↔
    ∃ text, key = Utf8.encode text ∧ line = setupLine (setupScript (Text.trim text)) := by
  rw [setupCommand, Except.map_eq_ok_iff]
  simp only [Utf8.decode_eq_ok_iff, eq_comm (b := line)]

/-- What a key generator promises of the keys that it makes: each has a type with a name of one word,
and a public half, which can be asked for. -/
structure IsGenerated (pair : KeyPair) : Prop where
  type_ne_empty : pair.type ≠ ""
  type_isWord : ∀ c ∈ pair.type.toList, ¬ Text.isBlank c
  blob_ne_nil : pair.blob ≠ []
  encodes : pair.encodeFault = none

theorem IsGenerated.keyText_eq {pair : KeyPair} (h : IsGenerated pair) :
    keyText pair = pair.type.toList ++ ' ' :: Base64.encode pair.blob := by
  rw [keyText, if_neg h.blob_ne_nil, if_neg (mt String.toList_eq_nil_iff.1 h.type_ne_empty)]

/-- The setup line carries any key as one word of one word, and nothing of it elsewhere; bytes that
are no text make no line.  The word is the whole text of a key that was generated. -/
theorem setupCommand_carries :
    (∀ text, ∃ line script, setupCommand (Utf8.encode text) = .ok line ∧
      Shell.split line = some (setupWords script) ∧
      Shell.split script = some (scriptWords (Text.trim text)) ∧
      line.count '\n' = (Text.trim text).count '\n' + 1 ∧ line.getLast? = some '\n') ∧
    (∀ key, (∃ line, setupCommand key = .ok line) ↔ ∃ text, key = Utf8.encode text) ∧
    (∀ bits pair, pair.encodeFault = none → (∀ c ∈ pair.type.toList, ¬ Text.isBlank c) →
      ∃ text, Identity.make bits (.ok pair) = .ok ⟨pair, Utf8.encode text⟩ ∧
        Text.trim text = keyText pair ∧
        (IsGenerated pair →
          Text.trim text = pair.type.toList ++ ' ' :: Base64.encode pair.blob)) ∧
    ∀ blob, Base64.decode (Base64.encode blob) = .ok blob := by
  refine ⟨fun text => ⟨_, _, setupCommand_eq_ok_iff.2 ⟨text, rfl, rfl⟩, split_setupLine _,
    split_setupScript _, count_setupLine _, getLast?_setupLine _⟩, fun key => ?_,
    fun bits pair hfault htype => ?_, Base64.decode_encode⟩
  · constructor
    · rintro ⟨line, h⟩
      obtain ⟨text, rfl, -⟩ := setupCommand_eq_ok_iff.1 h
      exact ⟨text, rfl⟩
    · rintro ⟨text, rfl⟩
      exact ⟨_, setupCommand_eq_ok_iff.2 ⟨text, rfl, rfl⟩⟩
  · have htrim := trim_authorizedText htype
    refine ⟨_, ?_, htrim, fun h => htrim.trans h.keyText_eq⟩
    rw [Identity.make, hfault, ← authorizedLine_eq]

theorem setupCommand_carries_sample :
    let pair : KeyPair := { type := "ssh-rsa", blob := [0, 0, 0, 7], fingerprint := "SHA256:stub" }
    IsGenerated pair ∧
      ∃ text, Identity.make 4096 (.ok pair) = .ok ⟨pair, Utf8.encode text⟩ ∧
        Text.trim text = "ssh-rsa AAAABw==".toList := by
  intro pair
  have hname : pair.type.toList.all (fun c => !Text.isBlank c) = true := by decide
  have htype : ∀ c ∈ pair.type.toList, ¬ Text.isBlank c := fun c hc => by
    simpa using List.all_eq_true.1 hname c hc
  have hmade : IsGenerated pair := ⟨by decide, htype, by decide, rfl⟩
  obtain ⟨text, hmake, -, htext⟩ := setupCommand_carries.2.2.1 4096 pair rfl htype
  refine ⟨hmade, text, hmake, ?_⟩
  rw [htext hmade]
  decide

end GuestLink.Serial
