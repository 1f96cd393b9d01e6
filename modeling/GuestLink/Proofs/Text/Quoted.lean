import GuestLink.Text.Line
import GuestLink.Text.Quoted
import Mathlib.Algebra.Group.Nat.Defs
import Mathlib.Data.List.Basic

/-!
# Quoted literals read back

A literal is one line of printable characters (`isPrintable_of_mem_literal`), and what was quoted
can be read off it, whichever quote encloses it (`readLiteral?_literal`).

As a text may hold surrogates, the reader reads points.
-/

namespace GuestLink.Text

/-! ### What is not printable -/

/-- The control characters. -/
def isControl (c : Char) : Bool := c.toNat < 0x20 || (0x7F ≤ c.toNat && c.toNat < 0xA0)

theorem isPrintable_of_isControl {c : Char} (h : isControl c = true) : isPrintable c = false := by
  have htable : ∀ n < 0xA0, 0x7F ≤ n →
      inRanges unprintableRanges n 0 unprintableRanges.size = true := by decide +kernel
  simp only [isControl, Bool.or_eq_true, Bool.and_eq_true, decide_eq_true_eq] at h
  unfold isPrintable
  split
  · simp only [decide_eq_false_iff_not]
    omega
  · rw [htable c.toNat (by omega) (by omega)]
    rfl

theorem isPrintable_of_isLineBreak {c : Char} (h : isLineBreak c = true) :
    isPrintable c = false := by
  have htable : ∀ n ∈ [0x2028, 0x2029],
      inRanges unprintableRanges n 0 unprintableRanges.size = true := by decide +kernel
  simp only [isLineBreak, Bool.or_eq_true, Bool.and_eq_true, decide_eq_true_eq, beq_iff_eq] at h
  by_cases hc : c.toNat < 0xA0
  · apply isPrintable_of_isControl
    simp only [isControl, Bool.or_eq_true, Bool.and_eq_true, decide_eq_true_eq]
    omega
  · unfold isPrintable
    rw [if_neg (by omega), htable c.toNat (by simp; omega)]
    rfl

theorem not_isControl_of_isPrintable {c : Char} (h : isPrintable c = true) :
    isControl c = false := by
  by_contra hc
  rw [isPrintable_of_isControl (by simpa using hc)] at h
  cases h

theorem not_isLineBreak_of_isPrintable {c : Char} (h : isPrintable c = true) :
    isLineBreak c = false := by
  by_contra hc
  rw [isPrintable_of_isLineBreak (by simpa using hc)] at h
  cases h

/-! ### Hexadecimal digits -/

/-- The number that a lower-case hexadecimal digit stands for. -/
def hexValue (c : Char) : Nat := if c.isDigit then c.toNat - 48 else c.toNat - 87

/-- The number that hexadecimal digits write. -/
def readHex (cs : List Char) : Nat := cs.foldl (fun n c => 16 * n + hexValue c) 0

theorem hexValue_hexDigit : ∀ d < 16, hexValue (hexDigit d) = d := by decide

theorem isPrintable_hexDigit : ∀ d < 16, isPrintable (hexDigit d) = true := by decide +kernel

theorem length_hexDigits (n width : Nat) : (hexDigits n width).length = width := by
  induction width generalizing n with
  | zero => rfl
  | succ width ih => rw [hexDigits, List.length_append, ih, List.length_singleton]

theorem readHex_hexDigits (n width : Nat) : readHex (hexDigits n width) = n % 16 ^ width := by
  induction width generalizing n with
  | zero => simp [hexDigits, readHex, Nat.mod_one]
  | succ width ih =>
    have hlast := hexValue_hexDigit (n % 16) (Nat.mod_lt _ (by decide))
    have hfront : (hexDigits (n / 16) width).foldl (fun n c => 16 * n + hexValue c) 0 =
        n / 16 % 16 ^ width := ih (n / 16)
    rw [readHex, hexDigits, List.foldl_append, hfront, List.foldl_cons, List.foldl_nil, hlast,
      Nat.pow_succ', Nat.mod_mul]
    omega

theorem isPrintable_of_mem_hexDigits {n width : Nat} :
    ∀ c ∈ hexDigits n width, isPrintable c = true := by
  induction width generalizing n with
  | zero => simp [hexDigits]
  | succ width ih =>
    intro c hc
    rw [hexDigits, List.mem_append, List.mem_singleton] at hc
    rcases hc with hc | rfl
    · exact ih c hc
    · exact isPrintable_hexDigit _ (Nat.mod_lt _ (by decide))

/-! ### Points -/

namespace Point

/-- The number of a point. -/
def number : Point → Nat
  | .char c => c.toNat
  | .surrogate place => 0xD800 + place

/-- The point of a number. -/
def ofNumber (n : Nat) : Point :=
  if h : 0xD800 ≤ n ∧ n < 0xE000 then .surrogate ⟨n - 0xD800, by omega⟩ else .char (Char.ofNat n)

theorem toNat_isValid (c : Char) : c.toNat < 0xD800 ∨ (0xDFFF < c.toNat ∧ c.toNat < 0x110000) :=
  c.valid

theorem ofNumber_number (p : Point) : ofNumber p.number = p := by
  cases p with
  | char c =>
    have hc := toNat_isValid c
    rw [number, ofNumber, dif_neg (by omega), Char.ofNat_toNat]
  | surrogate place =>
    have hplace : 0xD800 ≤ 0xD800 + place.val ∧ 0xD800 + place.val < 0xE000 := by omega
    rw [number, ofNumber, dif_pos hplace]
    simp

/-! ### Reading -/

/-- The point whose number is written at the head of `cs` in so many digits, and what follows. -/
def readCode (width : Nat) (cs : List Char) : Point × List Char :=
  (ofNumber (readHex (cs.take width)), cs.drop width)

/-- The point that an escape stands for: of the character behind the backslash and what follows. -/
def readEscape (c : Char) (rest : List Char) : Point × List Char :=
  if c = 'x' then readCode 2 rest
  else if c = 'u' then readCode 4 rest
  else if c = 'U' then readCode 8 rest
  else if c = 'n' then (.char '\n', rest)
  else if c = 'r' then (.char '\r', rest)
  else if c = 't' then (.char '\t', rest)
  else (.char c, rest)

/-- The first point that is written, and what follows. -/
def read? : List Char → Option (Point × List Char)
  | [] => none
  | ['\\'] => none
  | '\\' :: c :: rest => some (readEscape c rest)
  | c :: rest => some (.char c, rest)

theorem readCode_hexDigits {p : Point} {width : Nat} (h : p.number < 16 ^ width)
    (rest : List Char) : readCode width (hexDigits p.number width ++ rest) = (p, rest) := by
  have hlength := length_hexDigits p.number width
  rw [readCode, List.take_left' hlength, List.drop_left' hlength, readHex_hexDigits,
    Nat.mod_eq_of_lt h, ofNumber_number]

theorem read?_escapeCode (c : Char) (rest : List Char) :
    read? (escapeCode c ++ rest) = some (.char c, rest) := by
  have hread {width : Nat} (h : c.toNat < 16 ^ width) :
      readCode width (hexDigits c.toNat width ++ rest) = (.char c, rest) :=
    readCode_hexDigits (p := .char c) h rest
  have hc := toNat_isValid c
  unfold escapeCode
  split_ifs with h h'
  · exact congrArg some (hread (by omega))
  · exact congrArg some (hread (by omega))
  · exact congrArg some (hread (by omega))

theorem read?_of_ne {c : Char} (h : c ≠ '\\') (rest : List Char) :
    read? (c :: rest) = some (.char c, rest) := by
  unfold read?
  split <;> simp_all

/-- Reading a point undoes writing it, whatever follows. -/
theorem read?_escape {quote : Char} (hquote : quote = '\'' ∨ quote = '"') (p : Point)
    (rest : List Char) : read? (p.escape quote ++ rest) = some (p, rest) := by
  cases p with
  | surrogate place =>
    have hplace : (surrogate place).number < 16 ^ 4 := by
      simp only [number]
      omega
    exact congrArg some (readCode_hexDigits hplace rest)
  | char c =>
    rw [escape, escapeChar]
    split_ifs with hself hfeed hreturn htab hprint
    · rcases hself with rfl | rfl
      · rcases hquote with rfl | rfl <;> rfl
      · rfl
    · subst hfeed
      rfl
    · subst hreturn
      rfl
    · subst htab
      rfl
    · exact read?_of_ne (fun e => hself (.inr e)) rest
    · exact read?_escapeCode c rest

theorem length_of_read? {cs rest : List Char} {p : Point} (h : read? cs = some (p, rest)) :
    rest.length < cs.length := by
  have hcode (width : Nat) (cs : List Char) : (readCode width cs).2.length ≤ cs.length := by
    simp [readCode]
  have hescape (c : Char) (cs : List Char) : (readEscape c cs).2.length ≤ cs.length := by
    unfold readEscape
    split_ifs
    · exact hcode 2 cs
    · exact hcode 4 cs
    · exact hcode 8 cs
    all_goals exact Nat.le_refl _
  unfold read? at h
  split at h
  · cases h
  · cases h
  · rename_i c cs
    have hrest : rest.length ≤ cs.length := by
      simpa only [Option.some.inj h] using hescape c cs
    simp only [List.length_cons]
    omega
  · cases h
    simp

/-- The points that are written before the quote, if that closes the text. -/
def readInside? (quote : Char) (cs : List Char) : Option (List Point) :=
  if cs.head? = some quote then
    if cs = [quote] then some [] else none
  else
    match _h : read? cs with
    | none => none
    | some (p, rest) => (readInside? quote rest).map (p :: ·)
termination_by cs.length
decreasing_by exact length_of_read? _h

/-- The points of a literal, whichever quote encloses it. -/
def readLiteral? : List Char → Option (List Point)
  | [] => none
  | quote :: cs => if quote = '\'' ∨ quote = '"' then readInside? quote cs else none

theorem quoteFor_eq (ps : List Point) : quoteFor ps = '\'' ∨ quoteFor ps = '"' := by
  unfold quoteFor
  split_ifs
  · exact .inr rfl
  · exact .inl rfl

/-! ### What is written of a point -/

theorem exists_escapeCode {c : Char} :
    ∃ cs, escapeCode c = '\\' :: cs ∧ ∀ d ∈ cs, isPrintable d = true := by
  have hcode {mark : Char} (hmark : isPrintable mark = true) (width : Nat) :
      ∀ d ∈ mark :: hexDigits c.toNat width, isPrintable d = true := by
    rw [List.forall_mem_cons]
    exact ⟨hmark, isPrintable_of_mem_hexDigits⟩
  unfold escapeCode
  split_ifs
  · exact ⟨_, rfl, hcode (by decide) 2⟩
  · exact ⟨_, rfl, hcode (by decide) 4⟩
  · exact ⟨_, rfl, hcode (by decide) 8⟩

/-- A point is written as a printable character other than the quote, or as a backslash with
printable characters behind it. -/
theorem escape_cases {quote : Char} (hquote : quote = '\'' ∨ quote = '"') (p : Point) :
    (∃ c, p.escape quote = [c] ∧ c ≠ quote ∧ isPrintable c = true) ∨
      ∃ cs, p.escape quote = '\\' :: cs ∧ ∀ c ∈ cs, isPrintable c = true := by
  have hself {c : Char} (h : c = quote ∨ c = '\\') : isPrintable c = true := by
    obtain rfl | rfl := h
    · obtain rfl | rfl := hquote <;> decide
    · decide
  cases p with
  | surrogate place =>
    refine .inr ⟨_, rfl, ?_⟩
    rw [List.forall_mem_cons]
    exact ⟨by decide, isPrintable_of_mem_hexDigits⟩
  | char c =>
    rw [escape, escapeChar]
    split_ifs with h _ _ _ hc
    · exact .inr ⟨[c], rfl, List.forall_mem_singleton.2 (hself h)⟩
    · exact .inr ⟨['n'], rfl, List.forall_mem_singleton.2 (by decide)⟩
    · exact .inr ⟨['r'], rfl, List.forall_mem_singleton.2 (by decide)⟩
    · exact .inr ⟨['t'], rfl, List.forall_mem_singleton.2 (by decide)⟩
    · exact .inl ⟨c, rfl, fun e => h (.inl e), hc⟩
    · exact .inr exists_escapeCode

/-- A literal is one line of printable characters. -/
theorem isPrintable_of_mem_literal (ps : List Point) :
    ∀ c ∈ literal ps, isPrintable c = true := by
  have hquote : isPrintable (quoteFor ps) = true := by
    rcases quoteFor_eq ps with h | h <;> rw [h] <;> decide
  have hslash : isPrintable '\\' = true := by decide
  intro c hc
  simp only [literal, List.cons_append, List.mem_cons, List.mem_append, List.mem_flatMap,
    List.not_mem_nil, or_false] at hc
  obtain rfl | ⟨p, -, hp⟩ | rfl := hc
  · exact hquote
  · obtain ⟨d, hd, -, hprint⟩ | ⟨cs, hcs, hprint⟩ := escape_cases (quoteFor_eq ps) p
    · rw [hd, List.mem_singleton] at hp
      rwa [hp]
    · rw [hcs, List.mem_cons] at hp
      obtain rfl | hp := hp
      · exact hslash
      · exact hprint c hp
  · exact hquote

/-! ### Literals -/

/-- No point is mistaken for the closing quote. -/
theorem head?_escape_ne {quote : Char} (hquote : quote = '\'' ∨ quote = '"') (p : Point)
    (rest : List Char) : (p.escape quote ++ rest).head? ≠ some quote := by
  obtain ⟨c, hc, hne, -⟩ | ⟨cs, hcs, -⟩ := escape_cases hquote p
  · rw [hc]
    simpa using hne
  · rw [hcs]
    rcases hquote with rfl | rfl <;> simp

theorem readInside?_flatMap {quote : Char} (hquote : quote = '\'' ∨ quote = '"')
    (ps : List Point) : readInside? quote (ps.flatMap (escape quote) ++ [quote]) = some ps := by
  induction ps with
  | nil => rw [readInside?, if_pos (by rfl), if_pos (by rfl)]
  | cons p ps ih =>
    have hread := read?_escape hquote p (ps.flatMap (escape quote) ++ [quote])
    rw [List.flatMap_cons, List.append_assoc, readInside?, if_neg (head?_escape_ne hquote p _)]
    split
    · rename_i h
      rw [hread] at h
      cases h
    · rename_i h
      rw [hread] at h
      cases h
      rw [ih]
      rfl

/-- What was quoted can be read off the literal. -/
theorem readLiteral?_literal (ps : List Point) : readLiteral? (literal ps) = some ps := by
  rw [literal, List.cons_append, readLiteral?, if_pos (quoteFor_eq ps)]
  exact readInside?_flatMap (quoteFor_eq ps) ps

end Point

end GuestLink.Text
