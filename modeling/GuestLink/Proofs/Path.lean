import GuestLink.Path
import GuestLink.Proofs.Text.Split

/-!
# The normal form of paths

A text is in normal form if it consists of at most two slashes and of components with one slash
between them, none of which is empty or a single point.  `normalize` leaves such a text as it is,
so that the path of a path's text is the path itself (`ofText_text_ofText`).
-/

namespace GuestLink.Path

variable {cs part : List Char} {parts : List (List Char)}

/-- Whether a component names something. -/
structure IsName (part : List Char) : Prop where
  ne_nil : part ≠ []
  ne_point : part ≠ ['.']
  slash_not_mem : '/' ∉ part

theorem isName_of_mem_components (h : part ∈ components cs) : IsName part := by
  simp only [components, List.mem_filter, Bool.and_eq_true, bne_iff_ne] at h
  obtain ⟨hpart, hnil, hpoint⟩ := h
  exact ⟨hnil, hpoint, Text.not_mem_of_mem_splitAt hpart⟩

/-! ### Components -/

theorem components_slash (cs : List Char) : components ('/' :: cs) = components cs := by
  have h : Text.splitAt '/' ([] ++ '/' :: cs) = [] :: Text.splitAt '/' cs :=
    Text.splitAt_append_cons List.not_mem_nil cs
  rw [List.nil_append] at h
  simp [components, h]

theorem components_replicate_append (n : Nat) (cs : List Char) :
    components (List.replicate n '/' ++ cs) = components cs := by
  induction n with
  | zero => simp
  | succ n ih => rw [List.replicate_succ, List.cons_append, components_slash, ih]

theorem components_intercalate (h : ∀ p ∈ parts, IsName p) :
    components (['/'].intercalate parts) = parts := by
  by_cases hp : parts = []
  · subst hp
    rw [List.intercalate_nil, components, Text.splitAt_of_not_mem List.not_mem_nil]
    rfl
  · rw [components, Text.splitAt_intercalate hp fun p hm => (h p hm).slash_not_mem,
      List.filter_eq_self]
    intro p hm
    simp [(h p hm).ne_nil, (h p hm).ne_point]

/-! ### Roots -/

theorem exists_root_eq (cs : List Char) : ∃ n ≤ 2, root cs = List.replicate n '/' := by
  unfold root
  split
  · exact ⟨0, by omega, rfl⟩
  · exact ⟨2, by omega, rfl⟩
  · exact ⟨1, by omega, rfl⟩

theorem root_replicate_append {n : Nat} (hn : n ≤ 2) (h : ∀ c ∈ cs.head?, c ≠ '/') :
    root (List.replicate n '/' ++ cs) = List.replicate n '/' := by
  have hcs : cs.takeWhile (· == '/') = [] := by
    cases cs with
    | nil => rfl
    | cons c cs => simp [h c rfl]
  have htake : (List.replicate n '/' ++ cs).takeWhile (· == '/') = List.replicate n '/' := by
    rw [List.takeWhile_append_of_pos (by simp), hcs, List.append_nil]
  rw [root, htake, List.length_replicate]
  rcases n with _ | _ | _ | n
  · rfl
  · rfl
  · rfl
  · omega

theorem head?_intercalate_ne_slash (h : ∀ p ∈ parts, IsName p) :
    ∀ c ∈ (['/'].intercalate parts).head?, c ≠ '/' := by
  rcases parts with _ | ⟨p, parts⟩
  · simp
  · have hp := h p List.mem_cons_self
    obtain ⟨c, p', rfl⟩ := List.exists_cons_of_ne_nil hp.ne_nil
    have hc : c ≠ '/' := by
      rintro rfl
      exact hp.slash_not_mem List.mem_cons_self
    cases parts <;> simp [hc]

/-! ### The normal form -/

theorem normalize_ne_nil (cs : List Char) : normalize cs ≠ [] := by
  unfold normalize
  split
  · simp
  · assumption

theorem normalize_eq_or (cs : List Char) : normalize cs = ['.'] ∨
    normalize cs = root cs ++ ['/'].intercalate (components cs) := by
  unfold normalize
  split
  · exact .inl rfl
  · exact .inr rfl

theorem normalize_of_ne_nil (h : root cs ++ ['/'].intercalate (components cs) ≠ []) :
    normalize cs = root cs ++ ['/'].intercalate (components cs) := by
  unfold normalize
  split
  · contradiction
  · rfl

theorem normalize_point : normalize ['.'] = ['.'] := by
  have hcomponents : components ['.'] = [] := by
    rw [components, Text.splitAt_of_not_mem (by decide)]
    rfl
  rw [normalize, hcomponents]
  rfl

/-- What is in normal form stays as it is. -/
theorem normalize_normalize (cs : List Char) : normalize (normalize cs) = normalize cs := by
  rcases normalize_eq_or cs with h | h
  · rw [h, normalize_point]
  · have hnames : ∀ p ∈ components cs, IsName p := fun p => isName_of_mem_components
    obtain ⟨n, hn, hroot⟩ := exists_root_eq cs
    rw [hroot] at h
    have hroot' : root (normalize cs) = List.replicate n '/' := by
      rw [h, root_replicate_append hn (head?_intercalate_ne_slash hnames)]
    have hcomponents : components (normalize cs) = components cs := by
      rw [h, components_replicate_append, components_intercalate hnames]
    have hself : root (normalize cs) ++ ['/'].intercalate (components (normalize cs)) =
        normalize cs := by
      rw [hroot', hcomponents, h]
    rw [normalize_of_ne_nil (hself.trans_ne (normalize_ne_nil cs)), hself]

theorem ofText_text_ofText (s : String) : ofText (ofText s).text = ofText s := by
  simp [ofText, normalize_normalize]

end GuestLink.Path
