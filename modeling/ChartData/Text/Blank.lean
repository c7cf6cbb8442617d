/-!
# Blanks

Text that comes from people is trimmed before it is read: the name of a
granularity, a bound of a date range, a number written as a string. What is
trimmed are the characters with the Unicode property `White_Space`, a larger
class than the blanks of ASCII – a no-break space or an ideographic space at
the end of a date is as invisible as a plain one.

The class is small and closed, so it is written out.
-/

namespace ChartData

/-- **Blank characters**: those with the Unicode property `White_Space`. -/
def isBlank (c : Char) : Bool :=
  let n := c.toNat
  (9 ≤ n && n ≤ 13) || n == 32 || n == 0x85 || n == 0xA0 || n == 0x1680 ||
    (0x2000 ≤ n && n ≤ 0x200A) || n == 0x2028 || n == 0x2029 || n == 0x202F ||
    n == 0x205F || n == 0x3000

/-- A digit is no blank. -/
theorem isBlank_of_isDigit {c : Char} (h : c.isDigit = true) : isBlank c = false := by
  have hnat : 48 ≤ c.toNat ∧ c.toNat ≤ 57 := by
    simpa [Char.isDigit, UInt32.le_iff_toNat_le] using h
  refine Bool.eq_false_iff.mpr ?_
  simp only [isBlank, ne_eq, Bool.or_eq_true, Bool.and_eq_true, decide_eq_true_eq, beq_iff_eq]
  omega

/-- The characters without the blanks at either end. -/
def trimmed (cs : List Char) : List Char :=
  ((cs.dropWhile isBlank).reverse.dropWhile isBlank).reverse

/-- **Blanks around a text are trimmed off**, whatever the text. -/
theorem trimmed_surrounded {before after : List Char} (hbefore : ∀ c ∈ before, isBlank c = true)
    (hafter : ∀ c ∈ after, isBlank c = true) (cs : List Char) :
    trimmed (before ++ cs ++ after) = trimmed cs := by
  unfold trimmed
  rw [List.append_assoc, List.dropWhile_append_of_pos hbefore, List.dropWhile_append]
  split
  case isTrue hnone =>
    have hrest : after.dropWhile isBlank = [] := by
      rw [← List.append_nil after, List.dropWhile_append_of_pos hafter, List.dropWhile_nil]
    rw [hrest, List.isEmpty_iff.mp hnone]
  case isFalse =>
    have hback : ∀ c ∈ after.reverse, isBlank c = true := fun c hc =>
      hafter c (List.mem_reverse.mp hc)
    rw [List.reverse_append, List.dropWhile_append_of_pos hback]

theorem forall_isBlank_of_dropWhile {cs : List Char}
    (h : ∀ c ∈ cs.dropWhile isBlank, isBlank c = true) : ∀ c ∈ cs, isBlank c = true := by
  rw [← List.takeWhile_append_dropWhile (p := isBlank) (l := cs), List.forall_mem_append]
  exact ⟨List.all_eq_true.mp List.all_takeWhile, h⟩

/-- **Nothing is left of a text** if it consists of blanks, and only then. -/
theorem trimmed_eq_nil_iff {cs : List Char} : trimmed cs = [] ↔ ∀ c ∈ cs, isBlank c = true := by
  constructor
  · intro h
    unfold trimmed at h
    rw [List.reverse_eq_nil_iff] at h
    refine forall_isBlank_of_dropWhile fun c hc => ?_
    refine forall_isBlank_of_dropWhile ?_ c (List.mem_reverse.mpr hc)
    rw [h]
    exact nofun
  · intro h
    have hnone := trimmed_surrounded h (List.forall_mem_nil (isBlank · = true)) []
    rwa [List.append_nil, List.append_nil] at hnone

/-- Trimming text that neither starts nor ends with a blank leaves it alone. -/
theorem trimmed_of_ends {cs : List Char} (hd : ∀ c ∈ cs.head?, isBlank c = false)
    (hl : ∀ c ∈ cs.getLast?, isBlank c = false) : trimmed cs = cs := by
  have front : cs.dropWhile isBlank = cs := by
    cases cs with
    | nil => rfl
    | cons c r => simp [List.dropWhile, hd c (by simp)]
  have back : cs.reverse.dropWhile isBlank = cs.reverse := by
    cases h : cs.reverse with
    | nil => rfl
    | cons c r =>
      have : cs.getLast? = some c := by rw [← List.head?_reverse, h]; rfl
      simp [List.dropWhile, hl c (by simp [this])]
  rw [trimmed, front, back, List.reverse_reverse]

/-- Trimming leaves text alone that starts and ends with a word without blanks. -/
theorem trimmed_append {first last : List Char} (between : List Char) (hfirst : first ≠ [])
    (hlast : last ≠ []) (hf : ∀ c ∈ first, isBlank c = false)
    (hl : ∀ c ∈ last, isBlank c = false) :
    trimmed (first ++ (between ++ last)) = first ++ (between ++ last) := by
  apply trimmed_of_ends
  · intro c hc
    rw [List.head?_append, Option.or_of_isSome (List.isSome_head?.2 hfirst)] at hc
    exact hf c (List.mem_of_mem_head? hc)
  · intro c hc
    rw [← List.append_assoc, List.getLast?_append,
      Option.or_of_isSome (List.getLast?_isSome.2 hlast)] at hc
    exact hl c (List.mem_of_mem_getLast? hc)

end ChartData
