import ChartData.Proofs.CheckedTexts
import Mathlib.Data.List.Find

/-!
# Fragments are looked at word by word

The last thing that is looked at in a fragment is its words. The check finds them by cutting the
text, in small letters, at everything that is no letter, no digit and no underscore. Without the
cutting, a word is a longest run of such characters (`IsWordIn`), and a fragment is let through
exactly if it is not blank, nothing in it ends a statement or hides part of it, and none of its
words is one that changes data or tables, in capital letters or small ones (`IsHarmless`).

Of a word the check only knows whether it is one of these. Any word that is not may stand for any
other such word, wherever it stands (`fragmentFault?_plainWord`), and that settles what becomes of a
changing word inside a longer one: the check finds there what it finds with an underscore in its
place.
-/

namespace ChartData

/-! ## Characters of words -/

/-- Which characters are those of words does not depend on their case. -/
theorem isWordChar_toLower (c : Char) : isWordChar c.toLower = isWordChar c := by
  have hascii : ∀ n < 128, isWordChar (Char.ofNat n).toLower = isWordChar (Char.ofNat n) := by
    decide
  by_cases hc : c.toNat < 128
  · simpa using hascii c.toNat hc
  · have hsame : c.toLower = c := by
      refine dif_neg fun hupper => hc ?_
      have hle : c.toNat ≤ 90 := UInt32.le_iff_toNat_le.mp hupper.2
      omega
    rw [hsame]

/-- A character of words is no blank. -/
theorem isBlank_of_isWordChar {c : Char} (h : isWordChar c = true) : isBlank c = false := by
  -- Capital letters, small letters, digits and the underscore, as ranges of numbers.
  have hranges : (decide (65 ≤ c.val ∧ c.val ≤ 90) ||
      (decide (97 ≤ c.val) && decide (c.val ≤ 122)) ||
        (decide (48 ≤ c.val) && decide (c.val ≤ 57)) || c == '_') = true := h
  have hnat : ((65 ≤ c.toNat ∧ c.toNat ≤ 90 ∨ 97 ≤ c.toNat ∧ c.toNat ≤ 122) ∨
      48 ≤ c.toNat ∧ c.toNat ≤ 57) ∨ c.toNat = 95 := by
    simpa [UInt32.le_iff_toNat_le, ← Char.toNat_inj] using hranges
  refine Bool.eq_false_iff.mpr ?_
  simp only [isBlank, ne_eq, Bool.or_eq_true, Bool.and_eq_true, decide_eq_true_eq, beq_iff_eq]
  omega

/-! ## Words of a text -/

/-- **A word**: one character of words or more, and nothing else. -/
structure IsWord (word : List Char) : Prop where
  nonempty : word ≠ []
  chars : ∀ c ∈ word, isWordChar c = true

/-- **A word of a text**: the text has no other characters of words next to it. -/
structure IsWordIn (word cs : List Char) : Prop extends IsWord word where
  longest : ∃ before after, cs = before ++ (word ++ after) ∧
    (∀ c ∈ before.getLast?, isWordChar c = false) ∧ ∀ c ∈ after.head?, isWordChar c = false

/-- The words of a text are what is left when it is cut at all other characters. -/
theorem isWordIn_iff {word cs : List Char} :
    IsWordIn word cs ↔ word ≠ [] ∧ word ∈ fieldsAt (fun c => !isWordChar c) cs := by
  rw [mem_fieldsAt_iff]
  simp only [Bool.not_eq_eq_eq_not, Bool.not_true, Bool.not_false]
  constructor
  · rintro ⟨⟨hne, hchars⟩, before, after, hcs, hends⟩
    exact ⟨hne, before, after, hcs, hchars, hends⟩
  · rintro ⟨hne, before, after, hcs, hchars, hends⟩
    exact ⟨⟨hne, hchars⟩, before, after, hcs, hends⟩

/-- A word in small letters. -/
def smallLetters (word : List Char) : String := String.ofList (word.map Char.toLower)

@[simp] theorem toList_smallLetters (word : List Char) :
    (smallLetters word).toList = word.map Char.toLower := String.toList_ofList

theorem wordsOf_eq (cs : List Char) :
    wordsOf cs = (fieldsAt (fun c => !isWordChar c) cs).map smallLetters := by
  unfold wordsOf
  rw [fieldsAt_map, List.map_map]
  simp only [isWordChar_toLower]
  rfl

/-- Whatever word stands between other characters, the words on either side are the same. -/
theorem exists_wordsOf_eq {before after : List Char}
    (hbefore : ∀ c ∈ before.getLast?, isWordChar c = false)
    (hafter : ∀ c ∈ after.head?, isWordChar c = false) :
    ∃ left right, ∀ word, (∀ c ∈ word, isWordChar c = true) →
      wordsOf (before ++ (word ++ after)) = left ++ smallLetters word :: right := by
  have hends : (∀ c ∈ before.getLast?, (!isWordChar c) = true) ∧
      ∀ c ∈ after.head?, (!isWordChar c) = true := by
    simpa using And.intro hbefore hafter
  obtain ⟨left, right, heq⟩ := exists_fieldsAt_eq hends.1 hends.2
  refine ⟨left.map smallLetters, right.map smallLetters, fun word hword => ?_⟩
  rw [wordsOf_eq, heq word (by simpa using hword), List.map_append, List.map_cons]

/-- **A word that changes data or tables**, in whichever letters. -/
def IsChangingWord (word : List Char) : Prop :=
  ∃ w ∈ changingWords, word.map Char.toLower = w.toList.map Char.toLower

theorem isChangingWord_iff {word : List Char} :
    IsChangingWord word ↔ smallLetters word ∈ changingWords := by
  have hsmall : ∀ w ∈ changingWords, w.toList.map Char.toLower = w.toList := by decide
  constructor
  · rintro ⟨w, hw, hsame⟩
    rwa [smallLetters, hsame, hsmall w hw, String.ofList_toList]
  · intro h
    refine ⟨_, h, ?_⟩
    rw [hsmall _ h, toList_smallLetters]

/-- The words that change data or tables are words. -/
theorem IsChangingWord.isWord {word : List Char} (h : IsChangingWord word) : IsWord word := by
  have hwords : ∀ w ∈ changingWords, w ≠ "" ∧ w.toList.all isWordChar = true := by decide
  obtain ⟨hne, hchars⟩ := hwords _ (isChangingWord_iff.mp h)
  refine ⟨by rintro rfl; exact hne rfl, fun c hc => ?_⟩
  rw [← isWordChar_toLower]
  exact List.all_eq_true.mp hchars _ (by simpa using ⟨c, hc, rfl⟩)

/-! ## Words that may stand for one another -/

/-- **A word that changes nothing.** -/
structure IsPlainWord (word : List Char) : Prop extends IsWord word where
  changesNothing : ¬IsChangingWord word

/-- A text with a word in it is not blank. -/
theorem IsWord.trimmed_ne_nil {word : List Char} (h : IsWord word) (before after : List Char) :
    trimmed (before ++ (word ++ after)) ≠ [] := by
  obtain ⟨c, hc⟩ := List.exists_mem_of_ne_nil word h.nonempty
  intro hnil
  have hblank := trimmed_eq_nil_iff.mp hnil c (by simp [hc])
  rw [isBlank_of_isWordChar (h.chars c hc)] at hblank
  cases hblank

theorem IsPlainWord.not_contains {word : List Char} (h : IsPlainWord word) :
    ¬changingWords.contains (smallLetters word) = true :=
  fun hmem => h.changesNothing (isChangingWord_iff.mpr (List.contains_iff_mem.mp hmem))

/-- A word with an underscore in it changes nothing. -/
theorem isPlainWord_of_underscore {word : List Char} (hchars : ∀ c ∈ word, isWordChar c = true)
    (hmem : '_' ∈ word) : IsPlainWord word := by
  refine ⟨⟨List.ne_nil_of_mem hmem, hchars⟩, fun hchanging => ?_⟩
  have hnone : ∀ w ∈ changingWords, '_' ∉ w.toList := by decide
  refine hnone _ (isChangingWord_iff.mp hchanging) ?_
  rw [toList_smallLetters]
  exact List.mem_map_of_mem (f := Char.toLower) hmem

/-- **A word that changes data or tables does so no longer** with something in front or behind: none
of these words is in another. -/
theorem IsChangingWord.isPlainWord {word front back : List Char} (h : IsChangingWord word)
    (hfront : ∀ c ∈ front, isWordChar c = true) (hback : ∀ c ∈ back, isWordChar c = true)
    (hne : front ≠ [] ∨ back ≠ []) : IsPlainWord (front ++ (word ++ back)) := by
  refine ⟨⟨by simp [h.isWord.nonempty], ?_⟩, fun hlong => ?_⟩
  · simp only [List.forall_mem_append]
    exact ⟨hfront, h.isWord.chars, hback⟩
  · have hinside : ∀ w ∈ changingWords, ∀ w' ∈ changingWords, w.toList <:+: w'.toList → w = w' := by
      decide
    rw [isChangingWord_iff] at h hlong
    have hsame := hinside _ h _ hlong ⟨front.map Char.toLower, back.map Char.toLower, by simp⟩
    have hlength : word.length = (front ++ (word ++ back)).length := by
      simpa [smallLetters] using congrArg String.length hsame
    simp only [List.length_append] at hlength
    rcases hne with hne | hne <;> have := List.length_pos_iff.mpr hne <;> omega

/-- What a character is not part of is in a text if it is on one side of the character. -/
theorem infix_append_cons_iff {d l r : List Char} {c : Char} (hc : c ∉ d) :
    d <:+: l ++ c :: r ↔ d <:+: l ∨ d <:+: r := by
  constructor
  · intro h
    rcases List.infix_append_iff.mp h with h | h | ⟨front, back, rfl, hfront, hback⟩
    · exact .inl h
    · rcases List.infix_cons_iff.mp h with h | h
      · rcases List.prefix_cons_iff.mp h with rfl | ⟨t, rfl, -⟩
        · exact .inl (List.nil_infix)
        · exact absurd List.mem_cons_self hc
      · exact .inr h
    · rcases List.prefix_cons_iff.mp hback with rfl | ⟨t, rfl, -⟩
      · rw [List.append_nil]
        exact .inl hfront.isInfix
      · exact absurd (by simp) hc
  · rintro (h | h)
    · exact h.trans (List.prefix_append l _).isInfix
    · exact h.trans ⟨l ++ [c], [], by simp⟩

/-- **A breaking sequence is in a text if it is on one side of a word.** -/
theorem breaking_infix_iff {d : String} (hd : d ∈ breakingSequences) {word : List Char}
    (hword : IsWord word) (before after : List Char) :
    d.toList <:+: before ++ (word ++ after) ↔ d.toList <:+: before ∨ d.toList <:+: after := by
  have hforeign : ∀ d ∈ breakingSequences,
      d.toList ≠ [] ∧ d.toList.any isWordChar = false := by decide
  obtain ⟨hdne, hforeign⟩ := hforeign d hd
  obtain ⟨hne, hchars⟩ := hword
  induction word generalizing before with
  | nil => exact absurd rfl hne
  | cons c word ih =>
    obtain ⟨hc, hchars⟩ := List.forall_mem_cons.mp hchars
    have hcd : c ∉ d.toList := fun hmem => List.any_eq_false.mp hforeign c hmem hc
    rw [List.cons_append, infix_append_cons_iff hcd]
    cases word with
    | nil => rfl
    | cons c' word =>
      have hrest := ih [] (List.cons_ne_nil c' word) hchars
      rw [List.nil_append, List.infix_nil, or_iff_right hdne] at hrest
      exact or_congr_right hrest

/-- **A plain word may stand for any other**: what the check finds in a fragment does not depend on
it. -/
theorem fragmentFault?_plainWord {before after word word' : List Char}
    (hbefore : ∀ c ∈ before.getLast?, isWordChar c = false)
    (hafter : ∀ c ∈ after.head?, isWordChar c = false) (hword : IsPlainWord word)
    (hword' : IsPlainWord word') :
    fragmentFault? (String.ofList (before ++ (word ++ after))) =
      fragmentFault? (String.ofList (before ++ (word' ++ after))) := by
  have hblank : (trimmed (before ++ (word ++ after))).isEmpty =
      (trimmed (before ++ (word' ++ after))).isEmpty := by
    rw [List.isEmpty_eq_false_iff.mpr (hword.trimmed_ne_nil before after),
      List.isEmpty_eq_false_iff.mpr (hword'.trimmed_ne_nil before after)]
  have hsequences :
      (breakingSequences.find? fun d => occursIn d.toList (before ++ (word ++ after))) =
        breakingSequences.find? fun d => occursIn d.toList (before ++ (word' ++ after)) := by
    refine List.find?_congr fun d hd => Bool.eq_iff_iff.mpr ?_
    rw [occursIn_iff_isInfix, occursIn_iff_isInfix, breaking_infix_iff hd hword.toIsWord,
      breaking_infix_iff hd hword'.toIsWord]
  have hwords : (wordsOf (before ++ (word ++ after))).find? changingWords.contains =
      (wordsOf (before ++ (word' ++ after))).find? changingWords.contains := by
    obtain ⟨left, right, heq⟩ := exists_wordsOf_eq hbefore hafter
    rw [heq word hword.chars, heq word' hword'.chars, List.find?_append, List.find?_append,
      List.find?_cons_of_neg hword.not_contains, List.find?_cons_of_neg hword'.not_contains]
  unfold fragmentFault?
  simp only [String.toList_ofList]
  rw [hblank, hsequences, hwords]

theorem forall_mem_head?_dropWhile (p : Char → Bool) (cs : List Char) :
    ∀ c ∈ (cs.dropWhile p).head?, p c = false := by
  intro c hc
  have h := List.head?_dropWhile_not p cs
  rw [Option.mem_def.mp hc] at h
  exact h

/-- **A place in a text is in a word** as far as characters of words go, to either side. -/
theorem exists_word_around (u v : List Char) :
    ∃ before front back after, u = before ++ front ∧ v = back ++ after ∧
      (∀ c ∈ front, isWordChar c = true) ∧ (∀ c ∈ back, isWordChar c = true) ∧
      (∀ c ∈ before.getLast?, isWordChar c = false) ∧ ∀ c ∈ after.head?, isWordChar c = false := by
  refine ⟨(u.reverse.dropWhile isWordChar).reverse, (u.reverse.takeWhile isWordChar).reverse,
    v.takeWhile isWordChar, v.dropWhile isWordChar, ?_, List.takeWhile_append_dropWhile.symm, ?_,
    List.all_eq_true.mp List.all_takeWhile, ?_, forall_mem_head?_dropWhile isWordChar v⟩
  · rw [← List.reverse_append, List.takeWhile_append_dropWhile, List.reverse_reverse]
  · simp only [List.mem_reverse]
    exact List.all_eq_true.mp List.all_takeWhile
  · rw [List.getLast?_reverse]
    exact forall_mem_head?_dropWhile isWordChar u.reverse

/-- **A changing word inside a longer word is looked at as an underscore is** in its place. -/
theorem IsChangingWord.fragmentFault?_extended {k u v : String} (hk : IsChangingWord k.toList)
    (hnext : (∃ c ∈ u.toList.getLast?, isWordChar c = true) ∨
      ∃ c ∈ v.toList.head?, isWordChar c = true) :
    fragmentFault? (u ++ k ++ v) = fragmentFault? (u ++ "_" ++ v) := by
  obtain ⟨before, front, back, after, hu, hv, hfront, hback, hbefore, hafter⟩ :=
    exists_word_around u.toList v.toList
  have hne : front ≠ [] ∨ back ≠ [] := by
    refine hnext.imp ?_ ?_
    · rintro ⟨c, hc, hchar⟩ rfl
      rw [hu, List.append_nil] at hc
      exact absurd hchar (Bool.eq_false_iff.mp (hbefore c hc))
    · rintro ⟨c, hc, hchar⟩ rfl
      rw [hv, List.nil_append] at hc
      exact absurd hchar (Bool.eq_false_iff.mp (hafter c hc))
  have htext (w : String) : u ++ w ++ v =
      String.ofList (before ++ ((front ++ (w.toList ++ back)) ++ after)) := by
    rw [← String.toList_inj]
    simp [hu, hv]
  have hplain : IsPlainWord (front ++ ("_".toList ++ back)) := by
    refine isPlainWord_of_underscore ?_ (by simp)
    simp only [List.forall_mem_append]
    exact ⟨hfront, List.all_eq_true.mp rfl, hback⟩
  rw [htext, htext]
  exact fragmentFault?_plainWord hbefore hafter (hk.isPlainWord hfront hback hne) hplain

/-! ## Harmless fragments -/

/-- **Fragments that can do no harm**: something is in them, nothing ends a statement or hides part
of it, and no word changes data or tables. -/
structure IsHarmless (s : String) : Prop where
  notBlank : ∃ c ∈ s.toList, isBlank c = false
  unbroken : Unbroken s.toList
  words : ∀ word, IsWordIn word s.toList → ¬IsChangingWord word

/-- The words of a text are among what is found by cutting it, in small letters. -/
theorem forall_isWordIn_iff {cs : List Char} :
    (∀ word, IsWordIn word cs → ¬IsChangingWord word) ↔ ∀ w ∈ wordsOf cs, w ∉ changingWords := by
  simp only [isWordIn_iff, isChangingWord_iff, wordsOf_eq, List.forall_mem_map]
  -- What is cut out may be empty, which no changing word is.
  refine ⟨fun h word hword hmem => h word ⟨?_, hword⟩ hmem, fun h word hword => h word hword.2⟩
  exact (isChangingWord_iff.mpr hmem).isWord.1

theorem fragmentFault?_eq_none_iff_isHarmless {s : String} :
    fragmentFault? s = none ↔ IsHarmless s := by
  have hblank : trimmed s.toList ≠ [] ↔ ∃ c ∈ s.toList, isBlank c = false := by
    rw [ne_eq, trimmed_eq_nil_iff]
    simp
  rw [fragmentFault?_eq_none_iff, hblank, ← forall_isWordIn_iff]
  exact ⟨fun ⟨h, h', h''⟩ => ⟨h, h', h''⟩, fun ⟨h, h', h''⟩ => ⟨h, h', h''⟩⟩

/-- **Two harmless fragments with a space between them are a harmless fragment.** -/
theorem IsHarmless.append {s t : String} (hs : IsHarmless s) (ht : IsHarmless t) :
    IsHarmless (s ++ " " ++ t) := by
  have htext : (s ++ " " ++ t).toList = s.toList ++ ' ' :: t.toList := by simp
  have hspace : ∀ d ∈ breakingSequences, ' ' ∉ d.toList := by decide
  constructor
  · obtain ⟨c, hc, hblank⟩ := hs.notBlank
    exact ⟨c, by simp [hc], hblank⟩
  · intro d hd
    rw [htext, infix_append_cons_iff (hspace d hd), not_or]
    exact ⟨hs.unbroken d hd, ht.unbroken d hd⟩
  · have hwords : wordsOf (s.toList ++ ' ' :: t.toList) =
        wordsOf s.toList ++ wordsOf t.toList := by
      have hsep : (!isWordChar ' ') = true := by decide
      rw [wordsOf_eq, wordsOf_eq, wordsOf_eq, ← List.map_append, ← fieldsAt_append_cons hsep]
    rw [forall_isWordIn_iff, htext, hwords, List.forall_mem_append, ← forall_isWordIn_iff,
      ← forall_isWordIn_iff]
    exact ⟨hs.words, ht.words⟩

/-- **Fragments are looked at word by word.** A fragment is let through exactly if it is harmless.
So it is not let through with a changing word in it, in whichever letters and whatever stands around
it, unless a character of words stands next to the word. If one does, the check finds what it finds
with an underscore in place of the changing word. And two fragments that are let through are let
through with a space between them. -/
theorem fragmentFault?_whole_words (s : String) :
    (fragmentFault? s = none ↔ IsHarmless s) ∧
    (∀ k u v : String, IsChangingWord k.toList →
      ((∀ c ∈ u.toList.getLast?, isWordChar c = false) →
        (∀ c ∈ v.toList.head?, isWordChar c = false) → fragmentFault? (u ++ k ++ v) ≠ none) ∧
      ((∃ c ∈ u.toList.getLast?, isWordChar c = true) ∨
          (∃ c ∈ v.toList.head?, isWordChar c = true) →
        fragmentFault? (u ++ k ++ v) = fragmentFault? (u ++ "_" ++ v))) ∧
    ∀ t, fragmentFault? s = none → fragmentFault? t = none →
      fragmentFault? (s ++ " " ++ t) = none := by
  refine ⟨fragmentFault?_eq_none_iff_isHarmless, fun k u v hk => ⟨fun hu hv h => ?_, ?_⟩, ?_⟩
  · have hword : IsWordIn k.toList (u ++ k ++ v).toList :=
      ⟨hk.isWord, u.toList, v.toList, by simp, hu, hv⟩
    exact (fragmentFault?_eq_none_iff_isHarmless.mp h).words _ hword hk
  · exact hk.fragmentFault?_extended
  · intro t hs ht
    rw [fragmentFault?_eq_none_iff_isHarmless] at hs ht ⊢
    exact hs.append ht

/-- What drops a table is not let through; what drops off is looked at as if no such word were in
it. -/
theorem fragmentFault?_of_drop :
    IsChangingWord "DROP".toList ∧
      fragmentFault? ("(" ++ "DROP" ++ " TABLE events)") ≠ none ∧
      fragmentFault? ("user" ++ "DROP" ++ "-off") = fragmentFault? ("user" ++ "_" ++ "-off") ∧
      fragmentFault? ("dropoff_rate * 100" ++ " " ++ "> 1") = none := by
  have hdrop : IsChangingWord "DROP".toList := ⟨"drop", by decide, by decide⟩
  have hbefore : ∀ c ∈ "(".toList.getLast?, isWordChar c = false := by
    rintro c ⟨⟩
    rfl
  have hafter : ∀ c ∈ " TABLE events)".toList.head?, isWordChar c = false := by
    rintro c ⟨⟩
    rfl
  refine ⟨hdrop, ?_, ?_, ?_⟩
  · exact ((fragmentFault?_whole_words "").2.1 "DROP" "(" " TABLE events)" hdrop).1 hbefore hafter
  · exact ((fragmentFault?_whole_words "").2.1 "DROP" "user" "-off" hdrop).2
      (.inl ⟨'r', by decide, by decide⟩)
  · exact (fragmentFault?_whole_words "dropoff_rate * 100").2.2 "> 1" (by decide) (by decide)

end ChartData
