import ChartData.Toml.Quoted
import Mathlib.Data.List.Basic

/-!
# Quoted text read back

A text in its quotes is read back as the text, in whichever of the four ways it is quoted
(`TomlToken.scanFrom_quotedText`).

The four ways are one for the reader, but for how many quotes it takes in a row without closing.
What has been read inside the quotes is the characters before the last run of quotes, and the length
of that run (`TomlToken.inside`); a character that is no quote puts the run behind it. The writer of
escapes keeps the same count, so writer and reader agree on which quotes are part of the text.
-/

namespace ChartData

namespace TomlToken

/-! ## Steps of the scanner -/

variable {state next : Partial} {c : Char} {cs rest : List Char} {tokens : List TomlToken}

/-! ## Inside quotes -/

variable {q : Quotes} {soFar : List Char} {run : Nat}

/-- **Inside quotes**: the characters before the last run of quotes, latest first, and the length of
the run. -/
def inside (q : Quotes) (soFar : List Char) (run : Nat) : Partial :=
  if q.tripled then .long q.char soFar run else .short q.char soFar

theorem char_of_double (hq : q.double = true) : q.char = '"' := if_pos hq

theorem double_of_char (h : q.char = '"') : q.double = true := by
  unfold Quotes.char at h
  split at h
  · next hq => exact hq
  · cases h

/-- A character that means itself puts the quotes before it behind. -/
theorem step_inside (hrun : run ≤ q.quotesInside) (hquote : c ≠ q.char)
    (hbackslash : q.double = true → c ≠ '\\')
    (hcontrol : isControl c = false ∨ c = '\n' ∧ q.tripled = true) :
    step (inside q soFar run) c =
      some ([], inside q (c :: (List.replicate run q.char ++ soFar)) 0) := by
  have hescape : ¬(c = '\\' ∧ q.char = '"') := fun h => hbackslash (double_of_char h.2) h.1
  unfold inside Quotes.quotesInside at *
  by_cases ht : q.tripled = true
  · rw [if_pos ht] at hrun ⊢
    rw [if_pos ht]
    unfold step stepLong
    dsimp only
    rw [if_neg (fun h => hquote h.1), if_neg (by omega), if_neg hescape, if_neg]
    rcases hcontrol with hc | ⟨rfl, -⟩
    · rw [hc]
      exact Bool.false_ne_true
    · decide
  · rw [if_neg ht] at hrun ⊢
    rw [if_neg ht, Nat.le_zero.1 hrun]
    unfold step stepShort
    dsimp only
    rw [if_neg hquote, if_neg hescape]
    rcases hcontrol with hc | ⟨-, hc⟩
    · rw [hc]
      rfl
    · exact absurd hc ht

/-- A quote lengthens the run, if there may be more. -/
theorem step_inside_quote (hrun : run < q.quotesInside) :
    step (inside q soFar run) q.char = some ([], inside q soFar (run + 1)) := by
  unfold inside Quotes.quotesInside at *
  by_cases ht : q.tripled = true
  · rw [if_pos ht] at hrun
    rw [if_pos ht, if_pos ht]
    exact if_pos ⟨rfl, by omega⟩
  · rw [if_neg ht] at hrun
    exact absurd hrun (Nat.not_lt_zero run)

/-- A backslash escapes between double quotes. -/
theorem step_inside_backslash (hq : q.double = true) (hrun : run ≤ q.quotesInside) :
    step (inside q soFar run) '\\' =
      some ([], .escape q.tripled (List.replicate run q.char ++ soFar)) := by
  have hchar := char_of_double hq
  unfold inside Quotes.quotesInside at *
  rw [hchar]
  by_cases ht : q.tripled = true
  · rw [if_pos ht] at hrun
    rw [if_pos ht, ht]
    unfold step stepLong
    dsimp only
    rw [if_neg (fun h => absurd h.1 (by decide)), if_neg (by omega)]
    rfl
  · rw [if_neg ht] at hrun
    rw [if_neg ht, Nat.le_zero.1 hrun, Bool.eq_false_iff.2 ht]
    rfl

theorem resume_eq_inside (hq : q.double = true) (soFar : List Char) :
    resume q.tripled soFar = inside q soFar 0 := by
  obtain ⟨double, tripled⟩ := q
  cases hq
  rfl

/-! ## Escapes -/

theorem digitValue?_capitalHexDigit {n : Nat} (h : n < 16) :
    digitValue? 16 (capitalHexDigit n) = some n := by
  have : ∀ n < 16, digitValue? 16 (capitalHexDigit n) = some n := by decide
  exact this n h

theorem toNat_lt_of_isControl (h : isControl c = true) : c.toNat < 128 := by
  unfold isControl at h
  rcases Bool.or_eq_true_iff.1 h with h | h
  · have := of_decide_eq_true (Bool.and_eq_true_iff.1 h).1
    omega
  · rw [beq_iff_eq.1 h]
    decide

theorem charOfCode?_toNat (h : c.toNat < 128) : charOfCode? c.toNat = some c := by
  unfold charOfCode?
  rw [if_pos (.inl (by omega)), Char.ofNat_toNat]

/-- **A character between double quotes is read back**, escaped or not. -/
theorem scanFrom_escapedChar (hq : q.double = true) (hrun : run ≤ q.quotesInside) (hc : c ≠ '"')
    (rest : List Char) :
    scanner.scanFrom (inside q soFar run) (escapedChar c ++ rest) =
      scanner.scanFrom (inside q (c :: (List.replicate run q.char ++ soFar)) 0) rest := by
  have hback (d : Char) (ds : List Char) :
      scanner.scanFrom (inside q soFar run) ('\\' :: d :: ds) =
        scanner.scanFrom (.escape q.tripled (List.replicate run q.char ++ soFar)) (d :: ds) :=
    scanner.scanFrom_cons_nil (step_inside_backslash hq hrun)
  have hresume : resume q.tripled (c :: (List.replicate run q.char ++ soFar)) =
      inside q (c :: (List.replicate run q.char ++ soFar)) 0 := resume_eq_inside hq _
  have escape {d : Char}
      (hd : step (.escape q.tripled (List.replicate run q.char ++ soFar)) d =
        some ([], resume q.tripled (c :: (List.replicate run q.char ++ soFar)))) :
      scanner.scanFrom (inside q soFar run) ('\\' :: d :: rest) =
        scanner.scanFrom (inside q (c :: (List.replicate run q.char ++ soFar)) 0) rest := by
    rw [hback, scanner.scanFrom_cons_nil hd, hresume]
  unfold escapedChar
  split
  · subst c; exact escape rfl
  split
  · subst c; exact escape rfl
  split
  · subst c; exact escape rfl
  split
  · subst c; exact escape rfl
  split
  · subst c; exact escape rfl
  split
  · subst c; exact escape rfl
  split
  · next hcontrol =>
    have hlt := toNat_lt_of_isControl hcontrol
    have hhigh := digitValue?_capitalHexDigit (show c.toNat / 16 < 16 by omega)
    have hlow := digitValue?_capitalHexDigit (show c.toNat % 16 < 16 by omega)
    have hcode : 16 * (16 * 0 + c.toNat / 16) + c.toNat % 16 = c.toNat := by omega
    have hfirst (soFar : List Char) :
        step (.code q.tripled soFar 2 0) (capitalHexDigit (c.toNat / 16)) =
          some ([], .code q.tripled soFar 1 (16 * 0 + c.toNat / 16)) := by
      unfold step
      dsimp only
      rw [hhigh]
      rfl
    have hsecond (soFar : List Char) :
        step (.code q.tripled soFar 1 (16 * 0 + c.toNat / 16)) (capitalHexDigit (c.toNat % 16)) =
          some ([], resume q.tripled (c :: soFar)) := by
      unfold step
      dsimp only
      rw [hlow]
      dsimp only
      rw [if_pos (Nat.le_refl 1), hcode, charOfCode?_toNat hlt]
      rfl
    -- the backslash, the letter and two zeros, and then the two digits of the number
    rw [← hresume]
    exact (hback 'u' _).trans <| (scanner.scanFrom_cons_nil rfl).trans <|
      (scanner.scanFrom_cons_nil rfl).trans <| (scanner.scanFrom_cons_nil rfl).trans <|
      (scanner.scanFrom_cons_nil (hfirst _)).trans (scanner.scanFrom_cons_nil (hsecond _))
  · next hbackslash _ _ _ _ _ hcontrol =>
    refine scanner.scanFrom_cons_nil (step_inside hrun ?_ (fun _ => hbackslash) (.inl ?_))
    · rw [char_of_double hq]
      exact hc
    · exact Bool.eq_false_iff.2 hcontrol

/-! ## Texts inside quotes -/

/-- **Whether a text inside quotes is read as some characters**: they are read, and what is read
last has no more quotes than it may have. -/
def ReadsInside (q : Quotes) (soFar : List Char) (run : Nat) (text cs : List Char) : Prop :=
  ∃ soFar' run', run' ≤ q.quotesInside ∧
    List.replicate run' q.char ++ soFar' = cs.reverse ++ (List.replicate run q.char ++ soFar) ∧
    ∀ rest, scanner.scanFrom (inside q soFar run) (text ++ rest) =
      scanner.scanFrom (inside q soFar' run') rest

variable {text : List Char}

theorem readsInside_nil (hrun : run ≤ q.quotesInside) : ReadsInside q soFar run [] [] :=
  ⟨soFar, run, hrun, rfl, fun _ => rfl⟩

/-- One character in front, which is no quote or is escaped. -/
theorem ReadsInside.cons (written : List Char)
    (hwritten : ∀ rest, scanner.scanFrom (inside q soFar run) (written ++ rest) =
      scanner.scanFrom (inside q (c :: (List.replicate run q.char ++ soFar)) 0) rest)
    (h : ReadsInside q (c :: (List.replicate run q.char ++ soFar)) 0 text cs) :
    ReadsInside q soFar run (written ++ text) (c :: cs) := by
  obtain ⟨soFar', run', hrun', hread, hscan⟩ := h
  refine ⟨soFar', run', hrun', ?_, fun rest => ?_⟩
  · rw [hread, List.reverse_cons, List.append_assoc]
    rfl
  · rw [List.append_assoc, hwritten, hscan]

/-- One quote in front. -/
theorem ReadsInside.cons_quote (hrun : run < q.quotesInside)
    (h : ReadsInside q soFar (run + 1) text cs) :
    ReadsInside q soFar run (q.char :: text) (q.char :: cs) := by
  obtain ⟨soFar', run', hrun', hread, hscan⟩ := h
  refine ⟨soFar', run', hrun', ?_, fun rest => ?_⟩
  · rw [hread, List.replicate_succ, List.reverse_cons, List.append_assoc]
    rfl
  · rw [List.cons_append, scanner.scanFrom_cons_nil (step_inside_quote hrun), hscan]

/-- **A text with escapes is read as the text.** -/
theorem readsInside_escaped (hq : q.double = true) (cs : List Char) (soFar : List Char) {run : Nat}
    (hrun : run ≤ q.quotesInside) : ReadsInside q soFar run (q.escaped run cs) cs := by
  induction cs generalizing soFar run with
  | nil => exact readsInside_nil hrun
  | cons c cs ih =>
    unfold Quotes.escaped
    split
    · next hquote =>
      subst c
      split
      · next hless =>
        have h := ReadsInside.cons_quote hless (ih soFar hless)
        rwa [char_of_double hq] at h
      · refine ReadsInside.cons ['\\', '"'] (fun rest => ?_) (ih _ (Nat.zero_le _))
        rw [← resume_eq_inside hq]
        exact (scanner.scanFrom_cons_nil (step_inside_backslash hq hrun)).trans
          (scanner.scanFrom_cons_nil rfl)
    · next hquote =>
      split
      · next hline =>
        refine ReadsInside.cons [c] (fun rest => ?_) (ih _ (Nat.zero_le _))
        refine scanner.scanFrom_cons_nil (step_inside hrun ?_ (fun _ => ?_) (.inr hline))
        · rw [char_of_double hq]
          exact hquote
        · rw [hline.1]
          decide
      · exact ReadsInside.cons _ (scanFrom_escapedChar hq hrun hquote) (ih _ (Nat.zero_le _))

theorem le_longestRun (c : Char) (run : Nat) (cs : List Char) : run ≤ longestRun c run cs := by
  induction cs generalizing run with
  | nil => exact Nat.le_refl run
  | cons d cs ih =>
    unfold longestRun
    split
    · exact Nat.le_trans (Nat.le_succ run) (ih (run + 1))
    · exact Nat.le_max_left _ _

/-- **Between single quotes a text is read as it is**, if it may stand there. -/
theorem readsInside_literal (hq : ¬q.double = true) (soFar : List Char)
    (hcontrol : ∀ c ∈ cs, isControl c = false ∨ c = '\n' ∧ q.tripled = true)
    (hrun : longestRun q.char run cs ≤ q.quotesInside) : ReadsInside q soFar run cs cs := by
  induction cs generalizing soFar run with
  | nil => exact readsInside_nil hrun
  | cons c cs ih =>
    have hrest : ∀ d ∈ cs, _ := fun d hd => hcontrol d (List.mem_cons_of_mem c hd)
    unfold longestRun at hrun
    split at hrun
    · next hquote =>
      rw [hquote]
      exact .cons_quote (Nat.le_trans (le_longestRun _ _ cs) hrun) (ih _ hrest hrun)
    · next hquote =>
      refine ReadsInside.cons [c] (fun rest => ?_)
        (ih _ hrest (Nat.le_trans (Nat.le_max_right _ _) hrun))
      exact scanner.scanFrom_cons_nil (step_inside (Nat.le_trans (Nat.le_max_left _ _) hrun) hquote
        (fun h => absurd h hq) (hcontrol c List.mem_cons_self))

/-! ## The quotes on either side -/

/-- **What is inside the quotes**: the text as it is, or with escapes. -/
def body (q : Quotes) (cs : List Char) : List Char := if q.double then q.escaped 0 cs else cs

/-- **Whether quotes do for a text**: a backslash escapes between them, or nothing has to be
escaped. -/
def Does (q : Quotes) (cs : List Char) : Prop := q.double = true ∨ q.suits cs = true

/-- What the quotes do for that are best for a text is that text. -/
theorem does_best (cs : List Char) : Does (Quotes.best cs) cs := by
  unfold Quotes.best
  cases found : Quotes.all.find? (·.suits cs) with
  | some q => exact .inr (List.find?_some (p := fun q : Quotes => q.suits cs) found)
  | none => exact .inl rfl

/-- What suits a text that is quoted as it is. -/
theorem of_suits (h : q.suits cs = true) :
    (∀ c ∈ cs, isControl c = false ∨ c = '\n' ∧ q.tripled = true) ∧
      longestRun q.char 0 cs ≤ q.quotesInside := by
  unfold Quotes.suits at h
  simp only [Bool.and_eq_true, List.all_eq_true, decide_eq_true_eq] at h
  obtain ⟨⟨hcontrol, -⟩, hrun⟩ := h
  exact ⟨fun c hc => by simpa using hcontrol c hc, hrun⟩

theorem readsInside_body (h : Does q cs) : ReadsInside q [] 0 (body q cs) cs := by
  unfold body
  split
  · next hq => exact readsInside_escaped hq cs [] (Nat.zero_le _)
  · next hq =>
    obtain ⟨hcontrol, hrun⟩ := of_suits (h.resolve_left hq)
    exact readsInside_literal hq [] hcontrol hrun

theorem char_ne_newline (q : Quotes) : q.char ≠ '\n' := by
  unfold Quotes.char
  split <;> decide

theorem scanFrom_newline (rest : List Char) :
    scanner.scanFrom .between ('\n' :: rest) =
      (scanner.scanFrom .between rest).map (newline :: ·) :=
  have h : step .between '\n' = some ([newline], .between) := rfl
  scanner.scanFrom_cons_singleton h

/-- A string that the end of the line ends comes before the line end. -/
theorem scanFrom_ended {state : Partial} {t : TomlToken}
    (h : step state '\n' = some ([t, newline], .between)) (rest : List Char) :
    scanner.scanFrom state ('\n' :: rest) =
      (scanner.scanFrom .between ('\n' :: rest)).map (t :: ·) := by
  rw [scanner.scanFrom_cons h, scanFrom_newline, Option.map_map]
  rfl

/-- **The closing quotes** end the string, where the line ends. -/
theorem scanFrom_inside_delimiter (hrun : run ≤ q.quotesInside) (rest : List Char) :
    scanner.scanFrom (inside q soFar run) (q.delimiter ++ '\n' :: rest) =
      (scanner.scanFrom .between ('\n' :: rest)).map
        (stringOf (List.replicate run q.char ++ soFar) q.tripled :: ·) := by
  unfold inside Quotes.delimiter
  unfold Quotes.quotesInside at hrun
  by_cases ht : q.tripled = true
  · rw [if_pos ht] at hrun
    rw [if_pos ht, if_pos ht, ht]
    have hquote (n : Nat) (hn : n < 5) :
        step (.long q.char soFar n) q.char = some ([], .long q.char soFar (n + 1)) :=
      if_pos ⟨rfl, hn⟩
    have hend : step (.long q.char soFar (run + 3)) '\n' =
        some ([stringOf (List.replicate run q.char ++ soFar) true, newline], .between) := by
      unfold step stepLong
      dsimp only
      rw [if_neg (fun h => char_ne_newline q h.1.symm), if_pos (Nat.le_add_left 3 run)]
      rfl
    exact (scanner.scanFrom_cons_nil (hquote run (by omega))).trans <|
      (scanner.scanFrom_cons_nil (hquote (run + 1) (by omega))).trans <|
      (scanner.scanFrom_cons_nil (hquote (run + 2) (by omega))).trans (scanFrom_ended hend rest)
  · rw [if_neg ht] at hrun
    rw [if_neg ht, if_neg ht, Nat.le_zero.1 hrun, Bool.eq_false_iff.2 ht]
    have hclose : step (.short q.char soFar) q.char = some ([stringOf soFar false], .between) :=
      if_pos rfl
    exact scanner.scanFrom_cons_singleton hclose

/-- **One opening quote** begins the string, unless another comes right after it that does not close
the string. -/
theorem scanFrom_opening (h : ∀ c ∈ text.head?, c ≠ q.char) (rest : List Char) :
    scanner.scanFrom (.opening q.char false) (text ++ q.char :: '\n' :: rest) =
      scanner.scanFrom (.short q.char []) (text ++ q.char :: '\n' :: rest) := by
  cases text with
  | cons c cs =>
    have hstep : step (.opening q.char false) c = step (.short q.char []) c := if_neg (h c rfl)
    exact scanner.scanFrom_congr hstep _
  | nil =>
    have hone : step (.opening q.char false) q.char = some ([], .opening q.char true) := if_pos rfl
    have htwo : step (.opening q.char true) '\n' =
        some ([stringOf [] false, newline], .between) := by
      unfold step
      dsimp only
      rw [if_neg (char_ne_newline q).symm]
      rfl
    have hclose : step (.short q.char []) q.char = some ([stringOf [] false], .between) :=
      if_pos rfl
    exact (scanner.scanFrom_cons_nil hone).trans <|
      (scanFrom_ended htwo rest).trans (scanner.scanFrom_cons_singleton hclose).symm

/-- **Three opening quotes** begin the string, unless a line end comes right after them. -/
theorem scanFrom_longStart (h : ∀ c ∈ text.head?, c ≠ '\n' ∧ c ≠ '\r') :
    scanner.scanFrom (.longStart q.char) text = scanner.scanFrom (.long q.char [] 0) text := by
  cases text with
  | nil => rfl
  | cons c cs =>
    obtain ⟨hline, hreturn⟩ := h c rfl
    have hstep : step (.longStart q.char) c = step (.long q.char [] 0) c :=
      (if_neg hline).trans (if_neg hreturn)
    exact scanner.scanFrom_congr hstep cs

/-! ## Texts in their quotes -/

/-- A character between double quotes is written as it is or with a backslash in front. -/
theorem escapedChar_cases (c : Char) :
    isControl c = false ∧ escapedChar c = [c] ∨
      ∃ cs, escapedChar c = '\\' :: cs ∧ ∀ d ∈ cs, isControl d = false := by
  have hhex {n : Nat} (h : n < 16) : isControl (capitalHexDigit n) = false := by
    have : ∀ n < 16, isControl (capitalHexDigit n) = false := by decide
    exact this n h
  have hletter {d : Char} (hd : isControl d = false) : ∀ e ∈ [d], isControl e = false := by
    intro e he
    rw [List.mem_singleton.1 he, hd]
  unfold escapedChar
  split
  · exact .inr ⟨_, rfl, hletter rfl⟩
  split
  · exact .inr ⟨_, rfl, hletter rfl⟩
  split
  · exact .inr ⟨_, rfl, hletter rfl⟩
  split
  · exact .inr ⟨_, rfl, hletter rfl⟩
  split
  · exact .inr ⟨_, rfl, hletter rfl⟩
  split
  · exact .inr ⟨_, rfl, hletter rfl⟩
  split
  · next hcontrol =>
    have hlt := toNat_lt_of_isControl hcontrol
    refine .inr ⟨_, rfl, fun d hd => ?_⟩
    simp only [List.mem_cons, List.not_mem_nil, or_false] at hd
    rcases hd with rfl | rfl | rfl | rfl | rfl
    · rfl
    · rfl
    · rfl
    · exact hhex (by omega)
    · exact hhex (by omega)
  · next hcontrol => exact .inl ⟨Bool.eq_false_iff.2 hcontrol, rfl⟩

/-- Whether a character may stand inside the quotes of a text: it is no control, or it ends one of
several lines. -/
def MayStand (q : Quotes) (cs : List Char) (d : Char) : Prop :=
  isControl d = false ∨ d = '\n' ∧ q.tripled = true ∧ '\n' ∈ cs

theorem MayStand.cons {d : Char} (h : MayStand q cs d) : MayStand q (c :: cs) d :=
  h.imp_right fun ⟨hd, ht, hmem⟩ => ⟨hd, ht, List.mem_cons_of_mem c hmem⟩

theorem mayStand_of_mem_escaped {d : Char} (h : d ∈ q.escaped run cs) : MayStand q cs d := by
  induction cs generalizing run with
  | nil => cases h
  | cons c cs ih =>
    unfold Quotes.escaped at h
    split at h
    · next hquote =>
      subst c
      split at h
      · rcases List.mem_cons.1 h with rfl | h
        · exact .inl rfl
        · exact (ih h).cons
      · rcases List.mem_cons.1 h with rfl | h
        · exact .inl rfl
        · rcases List.mem_cons.1 h with rfl | h
          · exact .inl rfl
          · exact (ih h).cons
    · split at h
      · next hline =>
        rcases List.mem_cons.1 h with rfl | h
        · exact .inr ⟨hline.1, hline.2, hline.1 ▸ List.mem_cons_self⟩
        · exact (ih h).cons
      · rcases List.mem_append.1 h with h | h
        · left
          rcases escapedChar_cases c with ⟨hc, hwritten⟩ | ⟨ds, hwritten, hds⟩
          · rw [hwritten] at h
            rw [List.mem_singleton.1 h, hc]
          · rw [hwritten] at h
            rcases List.mem_cons.1 h with rfl | h
            · rfl
            · exact hds d h
        · exact (ih h).cons

theorem mayStand_of_mem_body (h : Does q cs) {d : Char} (hd : d ∈ body q cs) :
    MayStand q cs d := by
  unfold body at hd
  split at hd
  · exact mayStand_of_mem_escaped hd
  · next hq =>
    exact ((of_suits (h.resolve_left hq)).1 d hd).imp_right fun ⟨hline, ht⟩ =>
      ⟨hline, ht, hline ▸ hd⟩

/-- Right after a quote that is not tripled comes no quote, but for the one that closes. -/
theorem head?_body_ne (h : Does q cs) (ht : q.tripled = false) :
    ∀ c ∈ (body q cs).head?, c ≠ q.char := by
  have hinside : q.quotesInside = 0 := by
    unfold Quotes.quotesInside
    rw [ht]
    rfl
  unfold body
  cases cs with
  | nil => split <;> nofun
  | cons d cs =>
    split
    · next hq =>
      rw [char_of_double hq]
      unfold Quotes.escaped
      rw [hinside, ht]
      split
      · rw [if_neg (Nat.lt_irrefl 0)]
        intro c hc
        cases hc
        decide
      · next hquote =>
        rw [if_neg (fun h => Bool.false_ne_true h.2)]
        rcases escapedChar_cases d with ⟨-, hwritten⟩ | ⟨ds, hwritten, -⟩ <;> rw [hwritten]
        · intro c hc
          cases hc
          exact hquote
        · intro c hc
          cases hc
          decide
    · next hq =>
      have hrun := (of_suits (h.resolve_left hq)).2
      intro c hc hquote
      cases hc
      unfold longestRun at hrun
      rw [if_pos hquote, hinside] at hrun
      exact absurd (Nat.le_trans (le_longestRun _ _ cs) hrun) (Nat.not_succ_le_zero 0)

/-- **The opening quotes** begin the string. -/
theorem scanFrom_delimiter (h : Does q cs) (rest : List Char) :
    scanner.scanFrom .between (q.delimiter ++
        (if q.tripled && cs.contains '\n' then ['\n'] else []) ++ body q cs ++
        (q.delimiter ++ '\n' :: rest)) =
      scanner.scanFrom (inside q [] 0) (body q cs ++ (q.delimiter ++ '\n' :: rest)) := by
  have hbegin : step .between q.char = some ([], .opening q.char false) := by
    unfold Quotes.char
    split <;> rfl
  unfold inside
  cases ht : q.tripled with
  | false =>
    have hdelimiter : q.delimiter = [q.char] := by
      unfold Quotes.delimiter
      rw [ht]
      rfl
    rw [hdelimiter]
    exact (scanner.scanFrom_cons_nil hbegin).trans (scanFrom_opening (head?_body_ne h ht) rest)
  | true =>
    have hdelimiter : q.delimiter = [q.char, q.char, q.char] := by
      unfold Quotes.delimiter
      rw [ht]
      rfl
    have hone : step (.opening q.char false) q.char = some ([], .opening q.char true) := if_pos rfl
    have htwo : step (.opening q.char true) q.char = some ([], .longStart q.char) := if_pos rfl
    have hopen (text : List Char) :
        scanner.scanFrom .between (q.delimiter ++ text) =
          scanner.scanFrom (.longStart q.char) text := by
      rw [hdelimiter]
      exact (scanner.scanFrom_cons_nil hbegin).trans <| (scanner.scanFrom_cons_nil hone).trans <|
        scanner.scanFrom_cons_nil htwo
    rw [List.append_assoc, List.append_assoc, hopen]
    cases hline : cs.contains '\n' with
    | true =>
      -- the line end right after the quotes is dropped, and what follows is the text
      have hdrop : step (.longStart q.char) '\n' = some ([], .long q.char [] 0) := rfl
      exact scanner.scanFrom_cons_nil hdrop
    | false =>
      refine scanFrom_longStart fun c hc => ?_
      have hmem : c ∈ body q cs ∨ c = q.char := by
        cases hbody : body q cs with
        | nil =>
          rw [hbody, hdelimiter] at hc
          cases hc
          exact .inr rfl
        | cons d ds =>
          rw [hbody] at hc
          cases hc
          exact .inl List.mem_cons_self
      rcases hmem with hmem | rfl
      · have hno : '\n' ∉ cs := fun hmem => by
          rw [List.contains_iff_mem.2 hmem] at hline
          cases hline
        rcases mayStand_of_mem_body h hmem with hcontrol | ⟨-, -, hmem⟩
        · constructor <;> rintro rfl <;> cases hcontrol
        · exact absurd hmem hno
      · refine ⟨char_ne_newline q, ?_⟩
        unfold Quotes.char
        split <;> decide

/-- **A text in its quotes is read back**, where the line ends. -/
theorem scanFrom_write (h : Does q cs) (rest : List Char) :
    scanner.scanFrom .between (q.write cs ++ '\n' :: rest) =
      (scanner.scanFrom .between ('\n' :: rest)).map
        (string (String.ofList cs) q.tripled :: ·) := by
  obtain ⟨soFar, run, hrun, hread, hscan⟩ := readsInside_body h
  have hwrite : q.write cs ++ '\n' :: rest =
      q.delimiter ++ (if q.tripled && cs.contains '\n' then ['\n'] else []) ++
        body q cs ++ (q.delimiter ++ '\n' :: rest) :=
    List.append_assoc _ _ _
  have hstring : stringOf (List.replicate run q.char ++ soFar) q.tripled =
      string (String.ofList cs) q.tripled := by
    unfold stringOf
    rw [hread]
    exact congrArg (fun ds => string (String.ofList ds) q.tripled)
      ((congrArg List.reverse (List.append_nil _)).trans (List.reverse_reverse cs))
  rw [hwrite, scanFrom_delimiter h, hscan, scanFrom_inside_delimiter hrun, hstring]

/-- No carriage return stands in a text in its quotes. -/
theorem return_not_mem_write (h : Does q cs) : '\r' ∉ q.write cs := by
  have hchar : q.char ≠ '\r' := by
    unfold Quotes.char
    split <;> decide
  have hdelimiter : '\r' ∉ q.delimiter := fun hmem =>
    hchar (List.eq_of_mem_replicate hmem).symm
  intro hmem
  unfold Quotes.write at hmem
  rcases List.mem_append.1 hmem with hmem | hmem
  · rcases List.mem_append.1 hmem with hmem | hmem
    · rcases List.mem_append.1 hmem with hmem | hmem
      · exact hdelimiter hmem
      · split at hmem
        · cases List.mem_singleton.1 hmem
        · cases hmem
    · rcases mayStand_of_mem_body h hmem with hcontrol | ⟨hline, -⟩
      · cases hcontrol
      · cases hline
  · exact hdelimiter hmem

/-- **A quoted text is read back as the text**, where the line ends. -/
theorem scanFrom_quotedText (s : String) (rest : List Char) :
    scanner.scanFrom .between ((quotedText s).toList ++ '\n' :: rest) =
      (scanner.scanFrom .between ('\n' :: rest)).map
        (string s (Quotes.best s.toList).tripled :: ·) := by
  unfold quotedText
  rw [String.toList_ofList, scanFrom_write (does_best _), String.ofList_toList]

theorem return_not_mem_quotedText (s : String) : '\r' ∉ (quotedText s).toList := by
  unfold quotedText
  rw [String.toList_ofList]
  exact return_not_mem_write (does_best _)

end TomlToken

end ChartData
