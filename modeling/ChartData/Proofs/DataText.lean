import ChartData.Json.Text
import ChartData.Proofs.NumberText

/-!
# Data read back from text

A value that is written as a text is read back from it (`Json.ofText?_text`), as long as its leaves
are: a leaf that stands for no value is written as null, and a floating-point number may be read as
its neighbour.

Writing puts the tokens of the value one after the other, without blanks. So the scanner has to see
where each of them ends. Marks and strings end by themselves. Numbers and words end where something
comes that cannot be part of them, and in the text of a value that is a mark: no two tokens that are
not marks come together (`Token.EndsHere`).

The reader that takes the tokens is a machine that keeps what is still open, and the tokens of a
value take it from where a value may come to where the value is complete, whatever is open around it
(`Json.run_tokens`).
-/

namespace ChartData

/-- **Whether a number is read back** from its text in data. -/
def JsonNumber.ReadsBack (n : JsonNumber) : Prop :=
  Token.readNumber (Token.numberChars n) = some (some n)

instance : DecidablePred JsonNumber.ReadsBack :=
  fun n => inferInstanceAs (Decidable (Token.readNumber (Token.numberChars n) = some (some n)))

/-- Integers are read back. -/
theorem JsonNumber.readsBack_integer (n : Int)
    (h : -0x8000000000000000 ≤ n ∧ n < 0x10000000000000000) : (integer n h).ReadsBack :=
  Token.readNumber_integerDigits n h

namespace Token

/-- **Whether a token is read back** from its text. -/
def ReadsBack : Token → Prop
  | string value => value.isSome
  | number (some n) => n.ReadsBack
  | number none => False
  | _ => True

instance : DecidablePred ReadsBack
  | string value => inferInstanceAs (Decidable (value.isSome = true))
  | number (some n) => inferInstanceAs (Decidable n.ReadsBack)
  | number none => inferInstanceAs (Decidable False)
  | openArray | closeArray | openObject | closeObject | comma | colon | bool _ | null =>
    inferInstanceAs (Decidable True)

/-! ## Steps of the scanner -/

variable {state next : Partial} {c : Char} {cs rest : List Char} {tokens : List Token}

/-- **A token ends** at the end of the text, or where the next character does not belong to it and
is taken as if no token had been begun. -/
theorem scanFrom_end {t : Token} (hend : finish state = some [t])
    (hstep : ∀ c ∈ rest.head?, step state c = (begin c).map fun p => (t :: p.1, p.2)) :
    scanner.scanFrom state rest = (scanner.scanFrom .between rest).map (t :: ·) := by
  cases rest with
  | nil => exact hend
  | cons c rest =>
    rw [scanner.scanFrom_eq_bind, scanner.scanFrom_eq_bind]
    show (step state c).bind _ = Option.map _ ((begin c).bind _)
    rw [hstep c rfl]
    cases begin c with
    | none => rfl
    | some p =>
      show Option.map _ (scanner.scanFrom p.2 rest) =
        Option.map _ (Option.map _ (scanner.scanFrom p.2 rest))
      rw [Option.map_map]
      rfl

/-! ## Strings -/

/-- A string being read that is sound so far. -/
def PartialString.sound (done : List Char) : PartialString := ⟨some done, none⟩

theorem digitValue?_digitChar {n : Nat} (h : n < 16) :
    digitValue? 16 (Nat.digitChar n) = some n := by
  have : ∀ n < 16, digitValue? 16 (Nat.digitChar n) = some n := by decide
  exact this n h

/-- A control character by its number. -/
theorem PartialString.pushUnit_of_control (hc : c.toNat < 32) (done : List Char) :
    (sound done).pushUnit c.toNat = sound (c :: done) := by
  unfold pushUnit sound
  dsimp only
  rw [if_neg (by omega), if_neg (by omega), Char.ofNat_toNat]
  rfl

/-- **A character of a string is read back**, escaped or not. -/
theorem scanFrom_stringChar (c : Char) (done rest : List Char) :
    scanner.scanFrom (.text (.sound done)) (stringChar c ++ rest) =
      scanner.scanFrom (.text (.sound (c :: done))) rest := by
  have escape {d : Char}
      (hd : step (.escape (.sound done)) d = some ([], .text (.sound (c :: done)))) :
      scanner.scanFrom (.text (.sound done)) ('\\' :: d :: rest) =
        scanner.scanFrom (.text (.sound (c :: done))) rest :=
    (scanner.scanFrom_cons_nil rfl).trans (scanner.scanFrom_cons_nil hd)
  unfold stringChar
  split
  · subst c; exact escape rfl
  split
  · subst c; exact escape rfl
  split
  · subst c; exact escape rfl
  split
  · subst c; exact escape rfl
  split
  · subst c; exact escape rfl
  split
  · subst c; exact escape rfl
  split
  · subst c; exact escape rfl
  split
  · next hc =>
    have hhigh := digitValue?_digitChar (show c.toNat / 16 < 16 by omega)
    have hlow := digitValue?_digitChar (show c.toNat % 16 < 16 by omega)
    have hcode : 16 * (16 * 0 + c.toNat / 16) + c.toNat % 16 = c.toNat := by omega
    have hfirst : step (.unit (.sound done) 2 0) (Nat.digitChar (c.toNat / 16)) =
        some ([], .unit (.sound done) 1 (16 * 0 + c.toNat / 16)) := by
      unfold step
      dsimp only
      rw [hhigh]
      rfl
    have hsecond : step (.unit (.sound done) 1 (16 * 0 + c.toNat / 16))
        (Nat.digitChar (c.toNat % 16)) = some ([], .text (.sound (c :: done))) := by
      unfold step
      dsimp only
      rw [hlow, Option.map_some, if_pos (Nat.le_refl 1), hcode,
        PartialString.pushUnit_of_control hc]
    -- the backslash, the letter and two zeros, and then the two digits of the number
    exact (scanner.scanFrom_cons_nil rfl).trans <| (scanner.scanFrom_cons_nil rfl).trans <|
      (scanner.scanFrom_cons_nil rfl).trans <| (scanner.scanFrom_cons_nil rfl).trans <|
      (scanner.scanFrom_cons_nil hfirst).trans (scanner.scanFrom_cons_nil hsecond)
  · next hquote hbackslash _ _ _ _ _ hc =>
    refine scanner.scanFrom_cons_nil ?_
    show step (.text (.sound done)) c = _
    unfold step
    dsimp only
    rw [if_neg hquote, if_neg hbackslash, if_neg hc]
    rfl

theorem scanFrom_stringChars (cs done rest : List Char) :
    scanner.scanFrom (.text (.sound done)) (cs.flatMap stringChar ++ rest) =
      scanner.scanFrom (.text (.sound (cs.reverse ++ done))) rest := by
  induction cs generalizing done with
  | nil => rfl
  | cons c cs ih =>
    rw [List.flatMap_cons, List.append_assoc, scanFrom_stringChar, ih, List.reverse_cons,
      List.append_assoc]
    rfl

/-- **A string is read back.** -/
theorem scanFrom_quoted (s : String) (rest : List Char) :
    scanner.scanFrom .between (quoted s ++ rest) =
      (scanner.scanFrom .between rest).map (string (some s) :: ·) := by
  have hopen : scanner.scanFrom .between (quoted s ++ rest) =
      scanner.scanFrom (.text (.sound [])) (s.toList.flatMap stringChar ++ ('"' :: rest)) := by
    unfold quoted
    rw [List.cons_append, List.cons_append, List.append_assoc]
    exact scanner.scanFrom_cons_nil rfl
  have hfinish : (PartialString.sound s.toList.reverse).finish = some s := by
    unfold PartialString.finish PartialString.sound
    dsimp only
    rw [Option.map_some, List.reverse_reverse, String.ofList_toList]
  have hclose : step (.text (.sound s.toList.reverse)) '"' =
      some ([string (some s)], .between) := by
    rw [← hfinish]
    rfl
  rw [hopen, scanFrom_stringChars, List.append_nil, scanner.scanFrom_cons hclose]
  rfl

/-! ## Numbers and words -/

/-- **Whether a text does not go on** with what could be part of a number or of a word. -/
def EndsHere (rest : List Char) : Prop :=
  ∀ c ∈ rest.head?, isNumeralChar c = false ∧ c.isLower = false

theorem endsHere_nil : EndsHere [] := nofun

theorem endsHere_cons (h : isNumeralChar c = false ∧ c.isLower = false) : EndsHere (c :: rest) := by
  intro d hd
  cases hd
  exact h

/-- The characters of a number are gathered. -/
theorem scanFrom_numeral (h : ∀ c ∈ cs, isNumeralChar c = true) (done rest : List Char) :
    scanner.scanFrom (.numeral done) (cs ++ rest) =
      scanner.scanFrom (.numeral (cs.reverse ++ done)) rest := by
  induction cs generalizing done with
  | nil => rfl
  | cons c cs ih =>
    have hstep : step (.numeral done) c = some ([], .numeral (c :: done)) :=
      if_pos (h c List.mem_cons_self)
    rw [List.cons_append, scanner.scanFrom_cons_nil hstep,
      ih fun d hd => h d (List.mem_cons_of_mem c hd), List.reverse_cons, List.append_assoc]
    rfl

/-- **A number is read back**, where it ends. -/
theorem scanFrom_numberChars {n : JsonNumber} (h : n.ReadsBack) (hr : EndsHere rest) :
    scanner.scanFrom .between (numberChars n ++ rest) =
      (scanner.scanFrom .between rest).map (number (some n) :: ·) := by
  obtain ⟨c, cs, hcs, hc⟩ := numberChars_eq_cons n
  have hall : ∀ d ∈ cs, isNumeralChar d = true := fun d hd =>
    isNumeralChar_of_mem_numberChars (n := n) (by rw [hcs]; exact List.mem_cons_of_mem c hd)
  have hbegin : step .between c = some ([], .numeral [c]) := by
    have hspace : ¬isSpace c = true := by
      intro hspace
      simp only [isSpace, Bool.or_eq_true, beq_iff_eq] at hspace
      rcases hspace with ((rfl | rfl) | rfl) | rfl <;> cases hc
    have hquote : c ≠ '"' := by
      rintro rfl
      cases hc
    show begin c = _
    unfold begin
    rw [if_neg hspace, if_neg hquote, if_pos hc]
  have hread : readNumber (cs.reverse ++ [c]).reverse = some (some n) := by
    rw [List.reverse_append, List.reverse_reverse]
    show readNumber (c :: cs) = _
    rw [← hcs]
    exact h
  rw [hcs, List.cons_append, scanner.scanFrom_cons_nil hbegin, scanFrom_numeral hall]
  refine scanFrom_end ?_ fun d hd => ?_
  · show (readNumber _).map _ = _
    rw [hread]
    rfl
  · unfold step
    dsimp only
    rw [if_neg (by simp [(hr d hd).1]), hread]
    cases begin d <;> rfl

/-- The letters of a word are gathered. -/
theorem scanFrom_letters (h : ∀ c ∈ cs, c.isLower = true) (done rest : List Char) :
    scanner.scanFrom (.word done) (cs ++ rest) =
      scanner.scanFrom (.word (cs.reverse ++ done)) rest := by
  induction cs generalizing done with
  | nil => rfl
  | cons c cs ih =>
    have hstep : step (.word done) c = some ([], .word (c :: done)) :=
      if_pos (h c List.mem_cons_self)
    rw [List.cons_append, scanner.scanFrom_cons_nil hstep,
      ih fun d hd => h d (List.mem_cons_of_mem c hd), List.reverse_cons, List.append_assoc]
    rfl

/-- **A word is read back**, where it ends. -/
theorem scanFrom_word {t : Token} (hbegin : begin c = some ([], .word [c]))
    (hlower : ∀ d ∈ cs, d.isLower = true) (h : readWord (c :: cs) = some t) (hr : EndsHere rest) :
    scanner.scanFrom .between (c :: cs ++ rest) =
      (scanner.scanFrom .between rest).map (t :: ·) := by
  have hread : readWord (cs.reverse ++ [c]).reverse = some t := by
    rw [List.reverse_append, List.reverse_reverse]
    exact h
  have hstep : step .between c = some ([], .word [c]) := hbegin
  rw [List.cons_append, scanner.scanFrom_cons_nil hstep, scanFrom_letters hlower]
  refine scanFrom_end ?_ fun d hd => ?_
  · show (readWord _).map _ = _
    rw [hread]
    rfl
  · unfold step
    dsimp only
    rw [if_neg (by simp [(hr d hd).2]), hread]
    cases begin d <;> rfl

/-! ## The tokens of a value -/

/-- **Whether tokens are read back** in front of a text. -/
def ScansBefore (rest : List Char) (tokens : List Token) : Prop :=
  scanner.scanFrom .between (tokens.flatMap chars ++ rest) =
    (scanner.scanFrom .between rest).map (tokens ++ ·)

theorem ScansBefore.append {later : List Token}
    (h : ScansBefore (later.flatMap chars ++ rest) tokens) (hl : ScansBefore rest later) :
    ScansBefore rest (tokens ++ later) := by
  unfold ScansBefore at *
  rw [List.flatMap_append, List.append_assoc, h, hl, Option.map_map]
  refine congrFun (congrArg _ (funext fun ts => ?_)) _
  exact (List.append_assoc ..).symm

/-- **Whether a token is a mark**, which ends by itself. -/
def IsMark (t : Token) : Prop := t ∈ [openArray, closeArray, openObject, closeObject, comma, colon]

instance : DecidablePred IsMark := fun t =>
  inferInstanceAs (Decidable (t ∈ [openArray, closeArray, openObject, closeObject, comma, colon]))

/-- A mark is one character, and that is the mark. -/
theorem IsMark.exists_char {t : Token} (h : t.IsMark) :
    ∃ c, t.chars = [c] ∧ step .between c = some ([t], .between) ∧
      isNumeralChar c = false ∧ c.isLower = false := by
  simp only [IsMark, List.mem_cons, List.not_mem_nil, or_false] at h
  rcases h with rfl | rfl | rfl | rfl | rfl | rfl <;> exact ⟨_, rfl, rfl, rfl, rfl⟩

/-- Marks are read back. -/
theorem IsMark.readsBack {t : Token} (h : t.IsMark) : t.ReadsBack := by
  simp only [IsMark, List.mem_cons, List.not_mem_nil, or_false] at h
  rcases h with rfl | rfl | rfl | rfl | rfl | rfl <;> trivial

/-- **A mark is read back** in front of any text. -/
theorem scansBefore_mark {t : Token} (h : t.IsMark) (rest : List Char) : ScansBefore rest [t] := by
  obtain ⟨c, hc, hstep, -⟩ := h.exists_char
  unfold ScansBefore
  rw [List.flatMap_singleton, hc]
  exact scanner.scanFrom_cons hstep

theorem ScansBefore.cons {t : Token} (ht : t.IsMark) (h : ScansBefore rest tokens) :
    ScansBefore rest (t :: tokens) :=
  ScansBefore.append (scansBefore_mark ht _) h

/-- In front of a mark a number or a word ends. -/
theorem endsHere_mark {t : Token} (h : t.IsMark) (later : List Token) (rest : List Char) :
    EndsHere ((t :: later).flatMap chars ++ rest) := by
  obtain ⟨c, hc, -, hends⟩ := h.exists_char
  rw [List.flatMap_cons, hc]
  exact endsHere_cons hends

/-- A token that is a word may stand in front of any text that does not go on with it. -/
theorem scansBefore_word {t : Token} (hchars : t.chars = c :: cs)
    (hbegin : begin c = some ([], .word [c])) (hlower : cs.all Char.isLower = true)
    (h : readWord (c :: cs) = some t) (hr : EndsHere rest) : ScansBefore rest [t] := by
  unfold ScansBefore
  rw [List.flatMap_singleton, hchars]
  exact scanFrom_word hbegin (List.all_eq_true.1 hlower) h hr

/-- **A token that is read back** may stand in front of any text that does not go on with it. -/
theorem scansBefore_singleton {t : Token} (h : t.ReadsBack) (hr : EndsHere rest) :
    ScansBefore rest [t] := by
  cases t with
  | openArray | closeArray | openObject | closeObject | comma | colon =>
    exact scansBefore_mark (by decide) rest
  | null => exact scansBefore_word rfl rfl rfl rfl hr
  | bool b =>
    cases b with
    | true => exact scansBefore_word rfl rfl rfl rfl hr
    | false => exact scansBefore_word rfl rfl rfl rfl hr
  | string value =>
    cases value with
    | none => cases h
    | some s =>
      unfold ScansBefore
      rw [List.flatMap_singleton]
      exact scanFrom_quoted s rest
  | number value =>
    cases value with
    | none => cases h
    | some n =>
      unfold ScansBefore
      rw [List.flatMap_singleton]
      exact scanFrom_numberChars h hr

/-- A name and its colon are read back. -/
theorem ScansBefore.name (name : String) (h : ScansBefore rest tokens) :
    ScansBefore rest (string (some name) :: colon :: tokens) := by
  have hcolon : ScansBefore rest (colon :: tokens) := h.cons (by decide)
  have hname : (Token.string (some name)).ReadsBack := rfl
  exact ScansBefore.append (scansBefore_singleton hname (endsHere_mark (by decide) _ _)) hcolon

end Token

namespace Json

open Token

/-- Later items start with a mark. -/
theorem endsHere_laterItemTokens (items : List Json) (rest : List Char) :
    EndsHere ((laterItemTokens items).flatMap chars ++ rest) := by
  cases items with
  | nil => exact endsHere_mark (by decide) [] rest
  | cons item items =>
    rw [laterItemTokens]
    exact endsHere_mark (by decide) _ rest

/-- Later entries start with a mark. -/
theorem endsHere_laterEntryTokens (entries : List (String × Json)) (rest : List Char) :
    EndsHere ((laterEntryTokens entries).flatMap chars ++ rest) := by
  cases entries with
  | nil => exact endsHere_mark (by decide) [] rest
  | cons entry entries =>
    rw [laterEntryTokens]
    exact endsHere_mark (by decide) _ rest

mutual

/-- **The tokens of a value are read back** in front of a text that does not go on with the value,
if each of them is. -/
theorem scansBefore_tokens {rest : List Char} (hr : EndsHere rest) :
    ∀ j : Json, (∀ t ∈ j.tokens, t.ReadsBack) → ScansBefore rest j.tokens
  | null, h | bool _, h | number _, h | string _, h | unreadable, h => by
    rw [tokens] at h ⊢
    exact scansBefore_singleton (h _ (List.mem_singleton_self _)) hr
  | array items, h => by
    rw [tokens] at h ⊢
    exact (scansBefore_itemTokens rest items fun t ht => h t (List.mem_cons_of_mem _ ht)).cons
      (by decide)
  | object entries, h => by
    rw [tokens] at h ⊢
    exact (scansBefore_entryTokens rest entries fun t ht => h t (List.mem_cons_of_mem _ ht)).cons
      (by decide)

theorem scansBefore_itemTokens (rest : List Char) :
    ∀ items : List Json, (∀ t ∈ itemTokens items, t.ReadsBack) → ScansBefore rest (itemTokens items)
  | [], _ => scansBefore_mark (by decide) rest
  | item :: items, h => by
    rw [itemTokens] at h ⊢
    exact (scansBefore_tokens (endsHere_laterItemTokens items rest) item fun t ht =>
      h t (List.mem_append_left _ ht)).append
        (scansBefore_laterItemTokens rest items fun t ht => h t (List.mem_append_right _ ht))

theorem scansBefore_laterItemTokens (rest : List Char) :
    ∀ items : List Json, (∀ t ∈ laterItemTokens items, t.ReadsBack) →
      ScansBefore rest (laterItemTokens items)
  | [], _ => scansBefore_mark (by decide) rest
  | item :: items, h => by
    rw [laterItemTokens] at h ⊢
    refine ScansBefore.cons (by decide) ?_
    exact (scansBefore_tokens (endsHere_laterItemTokens items rest) item fun t ht =>
      h t (List.mem_cons_of_mem _ (List.mem_append_left _ ht))).append
        (scansBefore_laterItemTokens rest items fun t ht =>
          h t (List.mem_cons_of_mem _ (List.mem_append_right _ ht)))

theorem scansBefore_entryTokens (rest : List Char) :
    ∀ entries : List (String × Json), (∀ t ∈ entryTokens entries, t.ReadsBack) →
      ScansBefore rest (entryTokens entries)
  | [], _ => scansBefore_mark (by decide) rest
  | (name, value) :: entries, h => by
    rw [entryTokens] at h ⊢
    refine ScansBefore.name name ?_
    exact (scansBefore_tokens (endsHere_laterEntryTokens entries rest) value fun t ht =>
      h t (List.mem_cons_of_mem _ (List.mem_cons_of_mem _ (List.mem_append_left _ ht)))).append
        (scansBefore_laterEntryTokens rest entries fun t ht =>
          h t (List.mem_cons_of_mem _ (List.mem_cons_of_mem _ (List.mem_append_right _ ht))))

theorem scansBefore_laterEntryTokens (rest : List Char) :
    ∀ entries : List (String × Json), (∀ t ∈ laterEntryTokens entries, t.ReadsBack) →
      ScansBefore rest (laterEntryTokens entries)
  | [], _ => scansBefore_mark (by decide) rest
  | (name, value) :: entries, h => by
    rw [laterEntryTokens, ← entryTokens] at h ⊢
    exact (scansBefore_entryTokens rest ((name, value) :: entries) fun t ht =>
      h t (List.mem_cons_of_mem _ ht)).cons (by decide)

end

/-! ## The reader of tokens -/

variable {around : List Frame} {later : List Token}

/-- A token takes the reader one step. -/
theorem Reading.run_cons {state next : Reading} {t : Token} (h : state.step t = some next)
    (later : List Token) : state.run (t :: later) = next.run later := by
  show (state.step t).bind _ = _
  rw [h]
  rfl

/-- Entries with a name each make an object of them. -/
theorem ofEntries_named (entries : List (String × Json)) :
    ofEntries (entries.reverse.map fun e => (some e.1, e.2)) = object entries := by
  have hmap : (entries.map fun e => (some e.1, e.2)).mapM
      (fun (e : Option String × Json) => e.1.map fun n => (n, e.2)) = some entries := by
    induction entries with
    | nil => rfl
    | cons entry entries ih =>
      rw [List.map_cons, List.mapM_cons, ih]
      rfl
  unfold ofEntries
  rw [← List.map_reverse, List.reverse_reverse, hmap]

mutual

/-- **The tokens of a value take the reader** from where a value may come to where the value is
complete. -/
theorem run_tokens (around : List Frame) (mayClose : Bool) (later : List Token) :
    ∀ j : Json, (Reading.value around mayClose).run (j.tokens ++ later) =
      (Reading.complete j around).run later
  | null | bool _ | number _ | string _ | unreadable => rfl
  | array items => by
    rw [tokens]
    exact (Reading.run_cons rfl _).trans (run_itemTokens around later items)
  | object entries => by
    rw [tokens]
    exact (Reading.run_cons rfl _).trans (run_entryTokens around later entries)

theorem run_itemTokens (around : List Frame) (later : List Token) :
    ∀ items : List Json, (Reading.value (.items [] :: around) true).run (itemTokens items ++ later) =
      (Reading.complete (array items) around).run later
  | [] => rfl
  | item :: items => by
    rw [itemTokens, List.append_assoc, run_tokens]
    exact run_laterItemTokens around later item [] items

theorem run_laterItemTokens (around : List Frame) (later : List Token) (item : Json)
    (done : List Json) :
    ∀ items : List Json,
      (Reading.complete item (.items done :: around)).run (laterItemTokens items ++ later) =
        (Reading.complete (array ((item :: done).reverse ++ items)) around).run later
  | [] => by
    rw [List.append_nil]
    rfl
  | next :: items => by
    rw [laterItemTokens, List.cons_append, List.append_assoc]
    refine (Reading.run_cons rfl _).trans ?_
    rw [run_tokens, run_laterItemTokens around later next (item :: done) items, List.reverse_cons,
      List.append_assoc]
    rfl

theorem run_entryTokens (around : List Frame) (later : List Token) :
    ∀ entries : List (String × Json),
      (Reading.name [] around true).run (entryTokens entries ++ later) =
        (Reading.complete (object entries) around).run later
  | [] => rfl
  | (name, value) :: entries => by
    rw [entryTokens]
    refine (Reading.run_cons rfl _).trans ((Reading.run_cons rfl _).trans ?_)
    show Reading.run _ (tokens value ++ laterEntryTokens entries ++ later) = _
    rw [List.append_assoc, run_tokens]
    exact run_laterEntryTokens around later name value [] entries

theorem run_laterEntryTokens (around : List Frame) (later : List Token) (name : String)
    (value : Json) (done : List (String × Json)) :
    ∀ entries : List (String × Json),
      (Reading.complete value (.entries (done.map fun e => (some e.1, e.2)) (some name) ::
          around)).run (laterEntryTokens entries ++ later) =
        (Reading.complete (object (((name, value) :: done).reverse ++ entries)) around).run later
  | [] => by
    rw [List.append_nil, ← ofEntries_named, List.reverse_reverse]
    rfl
  | (next, v) :: entries => by
    rw [laterEntryTokens]
    refine (Reading.run_cons rfl _).trans <| (Reading.run_cons rfl _).trans <|
      (Reading.run_cons rfl _).trans ?_
    show Reading.run _ (tokens v ++ laterEntryTokens entries ++ later) = _
    rw [List.append_assoc, run_tokens]
    refine (run_laterEntryTokens around later next v ((name, value) :: done) entries).trans ?_
    rw [List.reverse_cons, List.append_assoc]
    rfl

end

/-- **The tokens of a value are read as the value.** -/
theorem ofTokens?_tokens (j : Json) : ofTokens? j.tokens = some j := by
  unfold ofTokens?
  rw [← List.append_nil j.tokens, run_tokens]
  rfl

/-! ## Leaves -/

/-- **Induction over values**: what holds of an array if it holds of its items, and of an object if
it holds of its entries, holds of every value. -/
@[elab_as_elim]
theorem byParts {motive : Json → Prop} (null : motive null) (bool : ∀ b, motive (bool b))
    (number : ∀ n, motive (number n)) (string : ∀ s, motive (string s))
    (array : ∀ items, (∀ j ∈ items, motive j) → motive (array items))
    (object : ∀ entries, (∀ e ∈ entries, motive e.2) → motive (object entries))
    (unreadable : motive unreadable) : ∀ j, motive j
  | .null => null
  | .bool b => bool b
  | .number n => number n
  | .string s => string s
  | .array items =>
    array items fun j _ => byParts null bool number string array object unreadable j
  | .object entries =>
    object entries fun (_, j) _ => byParts null bool number string array object unreadable j
  | .unreadable => unreadable
decreasing_by
  · decreasing_tactic
  · have := List.sizeOf_lt_of_mem ‹_ ∈ entries›
    simp only [Json.object.sizeOf_spec, Prod.mk.sizeOf_spec] at *
    omega

theorem mem_laterItemTokens {t : Token} {items : List Json} (h : t ∈ laterItemTokens items) :
    t.IsMark ∨ ∃ j ∈ items, t ∈ j.tokens := by
  induction items with
  | nil => exact .inl (by rw [List.mem_singleton.1 h]; decide)
  | cons j items ih =>
    rw [laterItemTokens, List.mem_cons, List.mem_append] at h
    rcases h with rfl | h | h
    · exact .inl (by decide)
    · exact .inr ⟨j, List.mem_cons_self, h⟩
    · exact (ih h).imp_right fun ⟨k, hk, ht⟩ => ⟨k, List.mem_cons_of_mem j hk, ht⟩

/-- **A token of an array** is a mark or a token of an item. -/
theorem mem_tokens_array {t : Token} {items : List Json} (h : t ∈ (array items).tokens) :
    t.IsMark ∨ ∃ j ∈ items, t ∈ j.tokens := by
  rw [tokens, List.mem_cons] at h
  rcases h with rfl | h
  · exact .inl (by decide)
  · cases items with
    | nil => exact .inl (by rw [List.mem_singleton.1 h]; decide)
    | cons j items =>
      have h : t ∈ laterItemTokens (j :: items) := by
        rw [laterItemTokens, ← itemTokens]
        exact List.mem_cons_of_mem .comma h
      exact mem_laterItemTokens h

theorem mem_laterEntryTokens {t : Token} {entries : List (String × Json)}
    (h : t ∈ laterEntryTokens entries) :
    t.IsMark ∨ (∃ s, t = .string (some s)) ∨ ∃ e ∈ entries, t ∈ e.2.tokens := by
  induction entries with
  | nil => exact .inl (by rw [List.mem_singleton.1 h]; decide)
  | cons e entries ih =>
    obtain ⟨name, j⟩ := e
    rw [laterEntryTokens, List.mem_cons, List.mem_cons, List.mem_cons, List.mem_append] at h
    rcases h with rfl | rfl | rfl | h | h
    · exact .inl (by decide)
    · exact .inr (.inl ⟨name, rfl⟩)
    · exact .inl (by decide)
    · exact .inr (.inr ⟨(name, j), List.mem_cons_self, h⟩)
    · exact (ih h).imp_right (.imp_right fun ⟨k, hk, ht⟩ => ⟨k, List.mem_cons_of_mem _ hk, ht⟩)

/-- **A token of an object** is a mark, a name or a token of an entry. -/
theorem mem_tokens_object {t : Token} {entries : List (String × Json)}
    (h : t ∈ (object entries).tokens) :
    t.IsMark ∨ (∃ s, t = .string (some s)) ∨ ∃ e ∈ entries, t ∈ e.2.tokens := by
  rw [tokens, List.mem_cons] at h
  rcases h with rfl | h
  · exact .inl (by decide)
  · cases entries with
    | nil => exact .inl (by rw [List.mem_singleton.1 h]; decide)
    | cons e entries =>
      obtain ⟨name, j⟩ := e
      have h : t ∈ laterEntryTokens ((name, j) :: entries) := by
        rw [laterEntryTokens, ← entryTokens]
        exact List.mem_cons_of_mem .comma h
      exact mem_laterEntryTokens h

/-- Every string that is written is sound. -/
theorem string_none_not_mem_tokens (j : Json) : Token.string none ∉ j.tokens := by
  induction j using byParts with
  | null | bool _ | number _ | string _ | unreadable => simp [tokens]
  | array items ih =>
    intro h
    rcases mem_tokens_array h with h | ⟨j, hj, h⟩
    · cases (by decide : ¬(Token.string none).IsMark) h
    · exact ih j hj h
  | object entries ih =>
    intro h
    rcases mem_tokens_object h with h | ⟨s, h⟩ | ⟨e, he, h⟩
    · cases (by decide : ¬(Token.string none).IsMark) h
    · cases h
    · exact ih e he h

/-- **Whether every leaf of a value stands for something**, and so is written as what it is. -/
def Readable (j : Json) : Prop := Token.number none ∉ j.tokens

theorem readable_null : null.Readable := by simp [Readable, tokens]

theorem readable_bool (b : Bool) : (bool b).Readable := by simp [Readable, tokens]

theorem readable_number (n : JsonNumber) : (number n).Readable := by simp [Readable, tokens]

theorem readable_string (s : String) : (string s).Readable := by simp [Readable, tokens]

/-- An array of readable items is readable. -/
theorem readable_array {items : List Json} (h : ∀ j ∈ items, j.Readable) :
    (array items).Readable := by
  intro ht
  rcases mem_tokens_array ht with ht | ⟨j, hj, ht⟩
  · cases (by decide : ¬(Token.number none).IsMark) ht
  · exact h j hj ht

/-- An object of readable entries is readable. -/
theorem readable_object {entries : List (String × Json)} (h : ∀ e ∈ entries, e.2.Readable) :
    (object entries).Readable := by
  intro ht
  rcases mem_tokens_object ht with ht | ⟨s, ht⟩ | ⟨e, he, ht⟩
  · cases (by decide : ¬(Token.number none).IsMark) ht
  · cases ht
  · exact h e he ht

/-! ## Whole texts -/

/-- **Whether a value is read back token by token.** -/
def ReadsBack (j : Json) : Prop := ∀ t ∈ j.tokens, t.ReadsBack

instance : DecidablePred ReadsBack :=
  fun j => inferInstanceAs (Decidable (∀ t ∈ j.tokens, t.ReadsBack))

theorem readsBack_string (s : String) : (string s).ReadsBack := by
  intro t ht
  rw [List.mem_singleton.1 ht]
  rfl

/-- An object is read back if its entries are. -/
theorem readsBack_object {entries : List (String × Json)} (h : ∀ e ∈ entries, e.2.ReadsBack) :
    (object entries).ReadsBack := by
  intro t ht
  rcases mem_tokens_object ht with ht | ⟨s, rfl⟩ | ⟨e, he, ht⟩
  · exact ht.readsBack
  · rfl
  · exact h e he t ht

/-- **A value that is read back token by token is read back from its text.** -/
theorem ReadsBack.ofText?_text {j : Json} (h : j.ReadsBack) : ofText? j.text = some j := by
  have hscan : ScansBefore [] j.tokens := scansBefore_tokens endsHere_nil j h
  have hnil : scanner.scanFrom .between [] = some [] := rfl
  unfold ScansBefore at hscan
  rw [List.append_nil, hnil, Option.map_some, List.append_nil] at hscan
  unfold ofText? text scan
  rw [String.toList_ofList, hscan]
  exact ofTokens?_tokens j

/-- **A value is read back from its text** if its leaves stand for something and its floating-point
numbers are read back. -/
theorem ofText?_text {j : Json} (hj : j.Readable)
    (hx : ∀ x, Token.number (some (.real x)) ∈ j.tokens → (JsonNumber.real x).ReadsBack) :
    ofText? j.text = some j := by
  refine ReadsBack.ofText?_text fun t ht => ?_
  cases t with
  | string value =>
    cases value with
    | none => exact absurd ht j.string_none_not_mem_tokens
    | some s => rfl
  | number value =>
    rcases value with _ | ⟨n, h⟩ | x
    · exact absurd ht hj
    · exact JsonNumber.readsBack_integer n h
    · exact hx x ht
  | _ => trivial

end Json

end ChartData
