import ChartData.Proofs.QuotedText
import ChartData.Proofs.ScalarText
import ChartData.Settings.File

/-!
# Documents of sections read back

A document that consists of headers, each with lines under it that define names, is read as the
tables that it spells (`Toml.leads_section`, `Toml.Leads.ofText?_text`).

Every line is read from the beginning of a line to the beginning of the next, so what a piece of a
document does is to lead from one such place to another (`Toml.Leads`). The place is what has been
defined so far and the header in force, and pieces one after the other lead where they lead in turn.
For a line it has to be known that its value is read as far as the end of the line and no further
(`Toml.StandsFor`); words, numbers and quoted texts are.
-/

namespace ChartData

namespace TomlToken

variable {c : Char} {cs text : List Char} {tokens : List TomlToken}

/-! ## Tokens of a text -/

/-- **The tokens of a text**, whatever comes after it. -/
structure ScansAs (text : List Char) (tokens : List TomlToken) : Prop where
  /-- The text has no carriage returns. -/
  noReturn : '\r' ∉ text
  /-- What comes after the text has its own tokens. -/
  scan (rest : List Char) :
    scanner.scanFrom .between (text ++ rest) = (scanner.scanFrom .between rest).map (tokens ++ ·)

theorem ScansAs.append {text' : List Char} {tokens' : List TomlToken} (h : ScansAs text tokens)
    (h' : ScansAs text' tokens') : ScansAs (text ++ text') (tokens ++ tokens') where
  noReturn hmem := (List.mem_append.1 hmem).elim h.noReturn h'.noReturn
  scan rest := by
    rw [List.append_assoc, h.scan, h'.scan, Option.map_map]
    exact congrArg (Option.map · _) (funext fun _ => (List.append_assoc _ _ _).symm)

theorem ScansAs.nil : ScansAs [] [] where
  noReturn := List.not_mem_nil
  scan _ := Option.map_id_apply.symm

/-- A mark is a token by itself. -/
theorem scansAs_mark {t : TomlToken} (hbegin : begin c = some ([t], .between)) :
    ScansAs [c] [t] where
  noReturn hmem := by
    rw [← List.mem_singleton.1 hmem] at hbegin
    cases hbegin
  scan rest :=
    have hstep : step .between c = some ([t], .between) := hbegin
    scanner.scanFrom_cons hstep

/-- The tokens of a whole text. -/
theorem ScansAs.scan_eq (h : ScansAs text tokens) : TomlToken.scan text = some tokens := by
  have hreturns {cs : List Char} (hcs : '\r' ∉ cs) : returnsAreLineEnds cs = true := by
    fun_induction returnsAreLineEnds cs with
    | case1 => rfl
    | case2 rest ih => exact absurd List.mem_cons_self hcs
    | case3 c rest _ ih => exact ih fun hmem => hcs (List.mem_cons_of_mem c hmem)
  have hscan := h.scan []
  rw [List.append_nil] at hscan
  unfold TomlToken.scan
  rw [if_pos (hreturns h.noReturn), hscan]
  exact congrArg some (List.append_nil tokens)

/-! ### Words -/

/-- **Whether a character may stand in a bare key.** Such characters make up every word that is
written: names, digits, and the sign of a number. -/
def isBare (c : Char) : Bool := c.isAlphanum || c == '_' || c == '-'

theorem isBareKey_iff : Toml.isBareKey cs = true ↔ cs ≠ [] ∧ ∀ c ∈ cs, isBare c = true := by
  unfold Toml.isBareKey
  rw [Bool.and_eq_true, List.all_eq_true, Bool.not_eq_true', List.isEmpty_eq_false_iff]
  rfl

theorem ne_of_isBare {d : Char} (hc : isBare c = true) (hd : isBare d = false) : c ≠ d := by
  rintro rfl
  rw [hc] at hd
  cases hd

theorem begin_of_isBare (h : isBare c = true) : begin c = some ([], .word [c]) := by
  unfold begin
  split
  case h_13 =>
    exact if_neg fun hblank => hblank.elim (ne_of_isBare h rfl) (ne_of_isBare h rfl)
  all_goals cases h

theorem endsWord_of_isBare (h : isBare c = true) : endsWord c = false := by
  have hmarks : (".=,[]\x7b\x7d \t\n\r#".toList.all fun d => !isBare d) = true := by decide
  refine Bool.eq_false_iff.2 fun hends => ?_
  have hc := List.all_eq_true.1 hmarks c (List.contains_iff_mem.1 hends)
  rw [h] at hc
  cases hc

/-- The characters of a word are gathered. -/
theorem scanFrom_wordChars (h : ∀ c ∈ cs, isBare c = true) (soFar rest : List Char) :
    scanner.scanFrom (.word soFar) (cs ++ rest) =
      scanner.scanFrom (.word (cs.reverse ++ soFar)) rest := by
  induction cs generalizing soFar with
  | nil => rfl
  | cons c cs ih =>
    have hstep : step (.word soFar) c = some ([], .word (c :: soFar)) :=
      if_neg (Bool.eq_false_iff.1 (endsWord_of_isBare (h c List.mem_cons_self)))
    rw [List.cons_append, scanner.scanFrom_cons_nil hstep,
      ih fun d hd => h d (List.mem_cons_of_mem c hd), List.reverse_cons, List.append_assoc]
    rfl

/-- **A word and the mark that ends it.** -/
theorem scansAs_word {t : TomlToken} (h : Toml.isBareKey cs = true) (hends : endsWord c = true)
    (hbegin : begin c = some ([t], .between)) : ScansAs (cs ++ [c]) [word cs, t] where
  noReturn hmem := by
    rcases List.mem_append.1 hmem with hmem | hmem
    · cases (isBareKey_iff.1 h).2 _ hmem
    · exact (scansAs_mark hbegin).noReturn hmem
  scan rest := by
    obtain ⟨hne, hbare⟩ := isBareKey_iff.1 h
    obtain ⟨d, ds, rfl⟩ := List.exists_cons_of_ne_nil hne
    have hfirst : step .between d = some ([], .word [d]) :=
      begin_of_isBare (hbare d List.mem_cons_self)
    have hlast : step (.word (ds.reverse ++ [d])) c = some ([word (d :: ds), t], .between) := by
      unfold step
      dsimp only
      rw [if_pos hends, hbegin, List.reverse_append, List.reverse_reverse]
      rfl
    rw [List.append_assoc]
    exact (scanner.scanFrom_cons_nil hfirst).trans <|
      (scanFrom_wordChars (fun e he => hbare e (List.mem_cons_of_mem d he)) [d] _).trans <|
      scanner.scanFrom_cons hlast

end TomlToken

namespace Toml

open TomlToken (ScansAs isBareKey_iff)

variable {r next : Reading} {tokens later : List TomlToken} {text : List Char} {v : Toml}

/-! ## Values at the end of a line -/

theorem Reading.run_cons {t : TomlToken} (h : r.step t = some next) (later : List TomlToken) :
    r.run (t :: later) = next.run later := by
  unfold run
  rw [List.foldlM_cons, h]
  rfl

theorem Reading.run_append (r : Reading) (tokens later : List TomlToken) :
    r.run (tokens ++ later) = (r.run tokens).bind (·.run later) :=
  List.foldlM_append

theorem Reading.run_singleton (r : Reading) (t : TomlToken) : r.run [t] = r.step t := by
  unfold run
  rw [List.foldlM_cons]
  exact bind_pure _

/-- **Whether a text stands for a value** where the line ends after it: it is read that far, and
what is read is the value. -/
def StandsFor (text : List Char) (v : Toml) : Prop :=
  ∃ tokens, ScansAs (text ++ ['\n']) tokens ∧
    ∀ r : Reading, (r.expect (.value [])).run tokens = r.defineValue v .line

/-- A quoted text stands for the text. -/
theorem standsFor_quotedText (s : String) : StandsFor (quotedText s).toList (string s) := by
  refine ⟨[.string s (Quotes.best s.toList).tripled, .newline], ⟨?_, fun rest => ?_⟩, fun r => ?_⟩
  · rintro hmem
    rcases List.mem_append.1 hmem with hmem | hmem
    · exact TomlToken.return_not_mem_quotedText s hmem
    · cases List.mem_singleton.1 hmem
  · rw [List.append_assoc]
    exact (TomlToken.scanFrom_quotedText s rest).trans <| by
      rw [TomlToken.scanFrom_newline, Option.map_map]
      rfl
  · have hstring : (r.expect (.value [])).step (.string s (Quotes.best s.toList).tripled) =
        some (r.expect (.complete (string s) [])) := rfl
    rw [Reading.run_cons hstring, Reading.run_singleton]
    rfl

/-- The end of the line ends a word and the value that the word stands for. -/
theorem step_scalar_newline {cs : List Char} (hv : ofWord? cs = some v) (r : Reading) :
    (r.expect (.scalar cs [])).step .newline = r.defineValue v .line := by
  show (r.expect (.scalar cs [])).afterWord cs [] .newline = _
  unfold Reading.afterWord
  rw [hv]
  rfl

/-- **A word stands for its value.** -/
theorem standsFor_word (h : isBareKey text = true) (hv : ofWord? text = some v) :
    StandsFor text v := by
  refine ⟨[.word text, .newline], TomlToken.scansAs_word h rfl rfl, fun r => ?_⟩
  have hword : (r.expect (.value [])).step (.word text) = some (r.expect (.scalar text [])) := rfl
  rw [Reading.run_cons hword, Reading.run_singleton, step_scalar_newline hv]

/-- **Two words with a dot between them stand for the value of the whole.** -/
theorem standsFor_words {whole fraction : List Char} (hwhole : isBareKey whole = true)
    (hfraction : isBareKey fraction = true) (hv : ofWord? (whole ++ '.' :: fraction) = some v) :
    StandsFor (whole ++ '.' :: fraction) v := by
  have hscans : ScansAs ((whole ++ ['.']) ++ (fraction ++ ['\n']))
      [.word whole, .dot, .word fraction, .newline] :=
    (TomlToken.scansAs_word hwhole rfl rfl).append (TomlToken.scansAs_word hfraction rfl rfl)
  have htext : (whole ++ ['.']) ++ (fraction ++ ['\n']) = (whole ++ '.' :: fraction) ++ ['\n'] := by
    rw [List.append_assoc, List.append_assoc]
    rfl
  rw [htext] at hscans
  refine ⟨_, hscans, fun r => ?_⟩
  have hword : (r.expect (.value [])).step (.word whole) = some (r.expect (.scalar whole [])) := rfl
  have hdot : (r.expect (.scalar whole [])).step .dot =
      some (r.expect (.scalar (whole ++ ['.']) [])) := rfl
  have hmore : (r.expect (.scalar (whole ++ ['.']) [])).step (.word fraction) =
      some (r.expect (.scalar (whole ++ ['.'] ++ fraction) [])) := rfl
  rw [Reading.run_cons hword, Reading.run_cons hdot, Reading.run_cons hmore, Reading.run_singleton,
    List.append_assoc, step_scalar_newline]
  exact hv

/-- Digits are a word, also with a minus sign in front. -/
theorem isBareKey_signed {cs : List Char} (negative : Bool) (hne : cs ≠ [])
    (h : ∀ c ∈ cs, c.isDigit = true) : isBareKey (signChars negative ++ cs) = true := by
  refine isBareKey_iff.2 ⟨fun hnil => hne (List.append_eq_nil_iff.1 hnil).2, fun c hc => ?_⟩
  unfold TomlToken.isBare Char.isAlphanum
  rcases List.mem_append.1 hc with hc | hc
  · rw [eq_minus_of_mem_signChars hc]
    rfl
  · rw [h c hc, Bool.or_true]
    rfl

/-- **The digits of a whole number stand for it.** -/
theorem standsFor_repr {n : Nat} (h : inIntegerRange n = true) :
    StandsFor n.repr.toList (integer n) := by
  have hrepr : n.repr.toList = Nat.toDigits 10 n := String.toList_ofList
  rw [hrepr]
  exact standsFor_word
    (isBareKey_signed false Nat.toDigits_ne_nil fun _ => isDigit_of_mem_toDigits)
    (ofWord?_toDigits h)

/-- A truth value stands for itself. -/
theorem standsFor_boolText (b : Bool) :
    StandsFor (Settings.boolText b).toList (boolean b) := by
  cases b with
  | true => exact standsFor_word rfl rfl
  | false => exact standsFor_word rfl rfl

/-- **A floating-point number stands for itself.** -/
theorem standsFor_realText (x : Binary64) : StandsFor (Settings.realText x).toList (real x) := by
  cases x with
  | finite x =>
    have hword : ofWord? (x.chars Settings.numberLayout) = some (real (.finite x)) :=
      ofWord?_chars rfl
    have htext : (Settings.realText (.finite x)).toList = x.chars Settings.numberLayout :=
      String.toList_ofList
    rw [Finite64.chars_of_positional rfl, ← List.append_assoc] at hword htext
    rw [htext]
    exact standsFor_words (isBareKey_signed _ x.wholePart_ne_nil x.isDigit_of_mem_wholePart)
      (isBareKey_signed false x.fractionPart_ne_nil x.isDigit_of_mem_fractionPart) hword
  | infinite negative =>
    cases negative with
    | true => exact standsFor_word rfl rfl
    | false => exact standsFor_word rfl rfl
  | nan => exact standsFor_word rfl rfl

/-! ## From line to line -/

/-- **A place at the beginning of a line**: what has been defined so far and the header in force. -/
structure Place where
  /-- What has been defined so far. -/
  document : Entries
  /-- The header in force. -/
  under : List String

/-- The reader at a place, with what it keeps of the last key. -/
def Place.reading (p : Place) (path : List String) (name : String) : Reading :=
  ⟨p.document, p.under, path, name, .line⟩

/-- **Whether a text leads from one place to another.** -/
def Leads (text : String) (p q : Place) : Prop :=
  ∃ tokens, ScansAs text.toList tokens ∧
    ∀ path name, ∃ path' name', (p.reading path name).run tokens = some (q.reading path' name')

variable {p q : Place} {document : Entries} {name header : String}

/-- Texts one after the other lead on and on. -/
theorem Leads.append {text more : String} {p' : Place} (h : Leads text p q)
    (h' : Leads more q p') : Leads (text ++ more) p p' := by
  obtain ⟨tokens, hscans, hrun⟩ := h
  obtain ⟨tokens', hscans', hrun'⟩ := h'
  refine ⟨tokens ++ tokens', ?_, fun path name => ?_⟩
  · rw [String.toList_append]
    exact hscans.append hscans'
  · obtain ⟨path', name', h⟩ := hrun path name
    obtain ⟨path'', name'', h'⟩ := hrun' path' name'
    refine ⟨path'', name'', ?_⟩
    rw [Reading.run_append, h]
    exact h'

theorem leads_empty (p : Place) : Leads "" p p :=
  ⟨[], .nil, fun path name => ⟨path, name, rfl⟩⟩

/-- An empty line leads nowhere else. -/
theorem leads_emptyLine (p : Place) : Leads "\n" p p :=
  ⟨[.newline], TomlToken.scansAs_mark rfl, fun path name => ⟨path, name, rfl⟩⟩

/-- A name is read as a key. -/
theorem push_name (h : isBareKey name.toList = true) :
    PartialKey.empty.push (.word name.toList) = some ⟨[], some name⟩ := by
  unfold PartialKey.push
  dsimp only
  rw [String.ofList_toList]
  exact if_pos ⟨rfl, h⟩

/-- **A line defines its name.** -/
theorem leads_line {value : String} (hname : isBareKey name.toList = true)
    (hvalue : StandsFor value.toList v)
    (hdefine : defineUnder p.under [] name v p.document = some document) :
    Leads (Settings.line name value) p ⟨document, p.under⟩ := by
  obtain ⟨tokens, hscans, hrun⟩ := hvalue
  have htext : (Settings.line name value).toList =
      ((name.toList ++ [' ']) ++ (['='] ++ [' '])) ++ (value.toList ++ ['\n']) := by
    unfold Settings.line
    simp only [String.toList_append, List.append_assoc]
    rfl
  refine ⟨([.word name.toList, .blank ' '] ++ [.equals, .blank ' ']) ++ tokens, ?_,
    fun path last => ⟨[], name, ?_⟩⟩
  · rw [htext]
    exact ((TomlToken.scansAs_word hname rfl rfl).append
      ((TomlToken.scansAs_mark rfl).append (TomlToken.scansAs_mark rfl))).append hscans
  · have hkey : (p.reading path last).step (.word name.toList) =
        some ((p.reading path last).expect (.key ⟨[], some name⟩)) := by
      show (PartialKey.empty.push (.word name.toList)).map _ = _
      rw [push_name hname]
      rfl
    have hblank : ((p.reading path last).expect (.key ⟨[], some name⟩)).step (.blank ' ') =
        some ((p.reading path last).expect (.key ⟨[], some name⟩)) := rfl
    have hequals : ((p.reading path last).expect (.key ⟨[], some name⟩)).step .equals =
        some ((p.reading [] name).expect (.value [])) := rfl
    have hblank' : ((p.reading [] name).expect (.value [])).step (.blank ' ') =
        some ((p.reading [] name).expect (.value [])) := rfl
    exact (Reading.run_cons hkey _).trans <| (Reading.run_cons hblank _).trans <|
      (Reading.run_cons hequals _).trans <| (Reading.run_cons hblank' _).trans <|
      (hrun _).trans (congrArg (Option.map _) hdefine)

/-- **A header opens its table.** -/
theorem leads_header (hheader : isBareKey header.toList = true)
    (hopen : openTable [] header p.document = some document) :
    Leads ("[" ++ header ++ "]\n") p ⟨document, [header]⟩ := by
  have htext : ("[" ++ header ++ "]\n").toList = ['['] ++ ((header.toList ++ [']']) ++ ['\n']) := by
    simp only [String.toList_append, List.append_assoc]
    rfl
  refine ⟨[.openBracket] ++ ([.word header.toList, .closeBracket] ++ [.newline]), ?_,
    fun path last => ⟨path, last, ?_⟩⟩
  · rw [htext]
    exact (TomlToken.scansAs_mark rfl).append
      ((TomlToken.scansAs_word hheader rfl rfl).append (TomlToken.scansAs_mark rfl))
  · have hbracket : (p.reading path last).step .openBracket =
        some ((p.reading path last).expect (.header .empty true)) := rfl
    have hname : ((p.reading path last).expect (.header .empty true)).step (.word header.toList) =
        some ((p.reading path last).expect (.header ⟨[], some header⟩ false)) := by
      show (PartialKey.empty.push (.word header.toList)).map _ = _
      rw [push_name hheader]
      rfl
    have hclose : ((p.reading path last).expect (.header ⟨[], some header⟩ false)).step
        .closeBracket = some ⟨document, [header], path, last, .lineEnd⟩ :=
      congrArg (Option.map _) hopen
    exact (Reading.run_cons hbracket _).trans <| (Reading.run_cons hname _).trans <|
      (Reading.run_cons hclose _).trans (Reading.run_singleton _ _)

/-! ## Sections -/

/-- A name that is new is put at the end. -/
theorem updateEntry_of_not_mem {change : Option Toml → Option Toml} {entries : Entries}
    (h : name ∉ entries.map Prod.fst) :
    updateEntry name change entries = (change none).map fun v => entries ++ [(name, v)] := by
  induction entries with
  | nil => rfl
  | cons entry entries ih =>
    obtain ⟨other, value⟩ := entry
    obtain ⟨hother, hrest⟩ := not_or.1 fun hmem => h (List.mem_cons.2 hmem)
    unfold updateEntry
    rw [if_neg fun heq => hother heq.symm, ih hrest, Option.map_map]
    rfl

/-- What stands under the last name is changed where it stands. -/
theorem updateEntry_last {change : Option Toml → Option Toml} {entries : Entries}
    (h : name ∉ entries.map Prod.fst) :
    updateEntry name change (entries ++ [(name, v)]) =
      (change (some v)).map fun v => entries ++ [(name, v)] := by
  induction entries with
  | nil => exact if_pos rfl
  | cons entry entries ih =>
    obtain ⟨other, value⟩ := entry
    obtain ⟨hother, hrest⟩ := not_or.1 fun hmem => h (List.mem_cons.2 hmem)
    show updateEntry name change ((other, value) :: (entries ++ [(name, v)])) = _
    unfold updateEntry
    rw [if_neg fun heq => hother heq.symm, ih hrest, Option.map_map]
    rfl

/-- A new header opens an empty table. -/
theorem openTable_of_not_mem {entries : Entries} (h : header ∉ entries.map Prod.fst) :
    openTable [] header entries = some (entries ++ [(header, table .header [])]) :=
  updateEntry_of_not_mem h

/-- **A new name is defined in the table of the last header.** -/
theorem defineUnder_last {before inner : Entries} (hheader : header ∉ before.map Prod.fst)
    (hname : name ∉ inner.map Prod.fst) :
    defineUnder [header] [] name v (before ++ [(header, table .header inner)]) =
      some (before ++ [(header, table .header (inner ++ [(name, v)]))]) := by
  have hadd : addNew name v inner = some (inner ++ [(name, v)]) := updateEntry_of_not_mem hname
  have hchange : descend .implied (define [] name v) [] .header inner =
      some (inner ++ [(name, v)]) := hadd
  unfold defineUnder descend
  rw [updateEntry_last hheader]
  dsimp only
  rw [if_neg (by decide), if_neg (by decide), hchange]
  rfl

/-- **A definition in a section**: a name, and the text and the value of what stands there. -/
structure Definition where
  /-- The name. -/
  name : String
  /-- The text of the value. -/
  text : String
  /-- The value. -/
  value : Toml
  /-- The name needs no quotes. -/
  isBareKey_name : isBareKey name.toList = true
  /-- The text stands for the value. -/
  standsFor : StandsFor text.toList value

/-- The lines of definitions. -/
def linesText (definitions : List Definition) : String :=
  definitions.foldr (fun d text => Settings.line d.name d.text ++ text) ""

/-- The entries that are defined. -/
def entriesOf (definitions : List Definition) : Entries :=
  definitions.map fun d => (d.name, d.value)

/-- **A section**: a header and the lines of definitions. -/
def sectionText (header : String) (definitions : List Definition) : String :=
  "[" ++ header ++ "]\n" ++ linesText definitions

/-- The lines of definitions are defined in turn, under names that are new. -/
theorem leads_lines {before inner : Entries} (hheader : header ∉ before.map Prod.fst)
    {definitions : List Definition}
    (hnames : (inner.map Prod.fst ++ definitions.map Definition.name).Nodup) :
    Leads (linesText definitions) ⟨before ++ [(header, table .header inner)], [header]⟩
      ⟨before ++ [(header, table .header (inner ++ entriesOf definitions))], [header]⟩ := by
  induction definitions generalizing inner with
  | nil =>
    have hnil : inner ++ entriesOf [] = inner := List.append_nil _
    rw [hnil]
    exact leads_empty _
  | cons d definitions ih =>
    have hnew : d.name ∉ inner.map Prod.fst := fun hmem =>
      (List.nodup_append.1 hnames).2.2 _ hmem _ List.mem_cons_self rfl
    have hrest : ((inner ++ [(d.name, d.value)]).map Prod.fst ++
        definitions.map Definition.name).Nodup := by
      rw [List.map_append, List.append_assoc]
      exact hnames
    have hinner : inner ++ entriesOf (d :: definitions) =
        (inner ++ [(d.name, d.value)]) ++ entriesOf definitions := by
      rw [List.append_assoc]
      rfl
    rw [hinner]
    exact (leads_line d.isBareKey_name d.standsFor (defineUnder_last hheader hnew)).append
      (ih hrest)

/-- **A section defines a table**, if no name in it is defined twice. -/
theorem leads_section {before : Entries} (under : List String)
    (hkey : isBareKey header.toList = true) (hheader : header ∉ before.map Prod.fst)
    {definitions : List Definition} (hnames : (definitions.map Definition.name).Nodup) :
    Leads (sectionText header definitions) ⟨before, under⟩
      ⟨before ++ [(header, table .header (entriesOf definitions))], [header]⟩ :=
  (leads_header hkey (openTable_of_not_mem hheader)).append (leads_lines hheader hnames)

/-- **A document is read as what it leads to.** -/
theorem Leads.ofText?_text {text : String} {document : Entries} {under : List String}
    (h : Leads text ⟨[], []⟩ ⟨document, under⟩)
    (hmark : text.toList.head? ≠ some (Char.ofNat 0xFEFF)) :
    ofText? text = some (table .header document) := by
  obtain ⟨tokens, hscans, hrun⟩ := h
  obtain ⟨path, name, hrun⟩ := hrun [] ""
  have htokens : ofTokens? tokens = some document := by
    have hend : Reading.start.run (tokens ++ [.newline]) =
        some (Place.reading ⟨document, under⟩ path name) := by
      rw [Reading.run_append]
      exact congrArg (Option.bind · _) hrun
    unfold ofTokens?
    rw [hend]
    rfl
  unfold ofText?
  dsimp only
  rw [if_neg hmark, hscans.scan_eq]
  exact congrArg (Option.map _) htokens

end Toml

end ChartData
