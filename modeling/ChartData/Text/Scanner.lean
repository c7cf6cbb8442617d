/-!
# Scanners

A text is taken apart into tokens one character at a time. What has been read of the token at hand
is the state of the scanner, and a character either extends the token, ends it, or fits nowhere; the
end of the text ends it as well. What the states and the tokens are is left open (`Scanner`).

A scanner never goes back, so the tokens that a character completes come before those of what
follows it, whatever that is (`Scanner.scanFrom_cons`). All that is proved of a text is proved from
this, a character at a time.
-/

namespace ChartData

/-- **A scanner of texts**, with one character of foresight. -/
structure Scanner (State Token : Type) where
  /-- One character: the tokens that it completes and the token that it leaves begun. -/
  step : State → Char → Option (List Token × State)
  /-- What the end of the text makes of the token at hand. -/
  finish : State → Option (List Token)

namespace Scanner

variable {State Token : Type} (m : Scanner State Token) {state next : State} {c : Char}
  {cs : List Char} {tokens : List Token}

/-- **The tokens of a text**, given the token already begun. -/
def scanFrom : State → List Char → Option (List Token)
  | state, [] => m.finish state
  | state, c :: cs =>
    match m.step state c with
    | none => none
    | some (tokens, next) => (scanFrom next cs).map (tokens ++ ·)

/-- Where the next character fits, the rest of the text has to fit as well. -/
theorem scanFrom_eq_bind (state : State) (c : Char) (cs : List Char) :
    m.scanFrom state (c :: cs) =
      (m.step state c).bind fun p => (m.scanFrom p.2 cs).map (p.1 ++ ·) := by
  rw [scanFrom]
  cases m.step state c <;> rfl

/-- **The tokens that a character completes come before those of the rest.** -/
theorem scanFrom_cons (h : m.step state c = some (tokens, next)) :
    m.scanFrom state (c :: cs) = (m.scanFrom next cs).map (tokens ++ ·) := by
  rw [scanFrom_eq_bind, h]
  rfl

/-- A character that completes one token. -/
theorem scanFrom_cons_singleton {t : Token} (h : m.step state c = some ([t], next)) :
    m.scanFrom state (c :: cs) = (m.scanFrom next cs).map (t :: ·) :=
  m.scanFrom_cons h

/-- A character that completes no token is passed. -/
theorem scanFrom_cons_nil (h : m.step state c = some ([], next)) :
    m.scanFrom state (c :: cs) = m.scanFrom next cs := by
  rw [m.scanFrom_cons h]
  exact Option.map_id_apply

/-- Where two states take the next character alike, they scan alike. -/
theorem scanFrom_congr {state' : State} (h : m.step state c = m.step state' c) (cs : List Char) :
    m.scanFrom state (c :: cs) = m.scanFrom state' (c :: cs) := by
  rw [scanFrom_eq_bind, scanFrom_eq_bind, h]

end Scanner

end ChartData
