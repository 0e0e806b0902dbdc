import TextAdventure.Data.LoadError

/-!
# Readers

Adventure data is read from the front of a list of tokens.  A reader either gives a value with the
tokens after it, or refuses the data.

Main results:

- Definition `Reader` with `Reader.number`, `Reader.quoted` and `Reader.natural`: single tokens.
- Definitions `Reader.quotedRun` and `Reader.table`: runs of strings, and tables of known size.
-/

namespace TextAdventure

/-- Reads a value from the front of a list of tokens. -/
abbrev Reader (α : Type) := StateT (List Token) (Except LoadError) α

namespace Reader

/-- Refuse the data. -/
def fail (e : LoadError) : Reader α :=
  fun _ => .error e

/-- The next token. -/
def token (place : LoadError.Section) : Reader Token
  | [] => .error (.truncated place)
  | t :: rest => .ok (t, rest)

/-- The next token, which has to be a number. -/
def number (place : LoadError.Section) : Reader Int := do
  let t ← token place
  match t.lexeme with
  | .number n => return n
  | found => fail (.wrongKind place t.line .number found)

/-- The next token, which has to be a quoted string. -/
def quoted (place : LoadError.Section) : Reader String := do
  let t ← token place
  match t.lexeme with
  | .quoted s => return s
  | found => fail (.wrongKind place t.line .quoted found)

/-- A number that satisfies a condition, as a natural number. -/
def natural (place : LoadError.Section) (field : LoadError.Field) (ok : Nat → Bool) :
    Reader Nat := do
  match ← number place with
  | .ofNat n => if ok n then return n else fail (.invalidValue field n)
  | value => fail (.invalidValue field value)

/-- A number that is not negative. -/
def count (place : LoadError.Section) (field : LoadError.Field) : Reader Nat :=
  natural place field fun _ => true

/-- The quoted strings up to the first token of another kind, but no more than `limit`. -/
def quotedUpTo : Nat → List Token → List String × List Token
  | n + 1, ⟨.quoted s, _⟩ :: rest =>
    let (texts, rest) := quotedUpTo n rest
    (s :: texts, rest)
  | _, tokens => ([], tokens)

/-- The quoted strings up to the first token of another kind. -/
def quotedRun : Reader (List String) :=
  fun tokens => .ok (quotedUpTo tokens.length tokens)

/-- So many entries of a table, numbered from `start` on. -/
def table (entry : Nat → Reader α) (start : Nat) : Nat → Reader (List α)
  | 0 => return []
  | n + 1 => do
    let a ← entry start
    let rest ← table entry (start + 1) n
    return a :: rest

/-! ## Single tokens -/

/-- A number that is not negative and satisfies the condition is read off the front. -/
theorem natural_cons {place : LoadError.Section} {field : LoadError.Field} {ok : Nat → Bool}
    {n : Nat} (h : ok n = true) (line : Nat) (rest : List Token) :
    natural place field ok (⟨.number n, line⟩ :: rest) = .ok (n, rest) := by
  show (if ok n = true then (pure n : Reader Nat) else _) rest = _
  rw [if_pos h]
  rfl

/-- No more strings are taken than the limit allows. -/
theorem length_quotedUpTo_le (limit : Nat) (tokens : List Token) :
    (quotedUpTo limit tokens).1.length ≤ limit := by
  fun_induction quotedUpTo limit tokens with
  | case1 n s line rest texts rest' heq ih =>
    rw [heq] at ih
    simpa using ih
  | case2 => simp

end Reader

end TextAdventure
