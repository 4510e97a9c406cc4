import Opcodes.Text.Quote
import Opcodes.Text.Numeral
import Opcodes.Text.Ranges
import Mathlib.Tactic.SplitIfs
import Opcodes.Proofs.Digits
/-!
# Reading the generated source: tokens

The generated module is Rust source, so what it defines is what a reader of that language finds
in it. This module reads one line of such source into tokens: words (identifiers and keywords),
integer literals as written, string literals by the text they denote, and single punctuation
characters. White space separates tokens, and a `//` comment runs to the end of the line.

The reader is a machine with one state per kind of token in progress (`Opcodes.Source.Lexer`),
stepped by `Opcodes.Source.step` over the characters of the line. It covers the part of the
language the generated module uses and refuses what it does not cover (block comments, literals
that run over the end of the line, escapes other than the simple ones and `\u{…}`), so that what
it accepts it reads as Rust does.

## Main definitions

* `Opcodes.Source.Token`, `Opcodes.Source.Lexer`, `Opcodes.Source.step`.
* `Opcodes.Source.run`, `Opcodes.Source.tokens` — a run over characters, and the tokens of a line.

## Main results

* `Opcodes.Source.run_frame` — tokens already read never change.
* `Opcodes.Source.run_word`, `Opcodes.Source.run_number` — a word and an integer literal.
* `Opcodes.Source.run_quote` — **a quoted literal reads back as the text it quotes**.
-/

set_option autoImplicit false

namespace Opcodes.Source

/-- A token of a line of Rust source. -/
inductive Token where
  /-- An identifier or a keyword. -/
  | word (s : String)
  /-- An integer literal, as written. -/
  | number (s : String)
  /-- A string literal, by the text it denotes. -/
  | str (s : String)
  /-- Any other character that is not white space. -/
  | punct (c : Char)
deriving DecidableEq, Repr

/-- Rust white space: the characters with the property Pattern_White_Space. -/
def layoutRanges : Text.Ranges :=
  [(0x09, 0x0D), (0x20, 0x20), (0x85, 0x85), (0x200E, 0x200F), (0x2028, 0x2029)]

/-- Whether `c` is Rust white space. -/
def isLayout (c : Char) : Bool :=
  layoutRanges.contains c.toNat

/-- Whether `c` may start a word. -/
def isWordStart (c : Char) : Bool :=
  c.isAlpha || c == '_'

/-- Whether `c` may continue a word or an integer literal. -/
def isWordChar (c : Char) : Bool :=
  c.isAlphanum || c == '_'

/-- Where the reader stands inside a line. -/
inductive Lexer where
  /-- Between tokens. -/
  | between
  /-- After a `/` that may open a comment. -/
  | slash
  /-- Inside a `//` comment. -/
  | comment
  /-- Inside a word, with its characters so far. -/
  | word (cs : List Char)
  /-- Inside an integer literal, with its characters so far. -/
  | number (cs : List Char)
  /-- Inside a string literal, with the characters it denotes so far. -/
  | string (cs : List Char)
  /-- After a backslash in a string literal. -/
  | escape (cs : List Char)
  /-- After `\u` in a string literal. -/
  | unicodeOpen (cs : List Char)
  /-- Inside the braces of `\u{…}`, with the hexadecimal digits so far. -/
  | unicode (cs ds : List Char)
deriving DecidableEq, Repr

/-- The character that a simple escape stands for. -/
def escapedChar? : Char → Option Char
  | 'n' => some '\n'
  | 'r' => some '\r'
  | 't' => some '\t'
  | '\\' => some '\\'
  | '0' => some '\x00'
  | '\'' => some '\''
  | '"' => some '"'
  | _ => none

/-- The character with code point `n`, if there is one. -/
def charOf? (n : Nat) : Option Char :=
  if n.isValidChar then some (Char.ofNat n) else none

/-- Read `c` between tokens, after the tokens `toks`. -/
def startToken (toks : List Token) (c : Char) : Option (List Token × Lexer) :=
  if isLayout c then some (toks, .between)
  else if isWordStart c then some (toks, .word [c])
  else if c.isDigit then some (toks, .number [c])
  else if c = '"' then some (toks, .string [])
  else if c = '/' then some (toks, .slash)
  else some (toks ++ [.punct c], .between)

/-- One character more: the tokens read so far and where the reader stands, or none where the
line is not source the reader covers. -/
def step : List Token × Lexer → Char → Option (List Token × Lexer)
  | (toks, .between), c => startToken toks c
  | (toks, .slash), c =>
    if c = '/' then some (toks, .comment)
    else if c = '*' then none
    else startToken (toks ++ [.punct '/']) c
  | (toks, .comment), _ => some (toks, .comment)
  | (toks, .word cs), c =>
    if isWordChar c then some (toks, .word (cs ++ [c]))
    else startToken (toks ++ [.word (String.ofList cs)]) c
  | (toks, .number cs), c =>
    if isWordChar c then some (toks, .number (cs ++ [c]))
    else startToken (toks ++ [.number (String.ofList cs)]) c
  | (toks, .string cs), c =>
    if c = '"' then some (toks ++ [.str (String.ofList cs)], .between)
    else if c = '\\' then some (toks, .escape cs)
    else if c = '\r' ∨ c = '\n' then none
    else some (toks, .string (cs ++ [c]))
  | (toks, .escape cs), c =>
    if c = 'u' then some (toks, .unicodeOpen cs)
    else (escapedChar? c).map fun d => (toks, .string (cs ++ [d]))
  | (toks, .unicodeOpen cs), c =>
    if c = '{' then some (toks, .unicode cs []) else none
  | (toks, .unicode cs ds), c =>
    if c = '}' then
      ((Text.digitsValue? 16 ds).bind charOf?).map fun d => (toks, .string (cs ++ [d]))
    else if (Text.digitIn? 16 c).isSome ∧ ds.length < 6 then some (toks, .unicode cs (ds ++ [c]))
    else none

/-- The end of the line: a word, literal or `/` in progress is a token; a string literal is
left open. -/
def finish : List Token × Lexer → Option (List Token)
  | (toks, .between) => some toks
  | (toks, .comment) => some toks
  | (toks, .slash) => some (toks ++ [.punct '/'])
  | (toks, .word cs) => some (toks ++ [.word (String.ofList cs)])
  | (toks, .number cs) => some (toks ++ [.number (String.ofList cs)])
  | _ => none

@[simp] theorem finish_between (toks : List Token) : finish (toks, .between) = some toks := rfl

/-- The reader after the characters `cs`. -/
def run (s : List Token × Lexer) (cs : List Char) : Option (List Token × Lexer) :=
  cs.foldlM step s

/-- The tokens of a line. -/
def tokens (line : List Char) : Option (List Token) :=
  (run ([], .between) line).bind finish

example : tokens "pub const X: u8 = 0x6a; // c".toList =
    some [.word "pub", .word "const", .word "X", .punct ':', .word "u8", .punct '=',
      .number "0x6a", .punct ';'] := by decide
example : tokens "\"a\\u\x7b7f\x7d\\\"\"".toList = some [.str "a\x7f\""] := by decide
example : tokens "/* no */".toList = none := by decide

/-! ### Runs -/

@[simp] theorem run_nil (s : List Token × Lexer) : run s [] = some s := rfl

theorem run_cons (s : List Token × Lexer) (c : Char) (cs : List Char) :
    run s (c :: cs) = (step s c).bind fun s' => run s' cs := by
  simp [run, List.foldlM_cons, bind, Option.bind]

theorem run_append (s : List Token × Lexer) (cs ds : List Char) :
    run s (cs ++ ds) = (run s cs).bind fun s' => run s' ds := by
  simp [run, List.foldlM_append, bind, Option.bind]

theorem startToken_frame (toks : List Token) (c : Char) :
    startToken toks c = (startToken [] c).map fun p => (toks ++ p.1, p.2) := by
  unfold startToken
  split_ifs <;> simp

/-- A step only appends to the tokens read so far. -/
theorem step_frame (toks : List Token) (l : Lexer) (c : Char) :
    step (toks, l) c = (step ([], l) c).map fun p => (toks ++ p.1, p.2) := by
  cases l with
  | between => exact startToken_frame toks c
  | slash =>
    simp only [step]
    split_ifs
    · simp
    · simp
    · rw [startToken_frame, startToken_frame (_ ++ _)]
      simp [Option.map_map, Function.comp_def]
  | comment => simp [step]
  | word cs =>
    simp only [step]
    split_ifs
    · simp
    · rw [startToken_frame, startToken_frame (_ ++ _)]
      simp [Option.map_map, Function.comp_def]
  | number cs =>
    simp only [step]
    split_ifs
    · simp
    · rw [startToken_frame, startToken_frame (_ ++ _)]
      simp [Option.map_map, Function.comp_def]
  | string cs =>
    simp only [step]
    split_ifs <;> simp
  | escape cs =>
    simp only [step]
    split_ifs
    · simp
    · cases escapedChar? c <;> simp
  | unicodeOpen cs =>
    simp only [step]
    split_ifs <;> simp
  | unicode cs ds =>
    simp only [step]
    split_ifs
    · cases (Text.digitsValue? 16 ds).bind charOf? <;> simp
    · simp
    · simp

/-- **Tokens already read never change**: a run from any tokens reads what it reads from none,
after them. -/
theorem run_frame (toks : List Token) (l : Lexer) (cs : List Char) :
    run (toks, l) cs = (run ([], l) cs).map fun p => (toks ++ p.1, p.2) := by
  induction cs generalizing toks l with
  | nil => simp
  | cons c cs ih =>
    rw [run_cons, run_cons, step_frame]
    cases step ([], l) c with
    | none => simp
    | some p =>
      obtain ⟨ts, l'⟩ := p
      simp only [Option.map_some, Option.bind_some]
      rw [ih, ih ts]
      simp [Option.map_map, Function.comp_def]

/-! ### Words, literals and white space -/

/-- Whether `cs` is a word: a character that may start one, then characters that may continue
one. -/
def isWord : List Char → Bool
  | [] => false
  | c :: cs => isWordStart c && cs.all isWordChar

/-- Whether `cs` is an integer literal as the reader takes it: a digit, then characters that may
continue a word. -/
def isNumeral : List Char → Bool
  | [] => false
  | c :: cs => c.isDigit && cs.all isWordChar

/-- The text after a token ends it: it starts with a character that cannot continue a word. -/
def Apart (rest : List Char) : Prop :=
  ∃ c r, rest = c :: r ∧ isWordChar c = false

/-! The classes of characters, by code point. -/

theorem isDigit_iff (c : Char) : c.isDigit = true ↔ 48 ≤ c.toNat ∧ c.toNat ≤ 57 := by
  simp only [Char.isDigit, Bool.and_eq_true, decide_eq_true_eq, UInt32.le_iff_toNat_le]
  rfl

theorem isWordStart_iff (c : Char) : isWordStart c = true ↔
    (65 ≤ c.toNat ∧ c.toNat ≤ 90) ∨ (97 ≤ c.toNat ∧ c.toNat ≤ 122) ∨ c.toNat = 95 := by
  simp only [isWordStart, Char.isAlpha, Char.isUpper, Char.isLower, Bool.or_eq_true,
    Bool.and_eq_true, decide_eq_true_eq, beq_iff_eq, UInt32.le_iff_toNat_le, ← Char.toNat_inj]
  simp only [Char.toNat]
  constructor <;> intro h <;> simp at * <;> omega

theorem isWordChar_iff (c : Char) : isWordChar c = true ↔
    (48 ≤ c.toNat ∧ c.toNat ≤ 57) ∨ (65 ≤ c.toNat ∧ c.toNat ≤ 90) ∨
      (97 ≤ c.toNat ∧ c.toNat ≤ 122) ∨ c.toNat = 95 := by
  simp only [isWordChar, Char.isAlphanum, Char.isAlpha, Char.isUpper, Char.isLower, Char.isDigit,
    Bool.or_eq_true, Bool.and_eq_true, decide_eq_true_eq, beq_iff_eq, UInt32.le_iff_toNat_le,
    ← Char.toNat_inj]
  simp only [Char.toNat]
  constructor <;> intro h <;> simp at * <;> omega

theorem isLayout_iff (c : Char) : isLayout c = true ↔
    (9 ≤ c.toNat ∧ c.toNat ≤ 13) ∨ c.toNat = 32 ∨ c.toNat = 133 ∨
      (0x200E ≤ c.toNat ∧ c.toNat ≤ 0x200F) ∨ (0x2028 ≤ c.toNat ∧ c.toNat ≤ 0x2029) := by
  simp only [isLayout, layoutRanges, Text.Ranges.contains_eq_true_iff, List.mem_cons,
    List.not_mem_nil, or_false]
  constructor
  · rintro ⟨r, hr, h₁, h₂⟩
    rcases hr with rfl | rfl | rfl | rfl | rfl <;> simp at h₁ h₂ <;> omega
  · rintro (h | h | h | h | h)
    · exact ⟨_, .inl rfl, h⟩
    · exact ⟨_, .inr (.inl rfl), by simp [h]⟩
    · exact ⟨_, .inr (.inr (.inl rfl)), by simp [h]⟩
    · exact ⟨_, .inr (.inr (.inr (.inl rfl))), h⟩
    · exact ⟨_, .inr (.inr (.inr (.inr rfl))), h⟩

theorem isLayout_eq_false_of_isWordChar {c : Char} (h : isWordChar c = true) :
    isLayout c = false := by
  rw [isWordChar_iff] at h
  have : ¬ isLayout c = true := by rw [isLayout_iff]; omega
  simpa using this

theorem isWordChar_of_isWordStart {c : Char} (h : isWordStart c = true) : isWordChar c = true := by
  rw [isWordStart_iff] at h
  rw [isWordChar_iff]
  omega

theorem isWordChar_of_isDigit {c : Char} (h : c.isDigit = true) : isWordChar c = true := by
  rw [isDigit_iff] at h
  rw [isWordChar_iff]
  omega

theorem isWordStart_eq_false_of_isDigit {c : Char} (h : c.isDigit = true) :
    isWordStart c = false := by
  rw [isDigit_iff] at h
  have : ¬ isWordStart c = true := by rw [isWordStart_iff]; omega
  simpa using this

theorem run_word_chars (toks : List Token) (acc cs : List Char)
    (h : ∀ d ∈ cs, isWordChar d = true) :
    run (toks, .word acc) cs = some (toks, .word (acc ++ cs)) := by
  induction cs generalizing acc with
  | nil => simp
  | cons c cs ih =>
    rw [run_cons]
    simp only [step, h c (by simp), if_true, Option.bind_some]
    rw [ih (acc ++ [c]) fun d hd => h d (by simp [hd])]
    simp

theorem run_number_chars (toks : List Token) (acc cs : List Char)
    (h : ∀ d ∈ cs, isWordChar d = true) :
    run (toks, .number acc) cs = some (toks, .number (acc ++ cs)) := by
  induction cs generalizing acc with
  | nil => simp
  | cons c cs ih =>
    rw [run_cons]
    simp only [step, h c (by simp), if_true, Option.bind_some]
    rw [ih (acc ++ [c]) fun d hd => h d (by simp [hd])]
    simp

/-- A word followed by a character that cannot continue it is one token. -/
theorem run_word (toks : List Token) {w rest : List Char} (hw : isWord w = true) (hr : Apart rest) :
    run (toks, .between) (w ++ rest) = run (toks ++ [.word (String.ofList w)], .between) rest := by
  obtain ⟨c, cs, rfl⟩ : ∃ c cs, w = c :: cs := by
    cases w with
    | nil => simp [isWord] at hw
    | cons c cs => exact ⟨c, cs, rfl⟩
  simp only [isWord, Bool.and_eq_true, List.all_eq_true] at hw
  obtain ⟨d, r, rfl, hd⟩ := hr
  have hstart : step (toks, .between) c = some (toks, .word [c]) := by
    simp [step, startToken, isLayout_eq_false_of_isWordChar (isWordChar_of_isWordStart hw.1), hw.1]
  rw [List.cons_append, run_cons, hstart, Option.bind_some, run_append,
    run_word_chars toks [c] cs hw.2, Option.bind_some, run_cons, run_cons]
  simp [step, hd]

/-- An integer literal followed by a character that cannot continue it is one token. -/
theorem run_number (toks : List Token) {w rest : List Char} (hw : isNumeral w = true)
    (hr : Apart rest) :
    run (toks, .between) (w ++ rest) =
      run (toks ++ [.number (String.ofList w)], .between) rest := by
  obtain ⟨c, cs, rfl⟩ : ∃ c cs, w = c :: cs := by
    cases w with
    | nil => simp [isNumeral] at hw
    | cons c cs => exact ⟨c, cs, rfl⟩
  simp only [isNumeral, Bool.and_eq_true, List.all_eq_true] at hw
  obtain ⟨d, r, rfl, hd⟩ := hr
  have hstart : step (toks, .between) c = some (toks, .number [c]) := by
    simp [step, startToken, isLayout_eq_false_of_isWordChar (isWordChar_of_isDigit hw.1),
      isWordStart_eq_false_of_isDigit hw.1, hw.1]
  rw [List.cons_append, run_cons, hstart, Option.bind_some, run_append,
    run_number_chars toks [c] cs hw.2, Option.bind_some, run_cons, run_cons]
  simp [step, hd]

theorem run_spaces (toks : List Token) (k : Nat) (rest : List Char) :
    run (toks, .between) (List.replicate k ' ' ++ rest) = run (toks, .between) rest := by
  induction k with
  | zero => simp
  | succ k ih =>
    rw [List.replicate_succ, List.cons_append, run_cons]
    simpa [step, startToken, isLayout, layoutRanges, Text.Ranges.contains] using ih

/-! ### String literals -/

theorem charOf?_toNat (c : Char) : charOf? c.toNat = some c := by
  have hvalid : c.toNat.isValidChar := c.valid
  simp [charOf?, hvalid]

theorem run_unicode_digits (toks : List Token) (cs ds digits : List Char)
    (h : ∀ d ∈ digits, (Text.digitIn? 16 d).isSome = true) (hlen : ds.length + digits.length ≤ 6) :
    run (toks, .unicode cs ds) digits = some (toks, .unicode cs (ds ++ digits)) := by
  induction digits generalizing ds with
  | nil => simp
  | cons d digits ih =>
    have hd := h d (by simp)
    -- a hexadecimal digit is no closing brace
    have hne : d ≠ '}' := by
      rintro rfl
      simp [Text.digitIn?, Text.digitValue?] at hd
    have hds : ds.length < 6 := by simp at hlen; omega
    rw [run_cons]
    simp only [step, hne, if_false, hd, hds, and_self, if_true, Option.bind_some]
    rw [ih (ds ++ [d]) (fun d' hd' => h d' (by simp [hd'])) (by simp at hlen ⊢; omega)]
    simp

/-- A code point escape `\u{…}` reads as its character. -/
theorem run_codePointEscape (toks : List Token) (cs : List Char) (c : Char) :
    run (toks, .string cs) (Text.codePointEscape c) = some (toks, .string (cs ++ [c])) := by
  have hdigits : ∀ d ∈ Text.hexDigits c.toNat, (Text.digitIn? 16 d).isSome = true := by
    intro d hd
    obtain ⟨k, hk, rfl⟩ := Text.mem_hexDigits hd
    simp [Text.digitIn?_hexDigit k hk]
  have hlen : ([] : List Char).length + (Text.hexDigits c.toNat).length ≤ 6 := by
    simpa using Text.length_hexDigits_toNat_le c
  have h₁ : step (toks, .string cs) '\\' = some (toks, .escape cs) := rfl
  have h₂ : step (toks, .escape cs) 'u' = some (toks, .unicodeOpen cs) := rfl
  have h₃ : step (toks, .unicodeOpen cs) '{' = some (toks, .unicode cs []) := rfl
  simp only [Text.codePointEscape, List.cons_append, run_cons, h₁, h₂, h₃, Option.bind_some]
  have h₄ : step (toks, .unicode cs (Text.hexDigits c.toNat)) '}' =
      some (toks, .string (cs ++ [c])) := by
    simp [step, Text.digitsValue?_hexDigits, charOf?_toNat]
  rw [run_append, run_unicode_digits toks cs [] _ hdigits hlen]
  simp [run_cons, h₄]

/-- Every character reads back from the form a quoted literal writes it in. -/
theorem run_escapeChar (toks : List Token) (cs : List Char) (c : Char) :
    run (toks, .string cs) (Text.escapeChar c) = some (toks, .string (cs ++ [c])) := by
  unfold Text.escapeChar
  split
  · rfl
  · rfl
  · rfl
  · rfl
  · rfl
  · rfl
  · rename_i h₀ h₁ h₂ h₃ h₄ h₅
    split
    · exact run_codePointEscape toks cs c
    · -- a character written as itself is none of those a literal must escape
      have hq : c ≠ '"' := h₅
      have hb : c ≠ '\\' := h₄
      have hr : ¬ (c = '\r' ∨ c = '\n') := by
        rintro (rfl | rfl)
        · exact h₂ rfl
        · exact h₃ rfl
      simp [run_cons, step, hq, hb, hr]

theorem run_escaped (toks : List Token) (cs s : List Char) :
    run (toks, .string cs) (s.flatMap Text.escapeChar) = some (toks, .string (cs ++ s)) := by
  induction s generalizing cs with
  | nil => simp
  | cons c s ih =>
    rw [List.flatMap_cons, run_append, run_escapeChar, Option.bind_some, ih]
    simp

/-- **A quoted literal reads back as the text it quotes.** -/
theorem run_quote (toks : List Token) (s : String) (rest : List Char) :
    run (toks, .between) ((Text.quote s).toList ++ rest) =
      run (toks ++ [.str s], .between) rest := by
  have hstart : step (toks, .between) '"' = some (toks, .string []) := rfl
  simp only [Text.quote, String.toList_ofList, List.cons_append, List.append_assoc, run_cons,
    hstart, Option.bind_some]
  rw [run_append, run_escaped, Option.bind_some, run_cons]
  simp [step, String.ofList_toList]

/-! ### Fixed text and the ends of tokens -/

/-- Text that reads as the tokens `ts` from between tokens reads so after any tokens. -/
theorem run_fixed_end (toks : List Token) (pre : List Char) (ts : List Token)
    (h : run ([], .between) pre = some (ts, .between)) :
    run (toks, .between) pre = some (toks ++ ts, .between) := by
  rw [run_frame, h]
  rfl

theorem run_fixed (toks : List Token) (pre : List Char) (ts : List Token) (rest : List Char)
    (h : run ([], .between) pre = some (ts, .between)) :
    run (toks, .between) (pre ++ rest) = run (toks ++ ts, .between) rest := by
  rw [run_append, run_fixed_end toks pre ts h]
  rfl

theorem apart_of_head {cs : List Char} (h : cs.head?.map isWordChar = some false) : Apart cs := by
  cases cs with
  | nil => simp at h
  | cons c cs => exact ⟨c, cs, rfl, by simpa using h⟩

theorem apart_append {cs rest : List Char} (h : Apart cs) : Apart (cs ++ rest) := by
  obtain ⟨c, r, rfl, hc⟩ := h
  exact ⟨c, r ++ rest, rfl, hc⟩

/-- Padding before text that ends a token still ends it. -/
theorem apart_replicate_append (k : Nat) {rest : List Char} (h : Apart rest) :
    Apart (List.replicate k ' ' ++ rest) := by
  cases k with
  | zero => simpa using h
  | succ k => exact ⟨' ', _, rfl, rfl⟩

theorem isWordChar_of_mem_isWord {w : List Char} (hw : isWord w = true) {c : Char} (hc : c ∈ w) :
    isWordChar c = true := by
  cases w with
  | nil => simp at hc
  | cons d ds =>
    simp only [isWord, Bool.and_eq_true, List.all_eq_true] at hw
    rcases List.mem_cons.mp hc with rfl | hc
    · exact isWordChar_of_isWordStart hw.1
    · exact hw.2 c hc

theorem isWordChar_of_mem_isNumeral {w : List Char} (hw : isNumeral w = true) {c : Char}
    (hc : c ∈ w) : isWordChar c = true := by
  cases w with
  | nil => simp at hc
  | cons d ds =>
    simp only [isNumeral, Bool.and_eq_true, List.all_eq_true] at hw
    rcases List.mem_cons.mp hc with rfl | hc
    · exact isWordChar_of_isDigit hw.1
    · exact hw.2 c hc

theorem isWord_append {w cs : List Char} (hw : isWord w = true)
    (hcs : ∀ c ∈ cs, isWordChar c = true) : isWord (w ++ cs) = true := by
  cases w with
  | nil => simp [isWord] at hw
  | cons d ds =>
    simp only [isWord, Bool.and_eq_true, List.all_eq_true] at hw
    simp only [List.cons_append, isWord, Bool.and_eq_true, List.all_eq_true, List.mem_append]
    exact ⟨hw.1, fun c hc => hc.elim (hw.2 c) (hcs c)⟩

/-- No word or literal runs over the end of a line. -/
theorem newline_not_mem_of_isWordChar {cs : List Char} (h : ∀ c ∈ cs, isWordChar c = true) :
    '\n' ∉ cs :=
  fun hn => absurd (h _ hn) (by decide)

theorem newline_not_mem_of_isWord {w : List Char} (hw : isWord w = true) : '\n' ∉ w :=
  newline_not_mem_of_isWordChar fun _ => isWordChar_of_mem_isWord hw

theorem newline_not_mem_of_isNumeral {w : List Char} (hw : isNumeral w = true) : '\n' ∉ w :=
  newline_not_mem_of_isWordChar fun _ => isWordChar_of_mem_isNumeral hw

end Opcodes.Source
