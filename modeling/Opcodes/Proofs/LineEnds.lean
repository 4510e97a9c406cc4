import Opcodes.Compiled
import Opcodes.Proofs.RecordLine
import Mathlib.Data.List.Forall2
import Mathlib.Data.List.Induction
/-!
# The ends of record lines

A record ends at its last `)`, and only blanks and a `//` comment may follow it. This module says
what text added at the end of a line changes. Blanks change nothing: the marker test, the search
for the last `)` and the trimming of what follows all pass over them. So a text whose line feeds
become carriage return and line feed compiles as before, since its lines gain at most a carriage
return. A `//` comment keeps a record as it was if the comment holds no `)`; a `)` in the comment
becomes the last `)` of the line, which then reads the comment into the mnemonic column.

## Main definitions

* `Opcodes.Text.withCrLf` — a text with a carriage return before every line feed.

## Main results

* `Opcodes.Columns.blankOrComment_iff` — what may follow the closing parenthesis.
* `Opcodes.Row.parse_append_blank` — blanks at the end of a line change nothing.
* `Opcodes.Row.parse_append_comment` — a comment without `)` keeps a record.
* `Opcodes.Row.parse_append_comment_with_close` — a comment with `)` can break one.
* `Opcodes.Compiled.ofText_withCrLf_and_parse_append_blank` — **line ends and trailing blanks do not
  change how a text compiles**.
-/

set_option autoImplicit false

namespace Opcodes

/-! ### Blanks at the end of a text -/

namespace Text

/-- Whether every character of `cs` is blank. -/
abbrev Blank (cs : List Char) : Prop := ∀ c ∈ cs, isBlank c = true

theorem not_mem_of_blank {cs : List Char} {c : Char} (hcs : Blank cs) (hc : isBlank c = false) :
    c ∉ cs :=
  fun h => absurd (hcs c h) (by simp [hc])

/-- Trimming passes over blanks added at the end. -/
theorem trimChars_append_of_blank {cs w : List Char} (hw : Blank w) :
    trimChars (cs ++ w) = trimChars cs := by
  unfold trimChars
  rw [List.dropWhile_append]
  split
  · -- `cs` is all blank, and so is the whole text
    rename_i h
    rw [List.dropWhile_eq_nil_iff.mpr hw, List.isEmpty_iff.mp h]
  · rw [List.reverse_append, List.dropWhile_append_of_pos (by simpa using hw)]

end Text

namespace Columns

/-- Text may follow the closing parenthesis exactly when it is blanks, then nothing or a `//`
comment. -/
theorem blankOrComment_iff {t : List Char} :
    BlankOrComment t ↔ Text.Blank t ∨ ∃ b r, Text.Blank b ∧ t = b ++ '/' :: '/' :: r := by
  have hslash : Text.isBlank '/' = false := by decide
  -- the text after the leading blanks: empty, or starting with a character that is no blank
  have hsplit := List.takeWhile_append_dropWhile (p := Text.isBlank) (l := t)
  have hlead : Text.Blank (t.takeWhile Text.isBlank) := fun c hc => List.mem_takeWhile_imp hc
  unfold BlankOrComment Text.trimChars
  constructor
  · rintro (h | ⟨rest, h⟩)
    · left
      have hall : ∀ c ∈ (t.dropWhile Text.isBlank).reverse, Text.isBlank c = true := by
        simpa using h
      cases hd : t.dropWhile Text.isBlank with
      | nil => exact List.dropWhile_eq_nil_iff.mp hd
      | cons x xs =>
        have hx := List.head_dropWhile_not Text.isBlank (l := t) (by simp [hd])
        simp only [hd, List.head_cons] at hx
        rw [hd] at hall
        exact absurd (hall x (by simp)) (by simp [hx])
    · -- the trimmed text is a prefix of the text after the leading blanks
      right
      set d := t.dropWhile Text.isBlank
      have hd : d = '/' :: '/' :: (rest ++ (d.reverse.takeWhile Text.isBlank).reverse) := by
        have := congrArg List.reverse (List.takeWhile_append_dropWhile (p := Text.isBlank)
          (l := d.reverse))
        rw [List.reverse_append, List.reverse_reverse, h] at this
        simpa using this.symm
      exact ⟨t.takeWhile Text.isBlank, rest ++ (d.reverse.takeWhile Text.isBlank).reverse, hlead,
        by rw [← hd, hsplit]⟩
  · rintro (h | ⟨b, r, hb, rfl⟩)
    · left
      simp [List.dropWhile_eq_nil_iff.mpr h]
    · right
      rw [List.dropWhile_append_of_pos hb, List.dropWhile_cons_of_neg (by simp [hslash]),
        List.reverse_cons, List.reverse_cons, List.append_assoc, List.dropWhile_append]
      split
      · exact ⟨[], by simp [List.dropWhile_cons_of_neg, hslash]⟩
      · exact ⟨(r.reverse.dropWhile Text.isBlank).reverse, by simp⟩

theorem BlankOrComment.append_of_blank {t w : List Char} (ht : BlankOrComment t)
    (hw : Text.Blank w) : BlankOrComment (t ++ w) := by
  unfold BlankOrComment at ht ⊢
  rwa [Text.trimChars_append_of_blank hw]

/-- A `//` comment after blanks may follow whatever may follow the closing parenthesis. -/
theorem BlankOrComment.append_comment {t b : List Char} (ht : BlankOrComment t)
    (hb : Text.Blank b) (r : List Char) : BlankOrComment (t ++ b ++ '/' :: '/' :: r) := by
  rcases blankOrComment_iff.mp ht with ht | ⟨b', r', hb', rfl⟩
  · refine blankOrComment_iff.mpr (.inr ⟨t ++ b, r, fun c hc => ?_, rfl⟩)
    rcases List.mem_append.mp hc with hc | hc
    · exact ht c hc
    · exact hb c hc
  · exact blankOrComment_iff.mpr (.inr ⟨b', r' ++ b ++ '/' :: '/' :: r, hb', by simp⟩)

theorem allowed_append_of_blank {t w : List Char} (hw : Text.Blank w) :
    Trailing.allowed (t ++ w) = Trailing.allowed t := by
  unfold Trailing.allowed
  rw [Text.trimChars_append_of_blank hw]

/-- Blanks added after a record line's arguments leave its body, or its fault, as it was. -/
theorem body_append_of_blank {args w : List Char} (hw : Text.Blank w) :
    body (args ++ w) = body args := by
  have hclose : ')' ∉ w := Text.not_mem_of_blank hw (by decide)
  unfold body
  rcases not_mem_or_eq_append_close args with hn | ⟨inner, after, rfl, ha⟩
  · rw [splitClose?_of_not_mem hn, splitClose?_of_not_mem (by simp [hn, hclose])]
  · rw [List.append_assoc, List.cons_append, splitClose?_append (by simp [ha, hclose]),
      splitClose?_append ha]
    simp only [allowed_append_of_blank hw, Text.trimChars_append_of_blank hw]

theorem read_append_of_blank {args w : List Char} (hw : Text.Blank w) :
    read (args ++ w) = read args := by
  simp only [read, body_append_of_blank hw]

/-- A `//` comment without `)` added after a record whose body is read leaves the body as it
was. -/
theorem body_append_comment {args inner c : List Char} (hc : ')' ∉ c)
    (h : body args = .ok inner) : body (args ++ ' ' :: '/' :: '/' :: ' ' :: c) = .ok inner := by
  obtain ⟨t, rfl, ht, hbc⟩ := body_eq_ok_iff.mp h
  refine body_eq_ok_iff.mpr ⟨t ++ ' ' :: '/' :: '/' :: ' ' :: c, by simp, by simp [ht, hc], ?_⟩
  have := hbc.append_comment (b := [' ']) (List.all_eq_true.mp (by decide)) (' ' :: c)
  simpa using this

end Columns

/-! ### Text at the end of a line -/

namespace Row

theorem args?_append {marker line : String} {args : List Char} (h : args? marker line = some args)
    (s : String) : args? marker (line ++ s) = some (args ++ s.toList) := by
  rw [args?_eq_some_iff] at h ⊢
  simp [String.toList_append, h]

/-- Blanks added to a line that is no record line do not make it one, since `(` is no blank. -/
theorem args?_append_of_blank {marker line w : String} (h : args? marker line = none)
    (hw : Text.Blank w.toList) : args? marker (line ++ w) = none := by
  rw [args?_eq_none_iff] at h ⊢
  rintro ⟨u, hu⟩
  rw [String.toList_append] at hu
  rcases List.append_eq_append_iff.mp hu.symm with ⟨a, hhead, hrest⟩ | ⟨b, hline, -⟩
  · -- the marker and `(` reach into the blanks: then `(` would be one of them
    cases a using List.reverseRecOn with
    | nil => exact h ⟨[], by simpa using hhead⟩
    | append_singleton a x =>
      rw [← List.append_assoc] at hhead
      obtain ⟨-, hx⟩ := List.append_inj' hhead rfl
      obtain rfl : '(' = x := List.singleton_inj.mp hx
      have hmem : '(' ∈ w.toList := by
        rw [hrest]
        simp
      exact absurd (hw '(' hmem) (by decide)
  · exact h ⟨b, hline.symm⟩

/-- **Blanks at the end of a line change nothing**: the line is read as before, with the same row,
the same fault, or as no record line. -/
theorem parse_append_blank {marker line w : String} {n : Nat} (hw : Text.Blank w.toList) :
    parse marker n (line ++ w) = parse marker n line := by
  cases hargs : args? marker line with
  | none => simp only [parse, hargs, args?_append_of_blank hargs hw]
  | some args => simp only [parse, hargs, args?_append hargs, Columns.read_append_of_blank hw]

/-- A `//` comment without `)` added to a record line that is read as a row leaves the row as it
was. -/
theorem parse_append_comment {marker line : String} {n : Nat} {row : Row} (c : String)
    (hc : ')' ∉ c.toList) (h : parse marker n line = .ok (some row)) :
    parse marker n (line ++ " // " ++ c) = .ok (some row) := by
  cases hargs : args? marker line with
  | none => simp [parse, hargs] at h
  | some args =>
    cases hbody : Columns.body args with
    | error m => simp [parse, hargs, Columns.read, hbody, bind, Except.bind] at h
    | ok inner =>
      have hs : (" // " ++ c).toList = ' ' :: '/' :: '/' :: ' ' :: c.toList := by
        rw [String.toList_append]
        rfl
      have hread : Columns.read (args ++ (" // " ++ c).toList) = Columns.read args := by
        simp only [Columns.read, hs, Columns.body_append_comment hc hbody, hbody]
      rw [← h, String.append_assoc]
      simp only [parse, hargs, args?_append hargs, hread]

/-- A comment that holds `)` moves the closing parenthesis into the comment: a line read as a
record is malformed once ` // see f(x)` is added, its mnemonic column now running into the
comment. -/
theorem parse_append_comment_with_close :
    parse "WABT_OPCODE" 1 "WABT_OPCODE(___, ___, ___, ___, 0, 0, 0x01, \"nop\")" =
        .ok (some (.retained ⟨none, none, none, none, 0, .absent, 0x01, none, "nop", 1⟩)) ∧
      parse "WABT_OPCODE" 1
          ("WABT_OPCODE(___, ___, ___, ___, 0, 0, 0x01, \"nop\")" ++ " // " ++ "see f(x)") =
        .error (.malformed 1 (.unquotedMnemonic "\"nop\") // see f(x")) :=
  ⟨rfl, rfl⟩

/-- Lines that are each read as others are, whatever their number, are read together as those
are. -/
theorem readFrom_congr {marker : String} {n : Nat} {ls ls' : List String}
    (h : List.Forall₂ (fun a b => ∀ n, parse marker n a = parse marker n b) ls ls') :
    readFrom marker n ls = readFrom marker n ls' := by
  induction h generalizing n with
  | nil => rfl
  | cons hab _ ih => simp only [readFrom, hab n, ih]

end Row

/-! ### Line ends -/

namespace Text

/-- The text with a carriage return before every line feed: its lines end as on Windows. -/
def withCrLf (s : String) : String :=
  String.ofList (s.toList.flatMap fun c => if c = '\n' then ['\r', '\n'] else [c])

/-- A line without the carriage return that ended it is the line less some blanks. -/
theorem exists_eq_dropReturn_append (line : List Char) :
    ∃ w, line = dropReturn line ++ w ∧ Blank w := by
  unfold dropReturn
  split
  · rename_i h
    exact ⟨['\r'], (List.dropLast_append_getLast? '\r' (by simp [h])).symm,
      List.all_eq_true.mp (by decide)⟩
  · exact ⟨[], (List.append_nil _).symm, fun c hc => absurd hc List.not_mem_nil⟩

/-- With carriage returns before the line feeds, each line is the same line or the same line
with one more carriage return at its end. -/
theorem splitLinesFrom_crLf (current cs : List Char) :
    List.Forall₂ (fun a b => ∃ w, a = b ++ w ∧ Blank w)
      (splitLinesFrom current (cs.flatMap fun c => if c = '\n' then ['\r', '\n'] else [c]))
      (splitLinesFrom current cs) := by
  induction cs generalizing current with
  | nil =>
    exact List.forall₂_same.mpr fun l _ => ⟨[], (List.append_nil _).symm,
      fun c hc => absurd hc List.not_mem_nil⟩
  | cons c cs ih =>
    by_cases hc : c = '\n'
    · -- a line feed: the carriage return before it ends up in the line, and is dropped there
      subst hc
      have hreturn : dropReturn (current.reverse ++ ['\r']) = current.reverse := by
        simp [dropReturn]
      simp only [List.flatMap_cons, if_pos, List.cons_append, List.nil_append]
      rw [splitLinesFrom.eq_3 _ '\r' _ (by decide), splitLinesFrom.eq_2, splitLinesFrom.eq_2,
        List.reverse_cons, hreturn]
      exact .cons (exists_eq_dropReturn_append current.reverse) (ih [])
    · simp only [List.flatMap_cons, if_neg hc, List.cons_append, List.nil_append]
      rw [splitLinesFrom.eq_3 _ c _ hc, splitLinesFrom.eq_3 _ c _ hc]
      exact ih (c :: current)

/-- The lines of a text with carriage returns before its line feeds are its lines, each with at
most one more carriage return at its end. -/
theorem lines_withCrLf (s : String) :
    List.Forall₂ (fun a b => ∃ w : String, a = b ++ w ∧ Blank w.toList)
      (lines (withCrLf s)) (lines s) := by
  unfold lines withCrLf splitLines
  rw [String.toList_ofList, List.forall₂_map_left_iff, List.forall₂_map_right_iff]
  refine (splitLinesFrom_crLf [] s.toList).imp fun a b ⟨w, hab, hw⟩ => ?_
  exact ⟨String.ofList w, by rw [hab, String.ofList_append], by simpa using hw⟩

end Text

namespace Compiled

/-- **Line ends and trailing blanks do not change how a text compiles.** A text with a carriage
return before each line feed compiles as the text does, with the same error or the same summary
and table; and blanks added at the end of a line leave the line read as it was. -/
theorem ofText_withCrLf_and_parse_append_blank :
    (∀ text marker, ofText (Text.withCrLf text) marker = ofText text marker) ∧
    ∀ (marker : String) (n : Nat) (line w : String), (∀ c ∈ w.toList, Text.isBlank c = true) →
      Row.parse marker n (line ++ w) = Row.parse marker n line := by
  refine ⟨fun text marker => ?_, fun marker n line w hw => Row.parse_append_blank hw⟩
  have hrows : Row.readAll marker (Text.lines (Text.withCrLf text)) =
      Row.readAll marker (Text.lines text) :=
    Row.readFrom_congr <| (Text.lines_withCrLf text).imp fun a b ⟨w, hab, hw⟩ n => by
      rw [hab]
      exact Row.parse_append_blank hw
  simp only [ofText, hrows]

/-- A record line followed by a carriage return and an ideographic space is read as the line
alone. -/
theorem parse_append_return_ideographic_space :
    (∀ c ∈ "\r\u3000".toList, Text.isBlank c = true) ∧
      Row.parse "WABT_OPCODE" 3 ("WABT_OPCODE(I32, I32, I32, ___, 0, 0, 0x6a, \"i32.add\")" ++ "\r\u3000") =
        Row.parse "WABT_OPCODE" 3 "WABT_OPCODE(I32, I32, I32, ___, 0, 0, 0x6a, \"i32.add\")" :=
  ⟨List.all_eq_true.mp (by decide),
    ofText_withCrLf_and_parse_append_blank.2 _ _ _ _ (List.all_eq_true.mp (by decide))⟩

end Compiled

end Opcodes
