import Mathlib.Algebra.Group.Nat.Defs
import Mathlib.Data.List.TakeWhile
import MediaFramework.Focus.FocusTableBounds

/-!
# The format of the interaction table

The text of a table: a header with the names of the streams, and for each of them a row with a label and a cell for each
stream; spaces do not count, and there may be comments.  The loader is compared with this format on all files; it
reads a line that does not fit into its buffer in pieces.
-/

namespace MediaFramework

variable {w : SizeT}

/-! ### The format -/

/-- The lines of a file, without the newlines. -/
def textLines : List Char → List (List Char)
  | [] => []
  | c :: cs =>
    if c = '\n' then [] :: textLines cs
    else
      match textLines cs with
      | [] => [[c]]
      | line :: lines => (c :: line) :: lines

/-- The lines without their spaces. -/
def fileLines (file : List Char) : List (List Char) := (textLines file).map fun line => line.filter (· ≠ ' ')

/-- Letters and digits, at least one. -/
def IsName (word : List Char) : Prop := word ≠ [] ∧ ∀ c ∈ word, c.isAlphanum = true

def decimalValue (digits : List Char) : Nat := digits.foldl (fun n c => 10 * n + (c.toNat - '0'.toNat)) 0

/-- A decimal number that fits an `int`. -/
structure IsNumber (digits : List Char) : Prop where
  ne_nil : digits ≠ []
  digit : ∀ c ∈ digits, c.isDigit = true
  fits : decimalValue digits < 2 ^ 31

/-- A cell `p:q`. -/
structure TextCell where
  pro : List Char
  pas : List Char

def TextCell.text (c : TextCell) : List Char := c.pro ++ ':' :: c.pas

def TextCell.cell (c : TextCell) : MediaFocusCell := ⟨decimalValue c.pro, decimalValue c.pas⟩

/-- A row `label,p_1:q_1,...`. -/
structure TextRow where
  label : List Char
  cells : List TextCell

def TextRow.body (r : TextRow) : List Char := [','].intercalate (r.cells.map TextCell.text)

def TextRow.text (r : TextRow) : List Char := r.label ++ ',' :: r.body

/-- A table with its header `Stream,n_1,...`. -/
structure TableText where
  names : List (List Char)
  rows : List TextRow

def TableText.body (t : TableText) : List Char := [','].intercalate t.names

def TableText.lines (t : TableText) : List (List Char) :=
  ("Stream".toList ++ ',' :: t.body) :: t.rows.map TextRow.text

/-- A row for each name and a cell for each name in each row. -/
structure TableText.WellFormed (t : TableText) : Prop where
  names_ne : t.names ≠ []
  name : ∀ name ∈ t.names, IsName name ∧ name.length < STREAM_TYPE_LEN
  rows : t.rows.length = t.names.length
  label : ∀ r ∈ t.rows, IsName r.label
  cells : ∀ r ∈ t.rows, r.cells.length = t.names.length
  cell : ∀ r ∈ t.rows, ∀ c ∈ r.cells, IsNumber c.pro ∧ IsNumber c.pas
  short : ∀ line ∈ t.lines, line.length ≤ MAX_LEN - 3

/-- The file is the table, with comments between its lines. -/
def SpellsTable (file : List Char) (t : TableText) : Prop :=
  (fileLines file).filter (fun line => line.head? ≠ some '#') = t.lines ∧ t.WellFormed

/-- The module holds the names and the cells of the table, each cell at its own place. -/
structure LoadedAs (t : TableText) (f : FocusLoad) : Prop where
  num : f.num = t.names.length
  names : f.names = t.names
  cells : f.writes.map CellWrite.cell = t.rows.flatMap fun r => r.cells.map TextCell.cell
  places : f.writes.map CellWrite.index = List.range (t.names.length * t.names.length)

/-- With enough memory, exactly the tables are accepted, and they are loaded as they are. -/
def AcceptsExactly (w : SizeT) (file : List Char) : Prop :=
  ((mediaFocusCreate w (fun _ => true) file).1 = true ↔ ∃ t, SpellsTable file t) ∧
    ∀ t, SpellsTable file t → LoadedAs t (mediaFocusCreate w (fun _ => true) file).2

/-! ### The condition -/

/-- The lines as the loader identifies them; a line that does not fit into the buffer comes in pieces. -/
def focusLines (file : List Char) : List FocusLine := (fgetsAll file.length file).map bufferLine

/-- A line that is refused after a header with `num` names: it is no line at all, a header with an empty or long name,
or a row without a header, with a cell that cannot be read, or with two cells too many. -/
def RefusedAt (w : SizeT) (num : Nat) : FocusLine → Prop
  | .jump => False
  | .streamType line => ¬ HeaderReadable line
  | .streamNum line => num = 0 ∨ ¬ RowReadable w num line
  | .invalid => True

/-- The number of names after one more line. -/
def nextNum (num : Nat) : FocusLine → Nat
  | .streamType line => line.count ',' + 1
  | _ => num

/-- The names after one more line. -/
def nextNames (names : List (List Char)) : FocusLine → List (List Char)
  | .streamType line => strtokComma line
  | _ => names

/-- The cells of a line, if it is a row. -/
def lineCells (w : SizeT) : FocusLine → List MediaFocusCell
  | .streamNum line => (strtokComma line).filterMap (mediaFocusDividedByColon w)
  | _ => []

/-- The file has a line that is refused. -/
def HasRefused (w : SizeT) (file : List Char) : Prop :=
  ∃ before line after, focusLines file = before ++ line :: after ∧ RefusedAt w (before.foldl nextNum 0) line

/-- Each line fits into the buffer, with its newline. -/
def LinesFit (file : List Char) : Prop := ∀ line ∈ textLines file, line.length ≤ MAX_LEN - 3

/-- A table none of whose rows is taken for a header. -/
def LabelsFine (t : TableText) : Prop := ∀ r ∈ t.rows, r.label.isPrefixOf "Stream".toList = false

/-- The pieces of the lines still make the table: none is refused, the last header has its names, and the rows have its
cells. -/
structure PiecesFine (w : SizeT) (file : List Char) (t : TableText) : Prop where
  refused : ¬ HasRefused w file
  names : (focusLines file).foldl nextNames [] = t.names
  cells : (focusLines file).flatMap (lineCells w) = t.rows.flatMap fun r => r.cells.map TextCell.cell

/-- A table has no row that is taken for a header, or still is the table in pieces if a line does not fit; and another
file has a line that is refused. -/
structure ReadAsWritten (w : SizeT) (file : List Char) : Prop where
  labels : LinesFit file → ∀ t, SpellsTable file t → LabelsFine t
  pieces : ¬ LinesFit file → ∀ t, SpellsTable file t → PiecesFine w file t
  refused : (¬ ∃ t, SpellsTable file t) → HasRefused w file

/-! ### The buffers of `fgets` are the lines -/

theorem textLines_line {line : List Char} (hline : '\n' ∉ line) (hne : line ≠ []) : textLines line = [line] := by
  induction line with
  | nil => exact absurd rfl hne
  | cons c cs ih =>
    rw [List.mem_cons, not_or] at hline
    rw [textLines, if_neg (Ne.symm hline.1)]
    cases cs with
    | nil => rfl
    | cons d ds => rw [ih hline.2 (List.cons_ne_nil _ _)]

theorem textLines_append {line : List Char} (hline : '\n' ∉ line) (rest : List Char) :
    textLines (line ++ '\n' :: rest) = line :: textLines rest := by
  induction line with
  | nil => simp [textLines]
  | cons c cs ih =>
    rw [List.mem_cons, not_or] at hline
    rw [List.cons_append, textLines, if_neg (Ne.symm hline.1), ih hline.2]

theorem fgetsLoop_line {line : List Char} (hline : '\n' ∉ line) : ∀ n, line.length ≤ n →
    fgetsLoop n line = (line, []) := by
  induction line with
  | nil =>
    intro n _
    cases n <;> rfl
  | cons c cs ih =>
    intro n hn
    rw [List.mem_cons, not_or] at hline
    obtain ⟨m, rfl⟩ := Nat.exists_eq_add_of_le' (Nat.lt_of_lt_of_le (Nat.succ_pos _) hn)
    rw [List.length_cons] at hn
    rw [fgetsLoop, if_neg (Ne.symm hline.1), ih hline.2 m (by omega)]

theorem fgetsLoop_append {line : List Char} (hline : '\n' ∉ line) (rest : List Char) : ∀ n, line.length < n →
    fgetsLoop n (line ++ '\n' :: rest) = (line ++ ['\n'], rest) := by
  induction line with
  | nil =>
    intro n hn
    obtain ⟨m, rfl⟩ := Nat.exists_eq_add_of_le' hn
    rfl
  | cons c cs ih =>
    intro n hn
    rw [List.mem_cons, not_or] at hline
    obtain ⟨m, rfl⟩ := Nat.exists_eq_add_of_le' (Nat.zero_lt_of_lt hn)
    rw [List.length_cons] at hn
    rw [List.cons_append, fgetsLoop, if_neg (Ne.symm hline.1), ih hline.2 m (by omega)]
    rfl

/-- The newline at the end of a buffer does not count. -/
theorem bufferLine_newline (line : List Char) : bufferLine (line ++ ['\n']) = bufferLine line := by
  have hfilter : mediaFocusReformat (cString (line ++ ['\n'])) = mediaFocusReformat (cString line) := by
    unfold mediaFocusReformat cString
    rw [List.takeWhile_append]
    split
    · rw [List.filter_append]
      rename_i hwhole
      rw [(List.takeWhile_prefix _).eq_of_length hwhole]
      simp
    · rfl
  rw [bufferLine, hfilter]
  rfl

theorem exists_line (file : List Char) :
    '\n' ∉ file ∨ ∃ line rest, '\n' ∉ line ∧ file = line ++ '\n' :: rest := by
  by_cases hmem : '\n' ∈ file
  · obtain ⟨line, rest, hfile, hline⟩ := List.eq_append_cons_of_mem hmem
    exact .inr ⟨line, rest, hline, hfile⟩
  · exact .inl hmem

/-- Where the lines fit, `fgets` reads one line after the other. -/
theorem fgetsAll_lines (fuel : Nat) : ∀ file : List Char, file.length ≤ fuel → LinesFit file →
    (fgetsAll fuel file).map bufferLine = (textLines file).map bufferLine := by
  induction fuel with
  | zero =>
    intro file hfuel _
    rw [List.length_eq_zero_iff.1 (Nat.le_zero.1 hfuel)]
    rfl
  | succ fuel ih =>
    intro file hfuel hfit
    cases hfile : file with
    | nil => rfl
    | cons c cs =>
      rw [fgetsAll, ← hfile]
      rcases exists_line file with hline | ⟨line, rest, hline, hsplit⟩
      · have hlines : textLines file = [file] := textLines_line hline (by rw [hfile]; exact List.cons_ne_nil _ _)
        have hlength := hfit file (by rw [hlines]; exact List.mem_singleton_self _)
        rw [fgetsLoop_line hline (MAX_LEN - 2) (by unfold MAX_LEN at hlength ⊢; omega), hlines]
        cases fuel <;> rfl
      · have hlines : textLines file = line :: textLines rest := by rw [hsplit, textLines_append hline]
        have hlength := hfit line (by rw [hlines]; exact List.mem_cons_self)
        rw [hlines, hsplit, fgetsLoop_append hline rest (MAX_LEN - 2) (by unfold MAX_LEN at hlength ⊢; omega)]
        have hrest := ih rest (by rw [hsplit, List.length_append, List.length_cons] at hfuel; omega)
          fun l hl => hfit l (by rw [hlines]; exact List.mem_cons_of_mem _ hl)
        rw [List.map_cons, List.map_cons, hrest, bufferLine_newline]

/-! ### The loop over the lines -/

/-- There is enough memory. -/
abbrev enough : Nat → Bool := fun _ => true

/-- One of the lines is refused, from a header with `num` names on. -/
def RefusedFrom (w : SizeT) (num : Nat) (lines : List FocusLine) : Prop :=
  ∃ before line after, lines = before ++ line :: after ∧ RefusedAt w (before.foldl nextNum num) line

theorem not_refusedFrom_nil (w : SizeT) (num : Nat) : ¬ RefusedFrom w num [] := by
  rintro ⟨before, line, after, h, -⟩
  cases before <;> cases h

theorem refusedFrom_cons (num : Nat) (line : FocusLine) (lines : List FocusLine) :
    RefusedFrom w num (line :: lines) ↔ RefusedAt w num line ∨ RefusedFrom w (nextNum num line) lines := by
  constructor
  · rintro ⟨before, bad, after, h, hbad⟩
    cases before with
    | nil =>
      cases h
      exact .inl hbad
    | cons first before =>
      cases h
      exact .inr ⟨before, bad, after, rfl, hbad⟩
  · rintro (hbad | ⟨before, bad, after, rfl, hbad⟩)
    · exact ⟨[], line, lines, rfl, hbad⟩
    · exact ⟨line :: before, bad, after, rfl, hbad⟩

theorem matrixInitLoop_cells (w : SizeT) (tokens : List (List Char)) : ∀ n : Nat, tokens.length ≤ n →
    (∀ cell ∈ tokens, CellReadable w cell = true) →
    (matrixInitLoop w ((n : Int) - 1) tokens).1 = tokens.filterMap (mediaFocusDividedByColon w) := by
  induction tokens with
  | nil =>
    intro n _ _
    rfl
  | cons ptr rest ih =>
    intro n hn hread
    obtain ⟨cell, hcell⟩ := Option.isSome_iff_exists.1 (hread ptr List.mem_cons_self)
    rw [List.length_cons] at hn
    obtain ⟨m, rfl⟩ := Nat.exists_eq_add_of_le' (Nat.lt_of_lt_of_le (Nat.succ_pos _) hn)
    rw [matrixInitLoop, if_pos (by omega), hcell, List.filterMap_cons_some hcell]
    dsimp only
    rw [show ((m + 1 : Nat) : Int) - 1 - 1 = (m : Int) - 1 by omega,
      ih m (by omega) fun c hc => hread c (List.mem_cons_of_mem _ hc)]

/-- What reading some lines does to the module, if none of them is refused. -/
structure LinesRead (w : SizeT) (f : FocusLoad) (lines : List FocusLine) (g : FocusLoad) : Prop where
  num : g.num = lines.foldl nextNum f.num
  names : g.names = lines.foldl nextNames f.names
  cells : g.writes.map CellWrite.cell = f.writes.map CellWrite.cell ++ lines.flatMap (lineCells w)
  places : f.writes.map CellWrite.index = List.range f.index →
    g.writes.map CellWrite.index = List.range g.index
  index : g.index = f.index + (lines.flatMap (lineCells w)).length

theorem LinesRead.nil (f : FocusLoad) : LinesRead w f [] f :=
  ⟨rfl, rfl, (List.append_nil _).symm, id, rfl⟩

theorem LinesRead.cons {f g h : FocusLoad} {line : FocusLine} {lines : List FocusLine} (hline : LinesRead w f [line] g)
    (hlines : LinesRead w g lines h) : LinesRead w f (line :: lines) h where
  num := by rw [hlines.num, hline.num]; rfl
  names := by rw [hlines.names, hline.names]; rfl
  cells := by
    rw [hlines.cells, hline.cells, List.append_assoc, ← List.flatMap_append]
    rfl
  places hplaces := hlines.places (hline.places hplaces)
  index := by
    rw [hlines.index, hline.index, Nat.add_assoc, ← List.length_append, ← List.flatMap_append]
    rfl

/-- A row without a cell that cannot be read. -/
theorem MatrixInit.linesRead {f g : FocusLoad} {line : List Char} (hg : MatrixInit w enough f line g)
    (hread : RowReadable w f.num line) : LinesRead w f [.streamNum line] g := by
  have hcells : (matrixInitLoop w f.num (strtokComma line)).1 =
      (strtokComma line).filterMap (mediaFocusDividedByColon w) := by
    have h := matrixInitLoop_cells w (strtokComma line) (f.num + 1) hread.1 hread.2
    rwa [show ((f.num + 1 : Nat) : Int) - 1 = f.num by omega] at h
  have hlines : [FocusLine.streamNum line].flatMap (lineCells w) =
      (matrixInitLoop w f.num (strtokComma line)).1 := by
    rw [hcells]
    exact List.append_nil _
  have hindex : g.index = f.index + (matrixInitLoop w f.num (strtokComma line)).1.length := by
    rw [hg.index, (matrixInitLoop_row w f.num line).1]
  refine ⟨hg.num, hg.names, ?_, fun hplaces => ?_, by rw [hlines, hindex]⟩
  · rw [hg.writes, List.map_append, hlines]
    congr 1
    rw [cellWrites, List.map_map]
    exact List.zipIdx_map_fst _ _
  · rw [hg.writes, List.map_append, hplaces, cellWrites_index, hindex, List.range_eq_range', List.range_eq_range',
      ← List.range'_append_1, Nat.zero_add]

/-- With enough memory, a line is refused or read. -/
theorem LineStep.spec {f g : FocusLoad} {line : FocusLine} {more : Bool} (hstep : LineStep w enough f line g more) :
    (more = false ↔ RefusedAt w f.num line) ∧ (more = true → LinesRead w f [line] g) := by
  cases hstep with
  | jump => exact ⟨iff_of_false nofun id, fun _ => ⟨rfl, rfl, (List.append_nil _).symm, id, rfl⟩⟩
  | header hg hh hsome =>
    rename_i line g₀
    have hread : HeaderReadable line := by
      by_contra hnot
      exact hsome (hg.streams.trans (if_neg fun h => hnot h.2))
    have hstack : g.stack.isSome = true := by
      rw [hh.stack]
      rfl
    refine ⟨iff_of_false (by rw [hstack]; nofun) (not_not.2 hread), fun _ => ⟨?_, ?_, ?_, fun hplaces => ?_, ?_⟩⟩
    · rw [hh.num, hg.num]
      rfl
    · rw [hh.names, hg.names hsome]
      rfl
    · rw [hh.writes, hg.writes]
      exact (List.append_nil _).symm
    · rw [hh.writes, hg.writes, hh.index, hg.index, hplaces]
    · rw [hh.index, hg.index]
      rfl
  | noHeader hg hnone =>
    refine ⟨iff_of_true rfl fun hread => ?_, nofun⟩
    rw [hg.streams, if_pos ⟨rfl, hread⟩] at hnone
    cases hnone
  | row hnum hg =>
    rename_i line
    by_cases hread : RowReadable w f.num line
    · have hsome := hg.matrix.2 hread
      refine ⟨iff_of_false (by rw [hsome]; nofun) ?_, fun _ => hg.linesRead hread⟩
      rintro (hzero | hnot)
      · exact hnum hzero
      · exact hnot hread
    · have hnone : g.matrix.isSome = false := Bool.eq_false_iff.2 fun h => hread (hg.matrix.1 h)
      refine ⟨iff_of_true hnone (.inr hread), fun h => ?_⟩
      cases hnone.symm.trans h
  | noRow hnum => exact ⟨iff_of_true rfl (.inl hnum), nofun⟩
  | noMatrix _ _ hok => cases hok
  | invalid => exact ⟨iff_of_true rfl trivial, nofun⟩

/-- The loop stops at the first line that is refused; without one it reads all lines. -/
theorem mediaFocusCreateLoop_spec (bufs : List (List Char)) : ∀ f : FocusLoad,
    ((mediaFocusCreateLoop w enough bufs f).1 = true ↔ RefusedFrom w f.num (bufs.map bufferLine)) ∧
      ((mediaFocusCreateLoop w enough bufs f).1 = false →
        LinesRead w f (bufs.map bufferLine) (mediaFocusCreateLoop w enough bufs f).2) := by
  induction bufs with
  | nil => exact fun f => ⟨iff_of_false nofun (not_refusedFrom_nil w f.num), fun _ => .nil f⟩
  | cons buf bufs ih =>
    intro f
    obtain ⟨g, more, hstep, hloop⟩ := mediaFocusCreateLoop_cons w enough buf bufs f
    obtain ⟨hrefused, hread⟩ := hstep.spec
    rw [hloop, List.map_cons, refusedFrom_cons]
    cases more with
    | false => exact ⟨iff_of_true rfl (.inl (hrefused.1 rfl)), nofun⟩
    | true =>
      have hline := hread rfl
      have hnum : nextNum f.num (bufferLine buf) = g.num := hline.num.symm
      have hfine : ¬ RefusedAt w f.num (bufferLine buf) := fun h => by cases hrefused.2 h
      rw [if_pos rfl, hnum, or_iff_right hfine]
      exact ⟨(ih g).1, fun hend => hline.cons ((ih g).2 hend)⟩

/-- What `media_focus_create` does with the lines of a file. -/
theorem mediaFocusCreate_lines (w : SizeT) (file : List Char) :
    ((mediaFocusCreate w enough file).1 = true ↔ ¬ HasRefused w file) ∧
      ((mediaFocusCreate w enough file).1 = true →
        LinesRead w { calls := 2 } (focusLines file) (mediaFocusCreate w enough file).2) := by
  obtain ⟨hrefused, hread⟩ := mediaFocusCreateLoop_spec (w := w) (fgetsAll file.length file) { calls := 2 }
  unfold mediaFocusCreate
  rw [if_neg nofun, if_neg nofun]
  dsimp only
  generalize mediaFocusCreateLoop w enough (fgetsAll file.length file) { calls := 2 } = r at hrefused hread ⊢
  obtain ⟨err, f⟩ := r
  cases err with
  | true => exact ⟨iff_of_false nofun (not_not.2 (hrefused.1 rfl)), nofun⟩
  | false =>
    have h := hread rfl
    refine ⟨iff_of_true rfl fun hbad => ?_, fun _ => ⟨h.num, h.names, h.cells, h.places, h.index⟩⟩
    cases hrefused.2 hbad

/-! ### What the loader makes of the lines of a table -/

theorem isAlphanum_plain {c : Char} (h : c.isAlphanum = true) :
    c ≠ ',' ∧ c ≠ ':' ∧ c ≠ ' ' ∧ c ≠ '\n' ∧ c ≠ '#' ∧ c ≠ '\x00' := by
  refine ⟨?_, ?_, ?_, ?_, ?_, ?_⟩ <;> rintro rfl <;> revert h <;> decide

theorem IsNumber.isName {digits : List Char} (h : IsNumber digits) : IsName digits :=
  ⟨h.ne_nil, fun c hc => by rw [Char.isAlphanum, h.digit c hc, Bool.or_true]⟩

/-- The text passes the check of `media_focus_valid_line_check` wherever it stands in a line. -/
def PassesCheck (text : List Char) : Prop := text ≠ [] ∧ ∀ pre, validLineLoop pre text = true

theorem IsName.passesCheck {word : List Char} (h : IsName word) : PassesCheck word := by
  refine ⟨h.1, ?_⟩
  obtain ⟨-, hword⟩ := h
  induction word with
  | nil => exact fun _ => rfl
  | cons c cs ih =>
    intro pre
    have hc := hword c List.mem_cons_self
    obtain ⟨hcomma, hcolon, -⟩ := isAlphanum_plain hc
    rw [validLineLoop, ih (fun d hd => hword d (List.mem_cons_of_mem _ hd)) c, hc]
    simp [hcomma, hcolon]

/-- A word, a separator and a text that passes the check. -/
theorem IsName.passesCheck_append {word rest : List Char} {sep : Char} (h : IsName word)
    (hsep : sep = ',' ∨ sep = ':') (hrest : PassesCheck rest) : PassesCheck (word ++ sep :: rest) := by
  obtain ⟨hne, hword⟩ := h
  refine ⟨fun hnil => by simp at hnil, ?_⟩
  induction word with
  | nil => exact absurd rfl hne
  | cons c cs ih =>
    intro pre
    have hc := hword c List.mem_cons_self
    obtain ⟨hcomma, hcolon, -⟩ := isAlphanum_plain hc
    have htail : validLineLoop c (cs ++ sep :: rest) = true := by
      cases cs with
      | nil =>
        rw [List.nil_append, validLineLoop, hrest.2 sep]
        rcases hsep with rfl | rfl <;> simp [hcomma, hcolon, hrest.1]
      | cons d ds => exact ih (List.cons_ne_nil _ _) (fun e he => hword e (List.mem_cons_of_mem _ he)) c
    rw [List.cons_append, validLineLoop, htail, hc]
    simp [hcomma, hcolon]

/-- A part of a line between commas. -/
structure IsPart (part : List Char) : Prop where
  ne_nil : part ≠ []
  comma : ',' ∉ part
  last : PassesCheck part
  more : ∀ rest, PassesCheck rest → PassesCheck (part ++ ',' :: rest)

theorem IsName.isPart {word : List Char} (h : IsName word) : IsPart word where
  ne_nil := h.1
  comma hmem := (isAlphanum_plain (h.2 _ hmem)).1 rfl
  last := h.passesCheck
  more _ := h.passesCheck_append (.inl rfl)

theorem isPart_cell {c : TextCell} (hpro : IsNumber c.pro) (hpas : IsNumber c.pas) : IsPart c.text where
  ne_nil h := by simp [TextCell.text] at h
  comma hmem := by
    rcases List.mem_append.1 hmem with hmem | hmem
    · exact hpro.isName.isPart.comma hmem
    · exact hpas.isName.isPart.comma ((List.mem_cons.1 hmem).resolve_left (by decide))
  last := hpro.isName.passesCheck_append (.inr rfl) hpas.isName.passesCheck
  more rest hrest := by
    have h := hpro.isName.passesCheck_append (.inr rfl) (hpas.isName.passesCheck_append (.inl rfl) hrest)
    rwa [TextCell.text, List.append_assoc, List.cons_append]

/-- Parts with commas between them. -/
theorem passesCheck_intercalate {parts : List (List Char)} (hparts : ∀ part ∈ parts, IsPart part) (hne : parts ≠ []) :
    PassesCheck ([','].intercalate parts) := by
  induction parts with
  | nil => exact absurd rfl hne
  | cons part parts ih =>
    cases parts with
    | nil => simpa using (hparts part List.mem_cons_self).last
    | cons next parts =>
      rw [List.intercalate_cons_cons, List.append_assoc]
      exact (hparts part List.mem_cons_self).more _
        (ih (fun p hp => hparts p (List.mem_cons_of_mem _ hp)) (List.cons_ne_nil _ _))

theorem count_intercalate {parts : List (List Char)} (hparts : ∀ part ∈ parts, IsPart part) (hne : parts ≠ []) :
    ([','].intercalate parts).count ',' + 1 = parts.length := by
  induction parts with
  | nil => exact absurd rfl hne
  | cons part parts ih =>
    have hnone := List.count_eq_zero_of_not_mem (hparts part List.mem_cons_self).comma
    cases parts with
    | nil => simpa using hnone
    | cons next parts =>
      have hrest := ih (fun p hp => hparts p (List.mem_cons_of_mem _ hp)) (List.cons_ne_nil _ _)
      rw [List.intercalate_cons_cons, List.count_append, List.count_append, hnone, List.length_cons, ← hrest]
      simp only [List.count_singleton_self]
      omega

theorem strtokComma_intercalate {parts : List (List Char)} (hparts : ∀ part ∈ parts, IsPart part) (hne : parts ≠ []) :
    strtokComma ([','].intercalate parts) = parts := by
  rw [strtokComma, List.splitOn_intercalate ',' (fun part hpart => (hparts part hpart).comma) hne,
    List.filter_eq_self]
  intro part hpart
  simpa using (hparts part hpart).ne_nil

/-- A line with a label is a header if the label is the beginning of `Stream`, and a row otherwise. -/
theorem mediaFocusLineIdentity_labelled {label body : List Char} (hlabel : IsName label) (hbody : PassesCheck body) :
    mediaFocusLineIdentity (label ++ ',' :: body) =
      if label.isPrefixOf "Stream".toList then .streamType body else .streamNum body := by
  have hcomma : ∀ c ∈ label, (c ≠ ',' : Bool) = true := by
    intro c hc
    simpa using (isAlphanum_plain (hlabel.2 c hc)).1
  have hcheck := (hlabel.passesCheck_append (.inl rfl) hbody).2 '\x00'
  have htake : (label ++ ',' :: body).takeWhile (· ≠ ',') = label := by
    rw [List.takeWhile_append_of_pos hcomma, List.takeWhile_cons_of_neg (by simp), List.append_nil]
  have hdrop : (label ++ ',' :: body).dropWhile (· ≠ ',') = ',' :: body := by
    rw [List.dropWhile_append_of_pos hcomma, List.dropWhile_cons_of_neg (by simp)]
  have hhead : (label ++ ',' :: body).head? ≠ some '#' := by
    cases label with
    | nil => exact absurd rfl hlabel.1
    | cons c cs =>
      intro h
      exact (isAlphanum_plain (hlabel.2 c List.mem_cons_self)).2.2.2.2.1 (Option.some.inj h)
  unfold mediaFocusLineIdentity
  rw [if_neg hhead, if_neg (by simp), mediaFocusValidLineCheck, hcheck, if_neg nofun, if_neg (by simp)]
  dsimp only
  rw [htake, hdrop, List.tail_cons]

theorem strtolInt_decimal (w : SizeT) {digits : List Char} (h : IsNumber digits) :
    mediaFocusStrToNum w digits = decimalValue digits := by
  have hdigits : digits ≠ [] ∧ digits.all Char.isDigit = true := ⟨h.ne_nil, List.all_eq_true.2 h.digit⟩
  have hfits := h.fits
  rw [mediaFocusStrToNum, if_pos hdigits]
  unfold strtolInt
  rw [show digits.foldl (fun n c => 10 * n + (c.toNat - '0'.toNat)) 0 = decimalValue digits from rfl]
  dsimp only
  have hmin : min (decimalValue digits) (w.mod / 2 - 1) = decimalValue digits := by
    cases w <;> simp only [SizeT.mod] <;> omega
  have hvalue : (BitVec.ofNat 32 (decimalValue digits)).toNat = decimalValue digits := by
    rw [BitVec.toNat_ofNat, Nat.mod_eq_of_lt (by omega)]
  rw [hmin, BitVec.toInt_eq_toNat_of_lt (by rw [hvalue]; omega), hvalue]

/-- A cell is read as its two numbers. -/
theorem mediaFocusDividedByColon_text (w : SizeT) {c : TextCell} (hpro : IsNumber c.pro) (hpas : IsNumber c.pas) :
    mediaFocusDividedByColon w c.text = some c.cell := by
  have hcolon : ∀ d ∈ c.pro, (d ≠ ':' : Bool) = true := by
    intro d hd
    simpa using (isAlphanum_plain (hpro.isName.2 d hd)).2.1
  unfold mediaFocusDividedByColon TextCell.text
  rw [if_neg (by simp), List.takeWhile_append_of_pos hcolon, List.takeWhile_cons_of_neg (by simp), List.append_nil,
    List.dropWhile_append_of_pos hcolon, List.dropWhile_cons_of_neg (by simp), List.tail_cons, strtolInt_decimal w hpro,
    strtolInt_decimal w hpas, if_neg (by omega)]
  dsimp only
  rw [if_neg (by omega)]
  rfl

/-! ### Comments and spaces -/

theorem newline_notMem {file line : List Char} (h : line ∈ textLines file) : '\n' ∉ line := by
  induction file generalizing line with
  | nil => cases h
  | cons c cs ih =>
    rw [textLines] at h
    split at h
    · rcases List.mem_cons.1 h with rfl | h
      · exact List.not_mem_nil
      · exact ih h
    · rename_i hc
      split at h
      · rw [List.mem_singleton.1 h, List.mem_singleton]
        exact Ne.symm hc
      · rename_i first rest hrest
        rcases List.mem_cons.1 h with rfl | h
        · rw [List.mem_cons, not_or]
          exact ⟨Ne.symm hc, ih (by rw [hrest]; exact List.mem_cons_self)⟩
        · exact ih (by rw [hrest]; exact List.mem_cons_of_mem _ h)

theorem bufferLine_comment {line : List Char} (h : (line.filter (· ≠ ' ')).head? = some '#') :
    bufferLine line = .jump := by
  have hhead : (mediaFocusReformat (cString line)).head? = some '#' := by
    unfold mediaFocusReformat cString
    induction line with
    | nil => cases h
    | cons c cs ih =>
      by_cases hc : c = ' '
      · subst hc
        rw [List.filter_cons_of_neg (by simp)] at h
        rw [List.takeWhile_cons_of_pos (by decide), List.filter_cons_of_neg (by simp)]
        exact ih h
      · rw [List.filter_cons_of_pos (by simpa using hc), List.head?_cons, Option.some.injEq] at h
        subst h
        rw [List.takeWhile_cons_of_pos (by decide), List.filter_cons_of_pos (by decide)]
        rfl
  unfold bufferLine mediaFocusLineIdentity
  exact if_pos hhead

theorem bufferLine_text {line : List Char} (hnewline : '\n' ∉ line) (hnul : '\x00' ∉ line.filter (· ≠ ' ')) :
    bufferLine line = mediaFocusLineIdentity (line.filter (· ≠ ' ')) := by
  have hstring : cString line = line := by
    unfold cString
    rw [List.takeWhile_eq_self_iff]
    intro c hc
    rw [decide_eq_true_eq]
    rintro rfl
    exact hnul (List.mem_filter.2 ⟨hc, by decide⟩)
  have hreformat : mediaFocusReformat line = line.filter (· ≠ ' ') := by
    unfold mediaFocusReformat
    refine List.filter_congr fun c hc => ?_
    have hne : c ≠ '\n' := by
      rintro rfl
      exact hnewline hc
    simp [hne]
  rw [bufferLine, hstring, hreformat]

/-- The lines that are not comments are those of the table. -/
theorem bufferLines_table (lines : List (List Char)) (hnewline : ∀ line ∈ lines, '\n' ∉ line) :
    ∀ texts, (lines.map fun line => line.filter (· ≠ ' ')).filter (fun line => line.head? ≠ some '#') = texts →
      (∀ text ∈ texts, '\x00' ∉ text ∧ mediaFocusLineIdentity text ≠ .jump) →
      (lines.map bufferLine).filter (· ≠ .jump) = texts.map mediaFocusLineIdentity := by
  induction lines with
  | nil =>
    rintro texts rfl _
    rfl
  | cons line lines ih =>
    have hrest := ih fun l hl => hnewline l (List.mem_cons_of_mem _ hl)
    intro texts htexts hplain
    rw [List.map_cons] at htexts ⊢
    by_cases hcomment : (line.filter (· ≠ ' ')).head? = some '#'
    · rw [List.filter_cons_of_neg (by simpa using hcomment)] at htexts
      rw [bufferLine_comment hcomment, List.filter_cons_of_neg (by simp)]
      exact hrest texts htexts hplain
    · rw [List.filter_cons_of_pos (by simpa using hcomment)] at htexts
      subst htexts
      obtain ⟨hnul, hjump⟩ := hplain _ List.mem_cons_self
      rw [bufferLine_text (hnewline line List.mem_cons_self) hnul, List.map_cons,
        List.filter_cons_of_pos (by simpa using hjump)]
      rw [hrest _ rfl fun text htext => hplain text (List.mem_cons_of_mem _ htext)]

/-- Comments do nothing. -/
theorem refusedFrom_filter (lines : List FocusLine) : ∀ num,
    RefusedFrom w num lines ↔ RefusedFrom w num (lines.filter (· ≠ .jump)) := by
  induction lines with
  | nil => exact fun _ => Iff.rfl
  | cons line lines ih =>
    intro num
    by_cases hjump : line = .jump
    · subst hjump
      rw [List.filter_cons_of_neg (by simp), refusedFrom_cons]
      exact (or_iff_right id).trans (ih num)
    · rw [List.filter_cons_of_pos (by simpa using hjump), refusedFrom_cons, refusedFrom_cons, ih]

/-! ### Tables -/

/-- How a row is read. -/
def TextRow.kind (r : TextRow) : FocusLine :=
  if r.label.isPrefixOf "Stream".toList then .streamType r.body else .streamNum r.body

namespace TableText.WellFormed

variable {t : TableText} {r : TextRow}

theorem part (h : t.WellFormed) : ∀ name ∈ t.names, IsPart name := fun name hname => (h.name name hname).1.isPart

theorem cells_ne (h : t.WellFormed) (hr : r ∈ t.rows) : r.cells.map TextCell.text ≠ [] := by
  have hlength := h.cells r hr
  have hpos := List.length_pos_iff.2 h.names_ne
  rw [← List.length_pos_iff, List.length_map]
  omega

theorem cellPart (h : t.WellFormed) (hr : r ∈ t.rows) : ∀ part ∈ r.cells.map TextCell.text, IsPart part := by
  intro part hpart
  obtain ⟨c, hc, rfl⟩ := List.mem_map.1 hpart
  exact isPart_cell (h.cell r hr c hc).1 (h.cell r hr c hc).2

theorem isName_stream : IsName "Stream".toList := by
  have hletters : "Stream".toList = ['S', 't', 'r', 'e', 'a', 'm'] := rfl
  rw [hletters]
  refine ⟨nofun, ?_⟩
  simp only [List.forall_mem_cons]
  exact ⟨rfl, rfl, rfl, rfl, rfl, rfl, nofun⟩

theorem header_eq (h : t.WellFormed) :
    mediaFocusLineIdentity ("Stream".toList ++ ',' :: t.body) = .streamType t.body := by
  have hlabelled := mediaFocusLineIdentity_labelled isName_stream (passesCheck_intercalate h.part h.names_ne)
  rw [if_pos (by decide)] at hlabelled
  exact hlabelled

theorem row_eq (h : t.WellFormed) (hr : r ∈ t.rows) : mediaFocusLineIdentity r.text = r.kind :=
  mediaFocusLineIdentity_labelled (h.label r hr) (passesCheck_intercalate (h.cellPart hr) (h.cells_ne hr))

theorem strtok_body (h : t.WellFormed) : strtokComma t.body = t.names := strtokComma_intercalate h.part h.names_ne

theorem strtok_row (h : t.WellFormed) (hr : r ∈ t.rows) : strtokComma r.body = r.cells.map TextCell.text :=
  strtokComma_intercalate (h.cellPart hr) (h.cells_ne hr)

theorem count_body (h : t.WellFormed) : t.body.count ',' + 1 = t.names.length := count_intercalate h.part h.names_ne

theorem headerReadable (h : t.WellFormed) : HeaderReadable t.body := by
  rw [HeaderReadable, h.strtok_body, h.count_body]
  exact ⟨rfl, fun name hname => (h.name name hname).2⟩

theorem rowReadable (h : t.WellFormed) (hr : r ∈ t.rows) : RowReadable w t.names.length r.body := by
  rw [RowReadable, h.strtok_row hr, List.length_map, h.cells r hr]
  refine ⟨Nat.le_succ _, fun cell hcell => ?_⟩
  obtain ⟨c, hc, rfl⟩ := List.mem_map.1 hcell
  rw [CellReadable, mediaFocusDividedByColon_text w (h.cell r hr c hc).1 (h.cell r hr c hc).2]
  rfl

theorem row_cells (h : t.WellFormed) (hr : r ∈ t.rows) :
    (strtokComma r.body).filterMap (mediaFocusDividedByColon w) = r.cells.map TextCell.cell := by
  rw [h.strtok_row hr, List.filterMap_map, ← List.filterMap_eq_map]
  refine List.filterMap_congr fun c hc => ?_
  exact mediaFocusDividedByColon_text w (h.cell r hr c hc).1 (h.cell r hr c hc).2

/-- No line of a table has a NUL, or is a comment. -/
theorem line_plain (h : t.WellFormed) : ∀ text ∈ t.lines, '\x00' ∉ text ∧ mediaFocusLineIdentity text ≠ .jump := by
  have hplain : ∀ {label body}, IsName label → PassesCheck body → '\x00' ∉ label ++ ',' :: body := by
    intro label body hlabel hbody hmem
    have hcheck := (hlabel.passesCheck_append (.inl rfl) hbody).2 'a'
    clear hbody hlabel
    generalize label ++ ',' :: body = line at hmem hcheck
    generalize 'a' = pre at hcheck
    induction line generalizing pre with
    | nil => cases hmem
    | cons c cs ih =>
      rw [validLineLoop] at hcheck
      simp only [Bool.and_eq_true] at hcheck
      rcases List.mem_cons.1 hmem with rfl | hmem
      · revert hcheck
        simp
      · exact ih hmem c hcheck.2
  intro text htext
  rcases List.mem_cons.1 htext with rfl | htext
  · refine ⟨hplain isName_stream (passesCheck_intercalate h.part h.names_ne), ?_⟩
    rw [h.header_eq]
    nofun
  · obtain ⟨r, hr, rfl⟩ := List.mem_map.1 htext
    refine ⟨hplain (h.label r hr) (passesCheck_intercalate (h.cellPart hr) (h.cells_ne hr)), ?_⟩
    rw [h.row_eq hr, TextRow.kind]
    split <;> nofun

/-- The lines of the table as the loader identifies them. -/
theorem kinds (h : t.WellFormed) :
    t.lines.map mediaFocusLineIdentity = .streamType t.body :: t.rows.map TextRow.kind := by
  rw [TableText.lines, List.map_cons, h.header_eq, List.map_map]
  congr 1
  exact List.map_congr_left fun r hr => h.row_eq hr

end TableText.WellFormed

/-! ### The loader and the format -/

theorem rows_notRefused (num : Nat) (rows : List TextRow) (hnum : num ≠ 0)
    (hread : ∀ r ∈ rows, r.label.isPrefixOf "Stream".toList = false ∧ RowReadable w num r.body) :
    ¬ RefusedFrom w num (rows.map TextRow.kind) := by
  induction rows with
  | nil => exact not_refusedFrom_nil w num
  | cons r rows ih =>
    obtain ⟨hlabel, hrow⟩ := hread r List.mem_cons_self
    rw [List.map_cons, refusedFrom_cons, TextRow.kind, hlabel, if_neg nofun, not_or]
    refine ⟨?_, ih fun r hr => hread r (List.mem_cons_of_mem _ hr)⟩
    rintro (hzero | hnot)
    · exact hnum hzero
    · exact hnot hrow

/-- Rows that are taken for rows do not change the names. -/
theorem rows_keepNames (rows : List TextRow) (hlabels : ∀ r ∈ rows, r.label.isPrefixOf "Stream".toList = false) :
    ∀ names, (rows.map TextRow.kind).foldl nextNames names = names := by
  induction rows with
  | nil => exact fun _ => rfl
  | cons r rows ih =>
    have hkind : r.kind = .streamNum r.body := by rw [TextRow.kind, hlabels r List.mem_cons_self, if_neg nofun]
    rw [List.map_cons, hkind]
    exact ih fun r hr => hlabels r (List.mem_cons_of_mem _ hr)

/-- A row that is taken for a header has its cells taken for names. -/
theorem rows_rename (t : TableText) (h : t.WellFormed) (rows : List TextRow) (hrows : ∀ r ∈ rows, r ∈ t.rows) :
    ∀ names, (∃ r ∈ rows, (rows.map TextRow.kind).foldl nextNames names = r.cells.map TextCell.text) ∨
      ((rows.map TextRow.kind).foldl nextNames names = names ∧
        ∀ r ∈ rows, r.label.isPrefixOf "Stream".toList = false) := by
  induction rows with
  | nil => exact fun names => .inr ⟨rfl, nofun⟩
  | cons r rows ih =>
    intro names
    have hrest := ih fun r hr => hrows r (List.mem_cons_of_mem _ hr)
    rw [List.map_cons, List.foldl_cons]
    cases hlabel : r.label.isPrefixOf "Stream".toList with
    | true =>
      have hkind : r.kind = .streamType r.body := by rw [TextRow.kind, hlabel, if_pos rfl]
      rw [hkind, nextNames, h.strtok_row (hrows r List.mem_cons_self)]
      left
      rcases hrest (r.cells.map TextCell.text) with ⟨r', hr', heq⟩ | ⟨heq, -⟩
      · exact ⟨r', List.mem_cons_of_mem _ hr', heq⟩
      · exact ⟨r, List.mem_cons_self, heq⟩
    | false =>
      have hkind : r.kind = .streamNum r.body := by rw [TextRow.kind, hlabel, if_neg nofun]
      rw [hkind, show nextNames names (.streamNum r.body) = names from rfl]
      rcases hrest names with ⟨r', hr', heq⟩ | ⟨heq, hlabels⟩
      · exact .inl ⟨r', List.mem_cons_of_mem _ hr', heq⟩
      · refine .inr ⟨heq, fun r' hr' => ?_⟩
        rcases List.mem_cons.1 hr' with rfl | hr'
        · exact hlabel
        · exact hlabels r' hr'

/-- The cells of a table, row after row. -/
theorem rows_cells (t : TableText) (h : t.WellFormed) (rows : List TextRow) (hrows : ∀ r ∈ rows, r ∈ t.rows)
    (hlabels : ∀ r ∈ rows, r.label.isPrefixOf "Stream".toList = false) :
    (rows.map TextRow.kind).flatMap (lineCells w) = rows.flatMap fun r => r.cells.map TextCell.cell := by
  induction rows with
  | nil => rfl
  | cons r rows ih =>
    have hcells := ih (fun r hr => hrows r (List.mem_cons_of_mem _ hr))
      fun r hr => hlabels r (List.mem_cons_of_mem _ hr)
    have hkind : r.kind = .streamNum r.body := by rw [TextRow.kind, hlabels r List.mem_cons_self, if_neg nofun]
    rw [List.map_cons, List.flatMap_cons, List.flatMap_cons, hcells, hkind, lineCells,
      h.row_cells (hrows r List.mem_cons_self)]

theorem rows_length (t : TableText) (h : t.WellFormed) (rows : List TextRow) (hrows : ∀ r ∈ rows, r ∈ t.rows) :
    (rows.flatMap fun r => r.cells.map TextCell.cell).length = rows.length * t.names.length := by
  induction rows with
  | nil => exact (Nat.zero_mul _).symm
  | cons r rows ih =>
    have hlength := ih fun r hr => hrows r (List.mem_cons_of_mem _ hr)
    rw [List.flatMap_cons, List.length_append, hlength, List.length_map, h.cells r (hrows r List.mem_cons_self),
      List.length_cons, Nat.succ_mul, Nat.add_comm]

/-- Without a line that is refused, there are as many names as the number says. -/
theorem names_length (lines : List FocusLine) : ∀ (num : Nat) (names : List (List Char)), names.length = num →
    ¬ RefusedFrom w num lines → (lines.foldl nextNames names).length = lines.foldl nextNum num := by
  induction lines with
  | nil => exact fun _ _ h _ => h
  | cons line lines ih =>
    intro num names h hfine
    rw [refusedFrom_cons, not_or] at hfine
    refine ih _ _ ?_ hfine.2
    cases line with
    | streamType line => exact (not_not.1 hfine.1).1
    | jump => exact h
    | streamNum line => exact h
    | invalid => exact h

/-- The lines of a file that is a table, without the comments. -/
theorem SpellsTable.kinds {file : List Char} {t : TableText} (h : SpellsTable file t) (hfit : LinesFit file) :
    (focusLines file).filter (· ≠ .jump) = .streamType t.body :: t.rows.map TextRow.kind := by
  rw [focusLines, fgetsAll_lines file.length file (Nat.le_refl _) hfit,
    bufferLines_table _ (fun _ => newline_notMem) t.lines h.1 h.2.line_plain, h.2.kinds]

/-- A table is loaded as it is exactly if the pieces of its lines make it. -/
theorem SpellsTable.loaded_iff {file : List Char} {t : TableText} (h : SpellsTable file t) :
    (mediaFocusCreate w enough file).1 = true ∧ LoadedAs t (mediaFocusCreate w enough file).2 ↔
      PiecesFine w file t := by
  obtain ⟨haccepts, hread⟩ := mediaFocusCreate_lines w file
  constructor
  · rintro ⟨haccepted, hloaded⟩
    have hlines := hread haccepted
    exact ⟨haccepts.1 haccepted, hlines.names.symm.trans hloaded.names, hlines.cells.symm.trans hloaded.cells⟩
  · intro hpieces
    have haccepted := haccepts.2 hpieces.refused
    have hlines := hread haccepted
    have hnum := names_length (focusLines file) 0 [] rfl hpieces.refused
    refine ⟨haccepted, ?_, hlines.names.trans hpieces.names, hlines.cells.trans hpieces.cells, ?_⟩
    · rw [hlines.num, ← hnum, hpieces.names]
    · rw [hlines.places rfl, hlines.index, hpieces.cells, rows_length t h.2 t.rows fun _ => id, h.2.rows]
      exact congrArg List.range (Nat.zero_add _)

theorem lineCells_filter (lines : List FocusLine) :
    (lines.filter (· ≠ .jump)).flatMap (lineCells w) = lines.flatMap (lineCells w) := by
  induction lines with
  | nil => rfl
  | cons line lines ih =>
    by_cases hjump : line = .jump
    · subst hjump
      rw [List.filter_cons_of_neg (by simp), ih]
      rfl
    · rw [List.filter_cons_of_pos (by simpa using hjump), List.flatMap_cons, List.flatMap_cons, ih]

theorem nextNames_filter (lines : List FocusLine) (names : List (List Char)) :
    (lines.filter (· ≠ .jump)).foldl nextNames names = lines.foldl nextNames names := by
  rw [List.foldl_filter]
  congr 1
  funext n line
  cases line <;> rfl

/-- Where the lines fit, the table is read as it is exactly if no row is taken for a header. -/
theorem SpellsTable.piecesFine_iff {file : List Char} {t : TableText} (h : SpellsTable file t) (hfit : LinesFit file) :
    PiecesFine w file t ↔ LabelsFine t := by
  have hkinds := h.kinds hfit
  constructor
  · intro hpieces
    have hnames := hpieces.names
    rw [← nextNames_filter, hkinds, List.foldl_cons] at hnames
    rcases rows_rename t h.2 t.rows (fun _ => id) (nextNames [] (.streamType t.body)) with ⟨r, hr, heq⟩ | ⟨-, hfine⟩
    · -- a cell has a colon, and a name has not
      have hcells : t.names = r.cells.map TextCell.text := hnames.symm.trans heq
      obtain ⟨text, htext⟩ := List.exists_mem_of_ne_nil _ h.2.names_ne
      have hname := (h.2.name text htext).1
      rw [hcells] at htext
      obtain ⟨c, -, rfl⟩ := List.mem_map.1 htext
      have hcolon : ':' ∈ c.text := List.mem_append_right _ List.mem_cons_self
      exact absurd rfl (isAlphanum_plain (hname.2 _ hcolon)).2.1
    · exact hfine
  · intro hlabels
    have hpos : t.names.length ≠ 0 := by
      rw [ne_eq, List.length_eq_zero_iff]
      exact h.2.names_ne
    refine ⟨?_, ?_, ?_⟩
    · change ¬ RefusedFrom w 0 _
      rw [refusedFrom_filter, hkinds, refusedFrom_cons, nextNum, h.2.count_body, not_or]
      exact ⟨not_not.2 h.2.headerReadable,
        rows_notRefused _ _ hpos fun r hr => ⟨hlabels r hr, h.2.rowReadable hr⟩⟩
    · rw [← nextNames_filter, hkinds, List.foldl_cons, rows_keepNames t.rows hlabels, nextNames, h.2.strtok_body]
    · rw [← lineCells_filter, hkinds, List.flatMap_cons, rows_cells t h.2 t.rows (fun _ => id) hlabels]
      rfl

/-- A file is read as the format says exactly if it is a table whose lines or their pieces are read as they are, or has
a line that is refused. -/
theorem mediaFocusCreate_acceptsExactly (w : SizeT) (file : List Char) :
    AcceptsExactly w file ↔ ReadAsWritten w file := by
  have haccepts := (mediaFocusCreate_lines w file).1
  constructor
  · rintro ⟨hexact, hloaded⟩
    have hpieces : ∀ t, SpellsTable file t → PiecesFine w file t := fun t ht =>
      ht.loaded_iff.1 ⟨hexact.2 ⟨t, ht⟩, hloaded t ht⟩
    refine ⟨fun hfit t ht => (ht.piecesFine_iff hfit).1 (hpieces t ht), fun _ => hpieces, fun hnone => ?_⟩
    by_contra hrefused
    exact hnone (hexact.1 (haccepts.2 hrefused))
  · rintro ⟨hlabels, hpieces, hrefused⟩
    have hfine : ∀ t, SpellsTable file t → PiecesFine w file t := by
      intro t ht
      by_cases hfit : LinesFit file
      · exact (ht.piecesFine_iff hfit).2 (hlabels hfit t ht)
      · exact hpieces hfit t ht
    refine ⟨⟨fun haccepted => ?_, ?_⟩, fun t ht => (ht.loaded_iff.2 (hfine t ht)).2⟩
    · by_contra hnone
      exact haccepts.1 haccepted (hrefused hnone)
    · rintro ⟨t, ht⟩
      exact (ht.loaded_iff.2 (hfine t ht)).1

/-- A header without its rows. -/
def sampleHeaderOnly : List Char := "Stream,Ring,Music\n".toList

/-- Not every file is read as the format says. -/
theorem mediaFocusCreate_not_acceptsExactly : ¬ ∀ (w : SizeT) (file : List Char), AcceptsExactly w file := by
  intro h
  obtain ⟨t, hlines, ht⟩ := (h .w32 sampleHeaderOnly).1.1 (by decide)
  have hcount : (fileLines sampleHeaderOnly).length = 1 := by decide
  have hle := hlines ▸ List.length_filter_le _ (fileLines sampleHeaderOnly)
  rw [hcount, TableText.lines, List.length_cons, List.length_map, ht.rows] at hle
  have hpos := List.length_pos_iff.2 ht.names_ne
  omega

end MediaFramework
