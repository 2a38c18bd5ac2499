import MediaFramework.Focus.FocusTable

/-!
# The arrays of the interaction table (`server/media_focus.c`)

The rows of a table are written one behind the other into a matrix whose size is fixed by the header before the first
of them, and nothing compares the place with that size.
-/

namespace MediaFramework

variable {w : SizeT} {ok : Nat → Bool}

/-! ### One line -/

/-- What a line does to the module, and whether reading goes on after it. -/
inductive LineStep (w : SizeT) (ok : Nat → Bool) (f : FocusLoad) : FocusLine → FocusLoad → Bool → Prop
  | jump : LineStep w ok f .jump f true
  | header {line : List Char} {g h : FocusLoad} (hg : StreamsInit ok f line g) (hh : StackInit ok g h)
      (hsome : g.streams ≠ none) : LineStep w ok f (.streamType line) h (h.stack.isSome)
  | noHeader {line : List Char} {g : FocusLoad} (hg : StreamsInit ok f line g) (hnone : g.streams = none) :
      LineStep w ok f (.streamType line) g false
  | row {line : List Char} {g : FocusLoad} (hnum : f.num ≠ 0) (hg : MatrixInit w ok f line g) :
      LineStep w ok f (.streamNum line) g g.matrix.isSome
  | noRow {line : List Char} (hnum : f.num = 0) : LineStep w ok f (.streamNum line) { f with matrix := none } false
  | noMatrix {line : List Char} (hnum : f.num ≠ 0) (hmatrix : f.matrix = none) (hok : ok f.calls = false) :
      LineStep w ok f (.streamNum line) { f with matrixSize := f.num * f.num, calls := f.calls + 1 } false
  | invalid : LineStep w ok f .invalid f false

/-- The loop takes one line after the other, until one is refused. -/
theorem mediaFocusCreateLoop_cons (w : SizeT) (ok : Nat → Bool) (buf : List Char) (bufs : List (List Char))
    (f : FocusLoad) : ∃ g more, LineStep w ok f (bufferLine buf) g more ∧
      mediaFocusCreateLoop w ok (buf :: bufs) f = if more then mediaFocusCreateLoop w ok bufs g else (true, g) := by
  rw [mediaFocusCreateLoop, show mediaFocusLineIdentity (mediaFocusReformat (cString buf)) = bufferLine buf from rfl]
  cases bufferLine buf with
  | jump => exact ⟨f, true, .jump, rfl⟩
  | streamType line =>
    have hg := mediaFocusStreamsInit_spec ok f line
    dsimp only
    by_cases hnone : (mediaFocusStreamsInit ok f line).streams = none
    · rw [if_pos hnone]
      exact ⟨_, false, .noHeader hg hnone, rfl⟩
    · rw [if_neg hnone]
      refine ⟨_, _, .header hg (focusStackInit_spec ok _) hnone, ?_⟩
      cases (focusStackInit ok (mediaFocusStreamsInit ok f line)).stack <;> rfl
  | streamNum line =>
    dsimp only
    by_cases hnum : f.num = 0
    · refine ⟨_, false, .noRow hnum, ?_⟩
      rw [mediaFocusMatrixInit, if_pos hnum]
      rfl
    · rcases mediaFocusMatrixInit_spec w ok line hnum with hg | ⟨hmatrix, hok, heq⟩
      · refine ⟨_, _, .row hnum hg, ?_⟩
        cases (mediaFocusMatrixInit w ok f line).matrix <;> rfl
      · refine ⟨_, false, .noMatrix hnum hmatrix hok, ?_⟩
        rw [heq, if_pos hmatrix]
        rfl
  | invalid => exact ⟨f, false, .invalid, rfl⟩

/-! ### The matrix -/

/-- The size of the matrix that the rows are written to, if there is one or there will be one. -/
def FocusLoad.sizeFor (f : FocusLoad) (bufs : List (List Char)) : Option Nat :=
  if f.matrix.isSome then some f.matrixSize else (firstRowNum f.num bufs).map fun n => n * n

/-- A line keeps the writes, and adds those of its row. -/
theorem LineStep.writes {f g : FocusLoad} {line : FocusLine} {more : Bool} (h : LineStep w ok f line g more) :
    f.writes <+: g.writes := by
  cases h with
  | jump | noRow | noMatrix | invalid => exact List.prefix_rfl
  | header hg hh _ => rw [hh.writes, hg.writes]
  | noHeader hg _ => rw [hg.writes]
  | row _ hg => rw [hg.writes]; exact List.prefix_append _ _

theorem mediaFocusCreateLoop_writes (bufs : List (List Char)) : ∀ f : FocusLoad,
    f.writes <+: (mediaFocusCreateLoop w ok bufs f).2.writes := by
  induction bufs with
  | nil => exact fun f => List.prefix_rfl
  | cons buf bufs ih =>
    intro f
    obtain ⟨g, more, hline, heq⟩ := mediaFocusCreateLoop_cons w ok buf bufs f
    rw [heq]
    split
    · exact hline.writes.trans (ih g)
    · exact hline.writes

/-- A line of a row, and the cells after it. -/
theorem cellsRead_row {num : Nat} {buf line : List Char} {bufs : List (List Char)}
    (hline : bufferLine buf = .streamNum line)
    (hnum : num ≠ 0) : cellsRead w num (buf :: bufs) =
      rowCells w num line + if RowReadable w num line then cellsRead w num bufs else 0 := by
  rw [cellsRead, hline]
  exact if_neg hnum

/-- A header that is read keeps the size of the matrix that is to come. -/
private theorem sizeFor_header {f g g' : FocusLoad} {buf line : List Char} (bufs : List (List Char))
    (hkind : bufferLine buf = .streamType line) (hg : StreamsInit ok f line g) (hh : StackInit ok g g')
    (hreadable : HeaderReadable line) : f.sizeFor (buf :: bufs) = g'.sizeFor bufs := by
  rw [FocusLoad.sizeFor, FocusLoad.sizeFor, firstRowNum, hkind]
  dsimp only
  rw [if_pos hreadable, hh.matrix, hg.matrix, hh.matrixSize, hg.matrixSize, hh.num, hg.num]

/-- The first row allocates the matrix, if there is none. -/
private theorem sizeFor_row {f : FocusLoad} {buf line : List Char} (bufs : List (List Char))
    (hkind : bufferLine buf = .streamNum line) (hnum : f.num ≠ 0) : f.sizeFor (buf :: bufs) = some f.size := by
  rw [FocusLoad.sizeFor, FocusLoad.size, firstRowNum, hkind]
  dsimp only
  rw [if_neg hnum]
  split <;> rfl

private theorem StreamsInit.readable {f g : FocusLoad} {line : List Char} (hg : StreamsInit ok f line g)
    (hsome : g.streams ≠ none) : HeaderReadable line := by
  by_contra hnot
  rw [hg.streams, if_neg fun hand => hnot hand.2] at hsome
  exact hsome rfl

/-- The writes of a run are at the places of the cells that are read, and to a matrix of one size. -/
theorem mediaFocusCreateLoop_bounds (bufs : List (List Char)) : ∀ f : FocusLoad,
    ∀ x ∈ (mediaFocusCreateLoop w ok bufs f).2.writes,
      x ∈ f.writes ∨ x.index < f.index + cellsRead w f.num bufs ∧ f.sizeFor bufs = some x.size := by
  induction bufs with
  | nil => exact fun f x hx => .inl hx
  | cons buf bufs ih =>
    intro f x hx
    obtain ⟨g, more, hline, heq⟩ := mediaFocusCreateLoop_cons w ok buf bufs f
    rw [heq] at hx
    generalize hkind : bufferLine buf = kind at hline
    cases hline with
    | jump =>
      have hrest := ih f x hx
      rwa [cellsRead, hkind, show f.sizeFor (buf :: bufs) = f.sizeFor bufs by
        rw [FocusLoad.sizeFor, firstRowNum, hkind]; rfl]
    | @header line g₀ _ hg hh hsome =>
      -- A header writes no cell; the rows behind it are counted with the number it gives.
      have hreadable := hg.readable hsome
      have hwrites : g.writes = f.writes := hh.writes.trans hg.writes
      split at hx
      · have hrest := ih g x hx
        rw [hwrites, hh.index, hg.index, hh.num, hg.num, ← sizeFor_header bufs hkind hg hh hreadable] at hrest
        rw [cellsRead, hkind]
        dsimp only
        rwa [if_pos hreadable]
      · exact .inl (hwrites ▸ hx)
    | noHeader hg _ => exact .inl (hg.writes ▸ hx)
    | @row line _ hnum hg =>
      -- The cells of this row come first, then those of the rows that are still read.
      rw [cellsRead_row hkind hnum, sizeFor_row bufs hkind hnum]
      have hrow : x ∈ g.writes → x ∈ f.writes ∨
          x.index < f.index + (rowCells w f.num line + if RowReadable w f.num line then cellsRead w f.num bufs else 0) ∧
            some f.size = some x.size := by
        intro hx
        rw [hg.writes, List.mem_append] at hx
        rcases hx with hx | hx
        · exact .inl hx
        · obtain ⟨hlt, hxsize⟩ := cellWrites_spec hx
          rw [(matrixInitLoop_row w f.num line).1] at hlt
          exact .inr ⟨by omega, congrArg some hxsize.symm⟩
      split at hx
      · rename_i hmatrix
        rcases ih g x hx with hx | ⟨hlt, hxsize⟩
        · exact hrow hx
        · rw [hg.index, hg.num] at hlt
          rw [FocusLoad.sizeFor, if_pos hmatrix, hg.matrixSize] at hxsize
          rw [if_pos (hg.matrix.1 hmatrix)]
          exact .inr ⟨by omega, hxsize⟩
      · exact hrow hx
    | noRow _ => exact .inl hx
    | noMatrix _ _ _ => exact .inl hx
    | invalid => exact .inl hx

/-- A row that goes beyond the end of the matrix writes behind it. -/
private theorem MatrixInit.outside {f g : FocusLoad} {line : List Char} (hg : MatrixInit w ok f line g)
    (hle : f.index ≤ f.size) (hlt : f.size < f.index + rowCells w f.num line) : ∃ x ∈ g.writes, ¬ x.Inside := by
  have hplace : f.size ∈ (cellWrites f.index f.size (matrixInitLoop w f.num (strtokComma line)).1).map (·.index) := by
    rw [cellWrites_index, List.mem_range'_1, (matrixInitLoop_row w f.num line).1]
    exact ⟨hle, hlt⟩
  obtain ⟨x, hx, hindex⟩ := List.mem_map.1 hplace
  have hout : ¬ x.Inside := by
    have hxsize := (cellWrites_spec hx).2
    unfold CellWrite.Inside
    omega
  refine ⟨x, ?_, hout⟩
  rw [hg.writes]
  exact List.mem_append_right _ hx

/-- With enough memory, more cells than the matrix has are written behind its end. -/
theorem mediaFocusCreateLoop_outside (w : SizeT) (hok : ∀ n, ok n = true) (bufs : List (List Char)) :
    ∀ (f : FocusLoad) (n : Nat),
    f.sizeFor bufs = some n → f.index ≤ n → n < f.index + cellsRead w f.num bufs →
    ∃ x ∈ (mediaFocusCreateLoop w ok bufs f).2.writes, ¬ x.Inside := by
  induction bufs with
  | nil =>
    intro f n _ hle hlt
    rw [cellsRead] at hlt
    omega
  | cons buf bufs ih =>
    intro f n hsize hle hlt
    obtain ⟨f', more, hline, heq⟩ := mediaFocusCreateLoop_cons w ok buf bufs f
    rw [heq]
    generalize hkind : bufferLine buf = kind at hline
    cases hline with
    | jump =>
      rw [cellsRead, hkind] at hlt
      rw [FocusLoad.sizeFor, firstRowNum, hkind] at hsize
      exact ih f n hsize hle hlt
    | @header line g _ hg hh hsome =>
      have hreadable := hg.readable hsome
      rw [sizeFor_header bufs hkind hg hh hreadable] at hsize
      rw [cellsRead, hkind] at hlt
      dsimp only at hlt
      rw [if_pos hreadable, ← hg.num, ← hh.num, ← hg.index, ← hh.index] at hlt
      rw [← hg.index, ← hh.index] at hle
      have hmore : f'.stack.isSome = true := by
        rw [hh.stack, if_pos ⟨hok _, hok _⟩]
        rfl
      rw [if_pos hmore]
      exact ih f' n hsize hle hlt
    | @noHeader line g hg hnone =>
      have hnot : ¬ HeaderReadable line := by
        intro hreadable
        rw [hg.streams, if_pos ⟨hok _, hreadable⟩] at hnone
        cases hnone
      rw [cellsRead, hkind] at hlt
      dsimp only at hlt
      rw [if_neg hnot] at hlt
      omega
    | @row line _ hnum hg =>
      have hn : f.size = n := Option.some.inj ((sizeFor_row bufs hkind hnum).symm.trans hsize)
      rw [cellsRead_row hkind hnum] at hlt
      by_cases hhere : n < f.index + rowCells w f.num line
      · -- the row itself goes beyond the end
        obtain ⟨x, hwritten, hout⟩ := hg.outside (hn ▸ hle) (hn ▸ hhere)
        refine ⟨x, ?_, hout⟩
        split
        · exact (mediaFocusCreateLoop_writes bufs f').subset hwritten
        · exact hwritten
      · have hreadable : RowReadable w f.num line := by
          by_contra hnot
          rw [if_neg hnot] at hlt
          omega
        have hmatrix := hg.matrix.2 hreadable
        rw [if_pos hreadable, ← hg.num] at hlt
        rw [if_pos hmatrix]
        refine ih f' n ?_ ?_ ?_
        · rw [FocusLoad.sizeFor, if_pos hmatrix, hg.matrixSize, hn]
        · rw [hg.index]
          omega
        · rw [hg.index]
          rw [hg.num] at hlt ⊢
          omega
    | noRow hnum =>
      rw [cellsRead, hkind] at hlt
      dsimp only at hlt
      rw [if_pos hnum] at hlt
      omega
    | noMatrix hnum hmatrix hfail =>
      rw [hok] at hfail
      cases hfail
    | invalid =>
      rw [cellsRead, hkind] at hlt
      dsimp only at hlt
      omega

/-! ### The names and the allocations -/

/-- The allocation `n` is one of the loader's, still to be freed. -/
def FocusLoad.Live (f : FocusLoad) (n : Nat) : Prop := 2 ≤ n ∧ n < f.calls ∧ n ∉ f.freed

/-- The copies are inside, what the pointers point to was not freed, and no two of them point to the same. -/
structure FocusLoad.Sound (f : FocusLoad) : Prop where
  copies : ∀ c ∈ f.copies, c.Inside
  calls : 2 ≤ f.calls
  nodup : f.freed.Nodup
  freed : ∀ n ∈ f.freed, 2 ≤ n ∧ n < f.calls
  stack : ∀ n, f.stack = some n → f.Live n ∧ f.streams ≠ some n ∧ f.matrix ≠ some n
  streams : ∀ n, f.streams = some n → f.Live n ∧ f.matrix ≠ some n
  matrix : ∀ n, f.matrix = some n → f.Live n

/-- One more allocation is freed. -/
theorem nodup_concat_of {l : List Nat} {n : Nat} (hl : l.Nodup) (hn : n ∉ l) : (l ++ [n]).Nodup := by
  rw [← List.concat_eq_append]
  exact List.Nodup.concat hn hl

theorem FocusLoad.Sound.streamsInit {f g : FocusLoad} {line : List Char} (h : f.Sound) (hg : StreamsInit ok f line g) :
    g.Sound := by
  have hlive : ∀ n, f.Live n → g.Live n := by
    rintro n ⟨hge, hlt, hfreed⟩
    refine ⟨hge, ?_, hg.freed ▸ hfreed⟩
    rw [hg.calls]
    omega
  have hnew : ∀ n, g.streams = some n → n = f.calls ∧ ∀ m, f.Live m → m ≠ n := by
    intro n hn
    rw [hg.streams] at hn
    split at hn
    · cases hn
      exact ⟨rfl, fun m hm => Nat.ne_of_lt hm.2.1⟩
    · cases hn
  refine ⟨?_, hg.calls ▸ Nat.le_succ_of_le h.calls, hg.freed ▸ h.nodup, ?_, ?_, ?_, ?_⟩
  · intro c hc
    rcases hg.copies c hc with hc | hc
    · exact h.copies c hc
    · exact hc
  · intro n hn
    obtain ⟨hge, hlt⟩ := h.freed n (hg.freed ▸ hn)
    refine ⟨hge, ?_⟩
    rw [hg.calls]
    omega
  · intro n hn
    rw [hg.stack] at hn
    obtain ⟨hn, -, hmatrix⟩ := h.stack n hn
    exact ⟨hlive n hn, fun hs => (hnew n hs).2 n hn rfl, hg.matrix ▸ hmatrix⟩
  · intro n hn
    obtain ⟨rfl, hother⟩ := hnew n hn
    refine ⟨⟨?_, ?_, ?_⟩, ?_⟩
    · exact h.calls
    · rw [hg.calls]
      omega
    · intro hfreed
      exact absurd (h.freed _ (hg.freed ▸ hfreed)).2 (Nat.lt_irrefl _)
    · rw [hg.matrix]
      exact fun hm => hother _ (h.matrix _ hm) rfl
  · intro n hn
    rw [hg.matrix] at hn
    exact hlive n (h.matrix n hn)

theorem FocusLoad.Sound.stackInit {f g : FocusLoad} (h : f.Sound) (hg : StackInit ok f g) : g.Sound := by
  have hfreed : ∀ n, n ∈ g.freed → n ∈ f.freed ∨ n = f.calls ∧ g.stack = none := by
    intro n hn
    rcases hg.freed with heq | ⟨hnone, heq⟩
    · exact .inl (heq ▸ hn)
    · rw [heq, List.mem_append, List.mem_singleton] at hn
      exact hn.imp_right fun hn => ⟨hn, hnone⟩
  have hlive : ∀ n, f.Live n → g.Live n := by
    rintro n ⟨hge, hlt, hn⟩
    refine ⟨hge, hlt.trans hg.calls, ?_⟩
    intro hm
    rcases hfreed n hm with hm | ⟨rfl, -⟩
    · exact hn hm
    · exact Nat.lt_irrefl _ hlt
  refine ⟨hg.copies ▸ h.copies, h.calls.trans hg.calls.le, ?_, ?_, ?_, ?_, ?_⟩
  · rcases hg.freed with heq | ⟨-, heq⟩
    · exact heq ▸ h.nodup
    · rw [heq]
      exact nodup_concat_of h.nodup fun hm => Nat.lt_irrefl _ (h.freed _ hm).2
  · intro n hn
    rcases hfreed n hn with hn | ⟨rfl, -⟩
    · exact ⟨(h.freed n hn).1, (h.freed n hn).2.trans hg.calls⟩
    · exact ⟨h.calls, hg.calls⟩
  · intro n hn
    have hnew : n = f.calls := by
      rw [hg.stack] at hn
      split at hn
      · exact (Option.some.inj hn).symm
      · cases hn
    subst hnew
    refine ⟨⟨h.calls, hg.calls, ?_⟩, ?_, ?_⟩
    · intro hm
      rcases hfreed _ hm with hm | ⟨-, hnone⟩
      · exact Nat.lt_irrefl _ (h.freed _ hm).2
      · rw [hnone] at hn
        cases hn
    · rw [hg.streams]
      exact fun hs => Nat.lt_irrefl _ (h.streams _ hs).1.2.1
    · rw [hg.matrix]
      exact fun hm => Nat.lt_irrefl _ (h.matrix _ hm).2.1
  · intro n hn
    rw [hg.streams] at hn
    exact ⟨hlive n (h.streams n hn).1, hg.matrix ▸ (h.streams n hn).2⟩
  · intro n hn
    rw [hg.matrix] at hn
    exact hlive n (h.matrix n hn)

theorem FocusLoad.Sound.matrixInit {f g : FocusLoad} {line : List Char} (h : f.Sound) (hg : MatrixInit w ok f line g) :
    g.Sound := by
  obtain ⟨m, hm, hend⟩ := hg.owner
  -- the matrix is one that was not freed, and no other pointer points to it
  have hcalls : f.calls ≤ g.calls := by
    rcases hm with ⟨-, heq⟩ | ⟨-, -, heq⟩ <;> omega
  have hlive : 2 ≤ m ∧ m < g.calls ∧ m ∉ f.freed := by
    rcases hm with ⟨hmatrix, heq⟩ | ⟨-, rfl, heq⟩
    · obtain ⟨hge, hlt, hfreed⟩ := h.matrix m hmatrix
      exact ⟨hge, by omega, hfreed⟩
    · exact ⟨h.calls, by omega, fun hfreed => Nat.lt_irrefl _ (h.freed _ hfreed).2⟩
  have hother : f.stack ≠ some m ∧ f.streams ≠ some m := by
    rcases hm with ⟨hmatrix, -⟩ | ⟨-, rfl, -⟩
    · exact ⟨fun hs => (h.stack m hs).2.2 hmatrix, fun hs => (h.streams m hs).2 hmatrix⟩
    · exact ⟨fun hs => Nat.lt_irrefl _ (h.stack _ hs).1.2.1, fun hs => Nat.lt_irrefl _ (h.streams _ hs).1.2.1⟩
  have hfreed : ∀ n ∈ g.freed, n ∈ f.freed ∨ n = m ∧ g.matrix = none := by
    intro n hn
    rcases hend with ⟨-, heq⟩ | ⟨hnone, heq | heq⟩
    · exact .inl (heq ▸ hn)
    · exact .inl (heq ▸ hn)
    · rw [heq, List.mem_append, List.mem_singleton] at hn
      exact hn.imp_right fun hn => ⟨hn, hnone⟩
  have hmatrix : ∀ n, g.matrix = some n → n = m := by
    intro n hn
    rcases hend with ⟨heq, -⟩ | ⟨hnone, -⟩
    · rw [heq] at hn
      exact (Option.some.inj hn).symm
    · rw [hnone] at hn
      cases hn
  have hkeep : ∀ n, f.Live n → n ≠ m → g.Live n := by
    rintro n ⟨hge, hlt, hn⟩ hne
    refine ⟨hge, by omega, ?_⟩
    intro hin
    rcases hfreed n hin with hin | ⟨rfl, -⟩
    · exact hn hin
    · exact hne rfl
  refine ⟨hg.copies ▸ h.copies, h.calls.trans hcalls, ?_, ?_, ?_, ?_, ?_⟩
  · rcases hend with ⟨-, heq⟩ | ⟨-, heq | heq⟩
    · exact heq ▸ h.nodup
    · exact heq ▸ h.nodup
    · rw [heq]
      exact nodup_concat_of h.nodup hlive.2.2
  · intro n hn
    rcases hfreed n hn with hn | ⟨rfl, -⟩
    · obtain ⟨hge, hlt⟩ := h.freed n hn
      exact ⟨hge, by omega⟩
    · exact ⟨hlive.1, hlive.2.1⟩
  · intro n hn
    rw [hg.stack] at hn
    have hne : n ≠ m := fun heq => hother.1 (heq ▸ hn)
    exact ⟨hkeep n (h.stack n hn).1 hne, hg.streams ▸ (h.stack n hn).2.1, fun hs => hne (hmatrix n hs)⟩
  · intro n hn
    rw [hg.streams] at hn
    have hne : n ≠ m := fun heq => hother.2 (heq ▸ hn)
    exact ⟨hkeep n (h.streams n hn).1 hne, fun hs => hne (hmatrix n hs)⟩
  · intro n hn
    obtain rfl := hmatrix n hn
    refine ⟨hlive.1, hlive.2.1, ?_⟩
    intro hin
    rcases hfreed n hin with hin | ⟨-, hnone⟩
    · exact hlive.2.2 hin
    · rw [hnone] at hn
      cases hn

/-- Every line keeps the allocations in order. -/
theorem LineStep.sound {f g : FocusLoad} {line : FocusLine} {more : Bool} (hline : LineStep w ok f line g more)
    (h : f.Sound) : g.Sound := by
  cases hline with
  | jump => exact h
  | header hg hh _ => exact (h.streamsInit hg).stackInit hh
  | noHeader hg _ => exact h.streamsInit hg
  | row _ hg => exact h.matrixInit hg
  | noRow _ =>
    exact ⟨h.copies, h.calls, h.nodup, h.freed, fun n hn => ⟨(h.stack n hn).1, (h.stack n hn).2.1, nofun⟩,
      fun n hn => ⟨(h.streams n hn).1, nofun⟩, nofun⟩
  | noMatrix _ _ _ =>
    have hlive : ∀ n, f.Live n → 2 ≤ n ∧ n < f.calls + 1 ∧ n ∉ f.freed :=
      fun n hn => ⟨hn.1, Nat.lt_succ_of_lt hn.2.1, hn.2.2⟩
    exact ⟨h.copies, Nat.le_succ_of_le h.calls, h.nodup, fun n hn =>
      ⟨(h.freed n hn).1, Nat.lt_succ_of_lt (h.freed n hn).2⟩,
      fun n hn => ⟨hlive n (h.stack n hn).1, (h.stack n hn).2⟩, fun n hn =>
        ⟨hlive n (h.streams n hn).1, (h.streams n hn).2⟩,
      fun n hn => hlive n (h.matrix n hn)⟩
  | invalid => exact h

theorem mediaFocusCreateLoop_sound (w : SizeT) (ok : Nat → Bool) (bufs : List (List Char)) : ∀ f : FocusLoad, f.Sound →
    (mediaFocusCreateLoop w ok bufs f).2.Sound := by
  induction bufs with
  | nil => exact fun f h => h
  | cons buf bufs ih =>
    intro f h
    obtain ⟨g, more, hline, heq⟩ := mediaFocusCreateLoop_cons w ok buf bufs f
    rw [heq]
    split
    · exact ih g (hline.sound h)
    · exact hline.sound h

/-- What was freed and what the pointers point to are different allocations. -/
theorem FocusLoad.Sound.destroy {f : FocusLoad} (h : f.Sound) :
    ((f.destroy 1).freed ++ [0]).Nodup := by
  have hnodup : (f.freed ++ f.stack.toList ++ f.streams.toList ++ f.matrix.toList).Nodup := by
    rw [List.nodup_append', List.nodup_append', List.nodup_append']
    refine ⟨⟨⟨h.nodup, ?_, ?_⟩, ?_, ?_⟩, ?_, ?_⟩
    · cases f.stack <;> simp
    · intro n hn hs
      exact (h.stack n (Option.mem_toList.1 hs)).1.2.2 hn
    · cases f.streams <;> simp
    · intro n hn hs
      have hs := Option.mem_toList.1 hs
      rcases List.mem_append.1 hn with hn | hn
      · exact (h.streams n hs).1.2.2 hn
      · exact (h.stack n (Option.mem_toList.1 hn)).2.1 hs
    · cases f.matrix <;> simp
    · intro n hn hs
      have hs := Option.mem_toList.1 hs
      rcases List.mem_append.1 hn with hn | hn
      · rcases List.mem_append.1 hn with hn | hn
        · exact (h.matrix n hs).2.2 hn
        · exact (h.stack n (Option.mem_toList.1 hn)).2.2 hs
      · exact (h.streams n (Option.mem_toList.1 hn)).2 hs
  -- the numbers 0 and 1 are those of the buffer and of the module
  have hge : ∀ n ∈ f.freed ++ f.stack.toList ++ f.streams.toList ++ f.matrix.toList, 2 ≤ n := by
    intro n hn
    simp only [List.mem_append, Option.mem_toList] at hn
    rcases hn with ((hn | hn) | hn) | hn
    · exact (h.freed n hn).1
    · exact (h.stack n hn).1.1
    · exact (h.streams n hn).1.1
    · exact (h.matrix n hn).1
  have hone := nodup_concat_of hnodup fun hn => absurd (hge 1 hn) (by decide)
  refine nodup_concat_of hone ?_
  intro hn
  rcases List.mem_append.1 hn with hn | hn
  · exact absurd (hge 0 hn) (by decide)
  · exact absurd (List.mem_singleton.1 hn) (by decide)

/-! ### Every file -/

/-- The writes are inside the arrays, and nothing is freed twice. -/
structure FocusLoad.Safe (f : FocusLoad) : Prop where
  writes : ∀ x ∈ f.writes, x.Inside
  copies : ∀ c ∈ f.copies, c.Inside
  freed : f.freed.Nodup

/-- Loading a table is safe, whatever allocation fails, exactly if the rows that are read do not have more cells together
than there are pairs of streams in the header before the first of them. -/
theorem mediaFocusCreate_safe (w : SizeT) (file : List Char) :
    (∀ ok, (mediaFocusCreate w ok file).2.Safe) ↔
      ∀ n ∈ firstRowNum 0 (fgetsAll file.length file), cellsRead w 0 (fgetsAll file.length file) ≤ n * n := by
  generalize hbufs : fgetsAll file.length file = bufs
  have hsize : ({ calls := 2 } : FocusLoad).sizeFor bufs = (firstRowNum 0 bufs).map fun n => n * n := rfl
  constructor
  · intro hsafe n hn
    by_contra hlt
    obtain ⟨x, hx, hout⟩ := mediaFocusCreateLoop_outside w (fun _ => rfl : ∀ n, (fun _ => true) n = true) bufs
      { calls := 2 } (n * n) (by rw [hsize, Option.mem_def.1 hn]; rfl) (Nat.zero_le _) (by dsimp only; omega)
    refine hout ((hsafe fun _ => true).writes x ?_)
    rw [mediaFocusCreate, if_neg (by decide), if_neg (by decide), hbufs]
    dsimp only
    split
    · exact hx
    · exact hx
  · intro hfits ok
    unfold mediaFocusCreate
    split
    · exact ⟨nofun, nofun, List.nodup_nil⟩
    · split
      · exact ⟨nofun, nofun, List.nodup_singleton _⟩
      · rw [hbufs]
        have hstart : ({ calls := 2 } : FocusLoad).Sound :=
          ⟨nofun, Nat.le_refl 2, List.nodup_nil, nofun, nofun, nofun, nofun⟩
        have hsound := mediaFocusCreateLoop_sound w ok bufs _ hstart
        have hwrites : ∀ x ∈ (mediaFocusCreateLoop w ok bufs { calls := 2 }).2.writes, x.Inside := by
          intro x hx
          rcases mediaFocusCreateLoop_bounds bufs _ x hx with hx | ⟨hlt, hxsize⟩
          · cases hx
          · rw [hsize] at hxsize
            obtain ⟨n, hn, hxn⟩ := Option.map_eq_some_iff.1 hxsize
            have hle := hfits n hn
            unfold CellWrite.Inside
            dsimp only at hlt
            omega
        dsimp only
        split
        · exact ⟨hwrites, hsound.copies, hsound.destroy⟩
        · refine ⟨hwrites, hsound.copies, nodup_concat_of hsound.nodup ?_⟩
          exact fun hn => absurd (hsound.freed 0 hn).1 (by decide)

/-- One stream, and two rows for it. -/
def sampleLongTable : List Char := "Stream,a\na,0:0\na,0:0\n".toList

/-- A row too many is written behind the matrix. -/
theorem mediaFocusCreate_not_safe : ¬ ∀ (w : SizeT) (ok : Nat → Bool) (file : List Char),
    (mediaFocusCreate w ok file).2.Safe := by
  intro h
  have hwrites := (h .w64 (fun _ => true) sampleLongTable).writes ⟨1, 1, ⟨0, 0⟩⟩ (by decide)
  revert hwrites
  unfold CellWrite.Inside
  decide

end MediaFramework
