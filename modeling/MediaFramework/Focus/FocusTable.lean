import MediaFramework.Focus.MediaFocus
import MediaFramework.Parcel.MediaParcel

/-!
# Loading the interaction table (`server/media_focus.c`)

The table is read line by line: a header with the names of the streams, and a row of cells for each stream.  The
allocations are numbered in their order, and each may fail; what is freed, and the writes to the two arrays with the
sizes that these have, are recorded.
-/

namespace MediaFramework

def MAX_LEN : Nat := 512

def STREAM_TYPE_LEN : Nat := 32

/-! ### Reading a line -/

/-- The characters that `fgets` puts into its buffer, at most so many, and the ones that it leaves. -/
def fgetsLoop : Nat → List Char → List Char × List Char
  | 0, cs => ([], cs)
  | _, [] => ([], [])
  | n + 1, c :: cs =>
    if c = '\n' then ([c], cs)
    else
      let r := fgetsLoop n cs
      (c :: r.1, r.2)

/-- The contents of the buffer after each call of `fgets` until the end of the file; each call takes a character. -/
def fgetsAll : Nat → List Char → List (List Char)
  | 0, _ => []
  | _, [] => []
  | fuel + 1, c :: cs =>
    let r := fgetsLoop (MAX_LEN - 2) (c :: cs)
    r.1 :: fgetsAll fuel r.2

/-- The string in a buffer. -/
def cString (buf : List Char) : List Char := buf.takeWhile (· ≠ '\x00')

def mediaFocusReformat (str : List Char) : List Char := str.filter fun c => c ≠ ' ' ∧ c ≠ '\n'

/-- The loop of `media_focus_valid_line_check`, with the character before. -/
def validLineLoop : Char → List Char → Bool
  | _, [] => true
  | pre, cur :: rest =>
    (cur.isAlphanum || cur == ',' || cur == ':') && !(cur == ',' && pre == ',') && !(cur == ':' && pre == ':') &&
      !(rest.isEmpty && (cur == ',' || cur == ':')) && validLineLoop cur rest

def mediaFocusValidLineCheck (line : List Char) : Bool := validLineLoop '\x00' line

/-- What a line is, with the part behind its first comma. -/
inductive FocusLine
  | jump
  | streamType (rest : List Char)
  | streamNum (rest : List Char)
  | invalid
  deriving DecidableEq

/-- A header begins with the letters of `Stream` up to its first comma, as far as there are any. -/
def mediaFocusLineIdentity (line : List Char) : FocusLine :=
  if line.head? = some '#' then .jump
  else if line = [] then .invalid
  else if mediaFocusValidLineCheck line = false then .invalid
  else if ',' ∉ line then .invalid
  else
    let label := line.takeWhile (· ≠ ',')
    let rest := (line.dropWhile (· ≠ ',')).tail
    if label.isPrefixOf "Stream".toList then .streamType rest else .streamNum rest

/-- The tokens that `strtok` finds between commas. -/
def strtokComma (line : List Char) : List (List Char) := (line.splitOn ',').filter (· ≠ [])

/-! ### The cells -/

/-- `strtol` in base 10 of a string of digits, where a `long` has the width of `size_t`, as an `int`. -/
def strtolInt (w : SizeT) (digits : List Char) : Int :=
  let value := digits.foldl (fun n c => 10 * n + (c.toNat - '0'.toNat)) 0
  (BitVec.ofNat 32 (min value (w.mod / 2 - 1))).toInt

def mediaFocusStrToNum (w : SizeT) (str : List Char) : Int :=
  if str ≠ [] ∧ str.all Char.isDigit then strtolInt w str else -EINVAL

def mediaFocusDividedByColon (w : SizeT) (cell : List Char) : Option MediaFocusCell :=
  if ':' ∉ cell then none
  else
    let pro := mediaFocusStrToNum w (cell.takeWhile (· ≠ ':'))
    if pro < 0 then none
    else
      let pas := mediaFocusStrToNum w (cell.dropWhile (· ≠ ':')).tail
      if pas < 0 then none else some ⟨pro, pas⟩

/-! ### The two arrays -/

/-- A write to the matrix, at an index of an array of `size` cells. -/
structure CellWrite where
  index : Nat
  size : Nat
  cell : MediaFocusCell
  deriving DecidableEq

/-- A copy of a name into the array of streams. -/
structure NameCopy where
  offset : Nat
  size : Nat
  name : List Char
  deriving DecidableEq

/-- The focus module while its table is loaded; `streams`, `stack` and `matrix` are the numbers of the allocations that
the pointers point to, and `names` are those in the current array of streams. -/
structure FocusLoad where
  num : Nat := 0
  streams : Option Nat := none
  names : List (List Char) := []
  stack : Option Nat := none
  matrix : Option Nat := none
  matrixSize : Nat := 0
  index : Nat := 0
  calls : Nat
  freed : List Nat := []
  writes : List CellWrite := []
  copies : List NameCopy := []

/-- The loop of `media_focus_streams_init` over the names, from the `s_count`-th on: the copies, and whether there was a
name too many or too long. -/
def streamsInitLoop (num : Nat) : Nat → List (List Char) → List NameCopy × Bool
  | _, [] => ([], false)
  | sCount, ptr :: rest =>
    if sCount < num ∧ ptr.length < STREAM_TYPE_LEN then
      let r := streamsInitLoop num (sCount + 1) rest
      (⟨sCount * STREAM_TYPE_LEN, num * STREAM_TYPE_LEN, ptr⟩ :: r.1, r.2)
    else ([], true)

/-- `media_focus_streams_init`; on a failure the array is lost. -/
def mediaFocusStreamsInit (ok : Nat → Bool) (f : FocusLoad) (line : List Char) : FocusLoad :=
  let num := line.count ',' + 1
  let f := { f with num, calls := f.calls + 1, streams := none, names := [] }
  if ok (f.calls - 1) then
    let names := strtokComma line
    let r := streamsInitLoop num 0 names
    let f := { f with copies := f.copies ++ r.1 }
    if r.2 ∨ names.length ≠ num then f else { f with streams := some (f.calls - 1), names }
  else f

/-- `app_focus_stack_init`, which frees its first allocation when the second fails. -/
def focusStackInit (ok : Nat → Bool) (f : FocusLoad) : FocusLoad :=
  if ok f.calls then
    if ok (f.calls + 1) then { f with stack := some f.calls, calls := f.calls + 2 }
    else { f with stack := none, calls := f.calls + 2, freed := f.freed ++ [f.calls] }
  else { f with stack := none, calls := f.calls + 1 }

/-- How the loop of `media_focus_matrix_init` ends. -/
inductive RowEnd
  | done
  | badCell
  | tooMany
  deriving DecidableEq

/-- The loop of `media_focus_matrix_init` over the cells of a row: those that are written, and how it ends. -/
def matrixInitLoop (w : SizeT) : Int → List (List Char) → List MediaFocusCell × RowEnd
  | _, [] => ([], .done)
  | count, ptr :: rest =>
    if 0 ≤ count then
      match mediaFocusDividedByColon w ptr with
      | none => ([], .badCell)
      | some cell =>
        let r := matrixInitLoop w (count - 1) rest
        (cell :: r.1, r.2)
    else ([], .tooMany)

/-- The writes of cells one behind the other. -/
def cellWrites (index size : Nat) (cells : List MediaFocusCell) : List CellWrite :=
  (cells.zipIdx index).map fun c => ⟨c.2, size, c.1⟩

/-- The rest of `media_focus_matrix_init`, with the matrix; it is freed when a cell is not well formed, and lost when there
are too many. -/
def matrixInitRow (w : SizeT) (f : FocusLoad) (matrix : Nat) (line : List Char) : FocusLoad :=
  let r := matrixInitLoop w f.num (strtokComma line)
  let f := { f with
    matrix := some matrix
    index := f.index + r.1.length
    writes := f.writes ++ cellWrites f.index f.matrixSize r.1 }
  match r.2 with
  | .done => f
  | .badCell => { f with matrix := none, freed := f.freed ++ [matrix] }
  | .tooMany => { f with matrix := none }

def mediaFocusMatrixInit (w : SizeT) (ok : Nat → Bool) (f : FocusLoad) (line : List Char) : FocusLoad :=
  if f.num = 0 then { f with matrix := none }
  else
    match f.matrix with
    | some matrix => matrixInitRow w f matrix line
    | none =>
      let f' := { f with matrixSize := f.num * f.num, calls := f.calls + 1 }
      if ok f.calls then matrixInitRow w f' f.calls line else f'

/-- The loop of `media_focus_create` over the buffers; `true` says that it goes to `err`. -/
def mediaFocusCreateLoop (w : SizeT) (ok : Nat → Bool) : List (List Char) → FocusLoad → Bool × FocusLoad
  | [], f => (false, f)
  | buf :: bufs, f =>
    match mediaFocusLineIdentity (mediaFocusReformat (cString buf)) with
    | .jump => mediaFocusCreateLoop w ok bufs f
    | .streamType line =>
      let f := mediaFocusStreamsInit ok f line
      if f.streams = none then (true, f)
      else
        let f := focusStackInit ok f
        if f.stack = none then (true, f) else mediaFocusCreateLoop w ok bufs f
    | .streamNum line =>
      let f := mediaFocusMatrixInit w ok f line
      if f.matrix = none then (true, f) else mediaFocusCreateLoop w ok bufs f
    | .invalid => (true, f)

/-- `media_focus_destroy` of the module whose own allocation has the number `focus`. -/
def FocusLoad.destroy (f : FocusLoad) (focus : Nat) : FocusLoad :=
  { f with freed := f.freed ++ f.stack.toList ++ f.streams.toList ++ f.matrix.toList ++ [focus] }

/-- `media_focus_create` of a file that was opened: whether it returns a module, and what it has done. -/
def mediaFocusCreate (w : SizeT) (ok : Nat → Bool) (file : List Char) : Bool × FocusLoad :=
  if ok 0 = false then (false, { calls := 1 })
  else if ok 1 = false then (false, { calls := 2, freed := [0] })
  else
    let r := mediaFocusCreateLoop w ok (fgetsAll file.length file) { calls := 2 }
    let f := if r.1 then r.2.destroy 1 else r.2
    (!r.1, { f with freed := f.freed ++ [0] })

/-! ### Which rows are read -/

/-- A cell that the loader can read. -/
def CellReadable (w : SizeT) (cell : List Char) : Bool := (mediaFocusDividedByColon w cell).isSome

/-- A header with as many names as it has commas and one more, each short enough. -/
def HeaderReadable (line : List Char) : Prop :=
  (strtokComma line).length = line.count ',' + 1 ∧ ∀ name ∈ strtokComma line, name.length < STREAM_TYPE_LEN

instance (line : List Char) : Decidable (HeaderReadable line) := inferInstanceAs (Decidable (_ ∧ _))

/-- A row after which reading goes on: it may have one cell too many. -/
def RowReadable (w : SizeT) (num : Nat) (line : List Char) : Prop :=
  (strtokComma line).length ≤ num + 1 ∧ ∀ cell ∈ strtokComma line, CellReadable w cell = true

instance (w : SizeT) (num : Nat) (line : List Char) : Decidable (RowReadable w num line) :=
  inferInstanceAs (Decidable (_ ∧ _))

/-- The cells of a row up to one that cannot be read, and one more at most than there are streams. -/
def rowCells (w : SizeT) (num : Nat) (line : List Char) : Nat :=
  (((strtokComma line).take (num + 1)).takeWhile (CellReadable w)).length

/-- The line in a buffer. -/
def bufferLine (buf : List Char) : FocusLine := mediaFocusLineIdentity (mediaFocusReformat (cString buf))

/-- The cells of all rows up to the first line that is refused; `num` is the number of streams of the last header. -/
def cellsRead (w : SizeT) : Nat → List (List Char) → Nat
  | _, [] => 0
  | num, buf :: bufs =>
    match bufferLine buf with
    | .jump => cellsRead w num bufs
    | .streamType line => if HeaderReadable line then cellsRead w (line.count ',' + 1) bufs else 0
    | .streamNum line =>
      if num = 0 then 0 else rowCells w num line + if RowReadable w num line then cellsRead w num bufs else 0
    | .invalid => 0

/-- The number of streams of the header before the first row. -/
def firstRowNum : Nat → List (List Char) → Option Nat
  | _, [] => none
  | num, buf :: bufs =>
    match bufferLine buf with
    | .jump => firstRowNum num bufs
    | .streamType line => if HeaderReadable line then firstRowNum (line.count ',' + 1) bufs else none
    | .streamNum _ => if num = 0 then none else some num
    | .invalid => none

/-! ### The writes to the matrix -/

/-- A row writes its cells up to one that cannot be read, or that is two too many. -/
theorem matrixInitLoop_spec (w : SizeT) (tokens : List (List Char)) : ∀ n : Nat,
    (matrixInitLoop w ((n : Int) - 1) tokens).1.length = ((tokens.take n).takeWhile (CellReadable w)).length ∧
      ((matrixInitLoop w ((n : Int) - 1) tokens).2 = .done ↔
        tokens.length ≤ n ∧ ∀ cell ∈ tokens, CellReadable w cell = true) := by
  induction tokens with
  | nil =>
    intro n
    simp [matrixInitLoop]
  | cons ptr rest ih =>
    intro n
    rw [matrixInitLoop]
    cases n with
    | zero =>
      rw [if_neg (by omega)]
      simp
    | succ n =>
      rw [if_pos (by omega)]
      cases hcell : mediaFocusDividedByColon w ptr with
      | none =>
        have hbad : CellReadable w ptr = false := by rw [CellReadable, hcell]; rfl
        simp [hbad]
      | some cell =>
        have hgood : CellReadable w ptr = true := by rw [CellReadable, hcell]; rfl
        have hcount : ((n + 1 : Nat) : Int) - 1 - 1 = (n : Int) - 1 := by omega
        dsimp only
        rw [hcount]
        obtain ⟨hlength, hend⟩ := ih n
        constructor
        · rw [List.take_succ_cons, List.takeWhile_cons_of_pos hgood, List.length_cons, List.length_cons, hlength]
        · rw [hend]
          simp [hgood]

theorem matrixInitLoop_row (w : SizeT) (num : Nat) (line : List Char) :
    (matrixInitLoop w num (strtokComma line)).1.length = rowCells w num line ∧
      ((matrixInitLoop w num (strtokComma line)).2 = .done ↔ RowReadable w num line) := by
  have h := matrixInitLoop_spec w (strtokComma line) (num + 1)
  rwa [show ((num + 1 : Nat) : Int) - 1 = num by omega] at h

theorem cellWrites_index (index size : Nat) (cells : List MediaFocusCell) :
    (cellWrites index size cells).map (·.index) = List.range' index cells.length := by
  rw [cellWrites, List.map_map]
  exact List.zipIdx_map_snd index cells

theorem cellWrites_spec {index size : Nat} {cells : List MediaFocusCell} {x : CellWrite}
    (hx : x ∈ cellWrites index size cells) : x.index < index + cells.length ∧ x.size = size := by
  have hindex := List.mem_map_of_mem (f := CellWrite.index) hx
  rw [cellWrites_index, List.mem_range'_1] at hindex
  refine ⟨hindex.2, ?_⟩
  obtain ⟨c, -, rfl⟩ := List.mem_map.1 hx
  rfl

/-! ### What each function does to the module -/

def NameCopy.Inside (c : NameCopy) : Prop := c.offset + c.name.length ≤ c.size

def CellWrite.Inside (x : CellWrite) : Prop := x.index < x.size

/-- The names are copied one after the other until one is too long or too many. -/
theorem streamsInitLoop_spec (num : Nat) (names : List (List Char)) : ∀ sCount,
    (∀ c ∈ (streamsInitLoop num sCount names).1, c.Inside) ∧
      ((streamsInitLoop num sCount names).2 = false ↔
        (sCount + names.length ≤ num ∨ names = []) ∧ ∀ name ∈ names, name.length < STREAM_TYPE_LEN) := by
  induction names with
  | nil =>
    intro sCount
    exact ⟨nofun, by simp [streamsInitLoop]⟩
  | cons ptr rest ih =>
    intro sCount
    rw [streamsInitLoop]
    obtain ⟨hcopies, hend⟩ := ih (sCount + 1)
    by_cases hfits : sCount < num ∧ ptr.length < STREAM_TYPE_LEN
    · rw [if_pos hfits]
      constructor
      · intro c hc
        rcases List.mem_cons.1 hc with rfl | hc
        · -- the copy ends before the place of the next name
          have hplace : (sCount + 1) * STREAM_TYPE_LEN ≤ num * STREAM_TYPE_LEN := Nat.mul_le_mul_right _ hfits.1
          have hshort := hfits.2
          unfold NameCopy.Inside
          dsimp only
          rw [Nat.succ_mul] at hplace
          omega
        · exact hcopies c hc
      · dsimp only
        rw [hend]
        constructor
        · rintro ⟨hroom, hshort⟩
          refine ⟨.inl ?_, ?_⟩
          · rw [List.length_cons]
            rcases hroom with hroom | rfl
            · omega
            · exact hfits.1
          · intro name hname
            rcases List.mem_cons.1 hname with rfl | hname
            · exact hfits.2
            · exact hshort name hname
        · rintro ⟨hroom, hshort⟩
          refine ⟨.inl ?_, fun name hname => hshort name (List.mem_cons_of_mem _ hname)⟩
          rcases hroom with hroom | hnil
          · rw [List.length_cons] at hroom
            omega
          · cases hnil
    · rw [if_neg hfits]
      refine ⟨nofun, iff_of_false (by simp) ?_⟩
      rintro ⟨hroom, hshort⟩
      refine hfits ⟨?_, hshort ptr List.mem_cons_self⟩
      rcases hroom with hroom | hnil
      · rw [List.length_cons] at hroom
        omega
      · cases hnil

/-- What `media_focus_streams_init` changes. -/
structure StreamsInit (ok : Nat → Bool) (f : FocusLoad) (line : List Char) (f' : FocusLoad) : Prop where
  num : f'.num = line.count ',' + 1
  streams : f'.streams = if ok f.calls = true ∧ HeaderReadable line then some f.calls else none
  names : f'.streams ≠ none → f'.names = strtokComma line
  stack : f'.stack = f.stack
  matrix : f'.matrix = f.matrix
  matrixSize : f'.matrixSize = f.matrixSize
  index : f'.index = f.index
  calls : f'.calls = f.calls + 1
  freed : f'.freed = f.freed
  writes : f'.writes = f.writes
  copies : ∀ c ∈ f'.copies, c ∈ f.copies ∨ c.Inside

theorem mediaFocusStreamsInit_spec (ok : Nat → Bool) (f : FocusLoad) (line : List Char) :
    StreamsInit ok f line (mediaFocusStreamsInit ok f line) := by
  unfold mediaFocusStreamsInit
  dsimp only
  rw [Nat.add_sub_cancel]
  by_cases hok : ok f.calls = true
  · rw [if_pos hok]
    obtain ⟨hcopies, hend⟩ := streamsInitLoop_spec (line.count ',' + 1) (strtokComma line) 0
    have hcopies : ∀ c ∈ f.copies ++ (streamsInitLoop (line.count ',' + 1) 0 (strtokComma line)).1,
        c ∈ f.copies ∨ c.Inside := by
      intro c hc
      rcases List.mem_append.1 hc with hc | hc
      · exact .inl hc
      · exact .inr (hcopies c hc)
    have hreadable : ¬ ((streamsInitLoop (line.count ',' + 1) 0 (strtokComma line)).2 = true ∨
        (strtokComma line).length ≠ line.count ',' + 1) ↔ HeaderReadable line := by
      rw [not_or, Bool.not_eq_true, hend, ne_eq, not_not, HeaderReadable, Nat.zero_add]
      constructor
      · exact fun h => ⟨h.2, h.1.2⟩
      · exact fun h => ⟨⟨.inl h.1.le, h.2⟩, h.1⟩
    by_cases hheader : HeaderReadable line
    · rw [if_neg (hreadable.2 hheader)]
      exact ⟨rfl, (if_pos ⟨hok, hheader⟩).symm, fun _ => rfl, rfl, rfl, rfl, rfl, rfl, rfl, rfl, hcopies⟩
    · rw [if_pos (not_not.1 fun h => hheader (hreadable.1 h))]
      exact ⟨rfl, (if_neg fun h => hheader h.2).symm, fun h => absurd rfl h, rfl, rfl, rfl, rfl, rfl, rfl, rfl, hcopies⟩
  · rw [if_neg hok]
    exact ⟨rfl, (if_neg fun h => hok h.1).symm, fun h => absurd rfl h, rfl, rfl, rfl, rfl, rfl, rfl, rfl,
      fun c hc => .inl hc⟩

/-- What `app_focus_stack_init` changes. -/
structure StackInit (ok : Nat → Bool) (f f' : FocusLoad) : Prop where
  num : f'.num = f.num
  streams : f'.streams = f.streams
  names : f'.names = f.names
  stack : f'.stack = if ok f.calls = true ∧ ok (f.calls + 1) = true then some f.calls else none
  matrix : f'.matrix = f.matrix
  matrixSize : f'.matrixSize = f.matrixSize
  index : f'.index = f.index
  calls : f.calls < f'.calls
  freed : f'.freed = f.freed ∨ f'.stack = none ∧ f'.freed = f.freed ++ [f.calls]
  writes : f'.writes = f.writes
  copies : f'.copies = f.copies

theorem focusStackInit_spec (ok : Nat → Bool) (f : FocusLoad) : StackInit ok f (focusStackInit ok f) := by
  unfold focusStackInit
  by_cases hfirst : ok f.calls = true
  · rw [if_pos hfirst]
    by_cases hsecond : ok (f.calls + 1) = true
    · rw [if_pos hsecond]
      exact ⟨rfl, rfl, rfl, (if_pos ⟨hfirst, hsecond⟩).symm, rfl, rfl, rfl, Nat.lt_add_of_pos_right (by decide), .inl rfl,
        rfl, rfl⟩
    · rw [if_neg hsecond]
      exact ⟨rfl, rfl, rfl, (if_neg fun h => hsecond h.2).symm, rfl, rfl, rfl, Nat.lt_add_of_pos_right (by decide),
        .inr ⟨rfl, rfl⟩, rfl, rfl⟩
  · rw [if_neg hfirst]
    exact ⟨rfl, rfl, rfl, (if_neg fun h => hfirst h.1).symm, rfl, rfl, rfl, Nat.lt_add_of_pos_right (by decide), .inl rfl,
      rfl, rfl⟩

/-- The size that the matrix has, or will have. -/
def FocusLoad.size (f : FocusLoad) : Nat := if f.matrix.isSome then f.matrixSize else f.num * f.num

/-- What `media_focus_matrix_init` changes once there is a header, if it gets its memory. -/
structure MatrixInit (w : SizeT) (ok : Nat → Bool) (f : FocusLoad) (line : List Char) (f' : FocusLoad) : Prop where
  num : f'.num = f.num
  streams : f'.streams = f.streams
  names : f'.names = f.names
  stack : f'.stack = f.stack
  matrix : f'.matrix.isSome ↔ RowReadable w f.num line
  matrixSize : f'.matrixSize = f.size
  index : f'.index = f.index + rowCells w f.num line
  writes : f'.writes = f.writes ++ cellWrites f.index f.size (matrixInitLoop w f.num (strtokComma line)).1
  copies : f'.copies = f.copies
  owner : ∃ m, (f.matrix = some m ∧ f'.calls = f.calls ∨ f.matrix = none ∧ m = f.calls ∧ f'.calls = f.calls + 1) ∧
    (f'.matrix = some m ∧ f'.freed = f.freed ∨ f'.matrix = none ∧ (f'.freed = f.freed ∨ f'.freed = f.freed ++ [m]))

/-- The row is read into a matrix that is there. -/
theorem matrixInitRow_spec (w : SizeT) (ok : Nat → Bool) (line : List Char) {f : FocusLoad} {m calls : Nat}
    (hm : f.matrix = some m ∧ calls = f.calls ∨ f.matrix = none ∧ m = f.calls ∧ calls = f.calls + 1) :
    MatrixInit w ok f line (matrixInitRow w { f with matrixSize := f.size, calls } m line) := by
  obtain ⟨hlength, hend⟩ := matrixInitLoop_row w f.num line
  unfold matrixInitRow
  dsimp only
  cases hr : (matrixInitLoop w f.num (strtokComma line)).2 with
  | done =>
    exact ⟨rfl, rfl, rfl, rfl, iff_of_true rfl (hend.1 hr), rfl, by rw [hlength], rfl, rfl, m, hm, .inl ⟨rfl, rfl⟩⟩
  | badCell =>
    have hnot : ¬ RowReadable w f.num line := fun h => by rw [hend.2 h] at hr; cases hr
    exact ⟨rfl, rfl, rfl, rfl, iff_of_false nofun hnot, rfl, by rw [hlength], rfl, rfl, m, hm, .inr ⟨rfl, .inr rfl⟩⟩
  | tooMany =>
    have hnot : ¬ RowReadable w f.num line := fun h => by rw [hend.2 h] at hr; cases hr
    exact ⟨rfl, rfl, rfl, rfl, iff_of_false nofun hnot, rfl, by rw [hlength], rfl, rfl, m, hm, .inr ⟨rfl, .inl rfl⟩⟩

/-- With a header, the row is read, or there is no memory for the matrix. -/
theorem mediaFocusMatrixInit_spec (w : SizeT) (ok : Nat → Bool) {f : FocusLoad} (line : List Char) (hnum : f.num ≠ 0) :
    MatrixInit w ok f line (mediaFocusMatrixInit w ok f line) ∨
      f.matrix = none ∧ ok f.calls = false ∧
        mediaFocusMatrixInit w ok f line = { f with matrixSize := f.num * f.num, calls := f.calls + 1 } := by
  unfold mediaFocusMatrixInit
  rw [if_neg hnum]
  cases hmatrix : f.matrix with
  | some m =>
    have hsize : f.size = f.matrixSize := by rw [FocusLoad.size, hmatrix]; rfl
    have hrow := matrixInitRow_spec w ok line (.inl ⟨hmatrix, rfl⟩)
    rw [hsize] at hrow
    exact .inl hrow
  | none =>
    have hsize : f.size = f.num * f.num := by rw [FocusLoad.size, hmatrix]; rfl
    cases hok : ok f.calls with
    | true =>
      have hrow := matrixInitRow_spec w ok line (.inr ⟨hmatrix, rfl, rfl⟩)
      rw [hsize] at hrow
      exact .inl hrow
    | false => exact .inr ⟨rfl, rfl, rfl⟩

end MediaFramework
