import MediaFramework.Library.StrtokInPlace
import MediaFramework.Parcel.ParcelAppend

/-!
# The plugins of the policy (`media_policy.c`)

When a criterion changes, the policy calls a plugin with a string that has been configured.  `FFmpegCommand` sends
commands to the graph, and `SetParameter` sets parameters of devices.  Both split a copy of the string where it is: at
the semicolons, and each piece at its commas.
-/

namespace MediaFramework

open Strtok

def isComma (c : UInt8) : Bool := c == 44
def isSemicolon (c : UInt8) : Bool := c == 59

/-- `strdup(params)`, when there is memory for it. -/
def strdup (params : CBytes) : List UInt8 := params.val ++ [0]

/-! ### `FFmpegCommand` -/

/-- The arguments of `media_stub_process_command`. -/
structure PfwCommand where
  target : List UInt8
  cmd : List UInt8
  arg : Option (List UInt8)
  deriving DecidableEq

/-- The commands that have been sent, with what `media_stub_process_command` returned. -/
abbrev PfwSent := List (PfwCommand × Int)

/-- The three calls of `strtok_r` for one command, and the memory after them. -/
def pfwFfmpegFields (mem : List UInt8) (target : Nat) : Option (PfwCommand × List UInt8) :=
  match strtokR 0 isComma mem target with
  | none => none
  | some target =>
    match strtokR 0 isComma target.mem target.saved with
    | none => none
    | some cmd =>
      let arg := strtokR 0 isComma cmd.mem cmd.saved
      let mem := (arg.map Found.mem).getD cmd.mem
      some ({ target := cstr 0 mem target.token
              cmd := cstr 0 mem cmd.token
              arg := arg.map fun arg => cstr 0 mem arg.token }, mem)

/-- `while (target)`, with what the outer `strtok_r` has found; `none` if the passes do not suffice. -/
def pfwFfmpegWhile (process : PfwSent → PfwCommand → Int) :
    Nat → Option (Found UInt8) → PfwSent → Option PfwSent
  | _, none, sent => some sent
  | 0, some _, _ => none
  | passes + 1, some outer, sent =>
    match pfwFfmpegFields outer.mem outer.token with
    | none => some sent
    | some (command, mem) =>
      pfwFfmpegWhile process passes (strtokR 0 isSemicolon mem outer.saved) (sent ++ [(command, process sent command)])

/-- `str` is what `strdup` has returned. -/
def pfwFfmpegCommandCallback (process : PfwSent → PfwCommand → Int) (str : Option (List UInt8)) : Option PfwSent :=
  match str with
  | none => some []
  | some str => pfwFfmpegWhile process str.length (strtokR 0 isSemicolon str 0) []

/-! ### `SetParameter` -/

/-- What is done with devices: `open` with the descriptor or an error, `ioctl` with its result, and `close`. -/
inductive DeviceCall
  | opens (target : List UInt8) (fd : Int)
  | ioctl (fd : Int) (arg : List UInt8) (ret : Int)
  | close (fd : Int)
  deriving DecidableEq

/-- What the devices answer, after what has been done with them before. -/
structure Device where
  opens : List DeviceCall → List UInt8 → Int
  ioctl : List DeviceCall → Int → List UInt8 → Int

/-- `while (outptr)`, with what the outer `strtok_r` has found.  The rest of the piece is the pointer that the inner one
has saved. -/
def pfwSetParameterWhile (device : Device) :
    Nat → Option (Found UInt8) → List DeviceCall → Option (List DeviceCall)
  | _, none, calls => some calls
  | 0, some _, _ => none
  | passes + 1, some outer, calls =>
    match strtokR 0 isComma outer.mem outer.token with
    | none => some calls
    | some target =>
      let path := cstr 0 target.mem target.token
      let arg := cstr 0 target.mem target.saved
      let fd := device.opens calls path
      let calls := calls ++ [.opens path fd]
      if fd < 0 then some calls
      else
        let ret := device.ioctl calls fd arg
        let calls := calls ++ [.ioctl fd arg ret, .close fd]
        if ret < 0 then some calls
        else pfwSetParameterWhile device passes (strtokR 0 isSemicolon target.mem outer.saved) calls

def pfwSetParameterCallback (device : Device) (str : Option (List UInt8)) : Option (List DeviceCall) :=
  match str with
  | none => some []
  | some str => pfwSetParameterWhile device str.length (strtokR 0 isSemicolon str 0) []

/-! ### What the strings say -/

/-- The command of a piece between semicolons. -/
def ffmpegCommand (piece : List UInt8) : Option PfwCommand :=
  match tokens isComma piece with
  | target :: cmd :: rest => some { target, cmd, arg := rest.head? }
  | _ => none

/-- The commands of the pieces, up to the first piece that is none. -/
def ffmpegCommands : List (List UInt8) → List PfwCommand
  | [] => []
  | piece :: pieces =>
    match ffmpegCommand piece with
    | none => []
    | some command => command :: ffmpegCommands pieces

/-- Commands are sent one after the other, whatever each of them returns. -/
def sendAll (process : PfwSent → PfwCommand → Int) (sent : PfwSent) : List PfwCommand → PfwSent
  | [] => sent
  | command :: commands => sendAll process (sent ++ [(command, process sent command)]) commands

/-- Parameters are set one after the other, until a device does not open or refuses them. -/
def setAll (device : Device) (calls : List DeviceCall) : List (List UInt8 × List UInt8) → List DeviceCall
  | [] => calls
  | (target, arg) :: rest =>
    let fd := device.opens calls target
    let calls := calls ++ [.opens target fd]
    if fd < 0 then calls
    else
      let ret := device.ioctl calls fd arg
      let calls := calls ++ [.ioctl fd arg ret, .close fd]
      if ret < 0 then calls else setAll device calls rest

/-- The targets of the pieces and what follows their first comma, up to the first piece without a target. -/
def parameters : List (List UInt8) → List (List UInt8 × List UInt8)
  | [] => []
  | piece :: pieces =>
    match strtok isComma piece with
    | none => []
    | some parameter => parameter :: parameters pieces

variable {mem str s token piece rest : List UInt8} {i passes : Nat} {process : PfwSent → PfwCommand → Int}
  {device : Device} {sent : PfwSent} {calls : List DeviceCall}

theorem strtok_ne_nil {p : UInt8 → Bool} {found : List UInt8 × List UInt8} (h : strtok p s = some found) : s ≠ [] := by
  rintro rfl
  cases h

/-- The fields of a piece are found, and the strings behind the piece are still there. -/
theorem pfwFfmpegFields_eq (h : StrAt 0 mem i piece) :
    (ffmpegCommand piece = none ∧ pfwFfmpegFields mem i = none) ∨
      ∃ command mem', ffmpegCommand piece = some command ∧ pfwFfmpegFields mem i = some (command, mem') ∧
        ∀ j w, StrAt 0 mem j w → i + piece.length ≤ j → StrAt 0 mem' j w := by
  unfold ffmpegCommand pfwFfmpegFields
  cases htarget : strtok isComma piece with
  | none =>
    rw [tokens_of_none htarget, strtokR_none h htarget]
    exact .inl ⟨rfl, rfl⟩
  | some found =>
    obtain ⟨target, rest⟩ := found
    obtain ⟨f, hf, hfinds⟩ := strtokR_some h htarget
    rw [tokens_of_some htarget, hf]
    cases hcmd : strtok isComma rest with
    | none =>
      simp only [tokens_of_none hcmd, strtokR_none hfinds.atSaved hcmd]
      exact .inl ⟨trivial, trivial⟩
    | some found =>
      obtain ⟨cmd, rest'⟩ := found
      obtain ⟨f', hf', hfinds'⟩ := strtokR_some hfinds.atSaved hcmd
      have hseparated := hfinds.separated (strtok_ne_nil hcmd)
      have htargetAt := hfinds'.frame _ _ hfinds.atToken (.inl hseparated)
      have hinside := hfinds.inside
      have hframe : ∀ j w, StrAt 0 mem j w → i + piece.length ≤ j → StrAt 0 f'.mem j w := fun j w hw hj =>
        hfinds'.frame _ _ (hfinds.frame _ _ hw (.inr hj)) (.inr (by omega))
      simp only [tokens_of_some hcmd, hf']
      right
      cases harg : strtok isComma rest' with
      | none =>
        simp only [tokens_of_none harg, strtokR_none hfinds'.atSaved harg]
        refine ⟨_, _, rfl, ?_, hframe⟩
        rw [Option.map_none, Option.getD_none, htargetAt.cstr_eq, hfinds'.atToken.cstr_eq]
        rfl
      | some found =>
        obtain ⟨arg, rest''⟩ := found
        obtain ⟨f'', hf'', hfinds''⟩ := strtokR_some hfinds'.atSaved harg
        have hseparated' := hfinds'.separated (strtok_ne_nil harg)
        have hfirst := hfinds'.first
        have hinside' := hfinds'.inside
        have htargetAt' := hfinds''.frame _ _ htargetAt (.inl (by omega))
        have hcmdAt := hfinds''.frame _ _ hfinds'.atToken (.inl hseparated')
        simp only [tokens_of_some harg, hf'']
        refine ⟨_, _, rfl, ?_, fun j w hw hj => hfinds''.frame _ _ (hframe j w hw hj) (.inr (by omega))⟩
        rw [Option.map_some, Option.getD_some, Option.map_some, htargetAt'.cstr_eq, hcmdAt.cstr_eq,
          hfinds''.atToken.cstr_eq]
        rfl

/-- The loop sends the commands of the pieces.  Each pass leaves less of the string. -/
theorem pfwFfmpegWhile_eq (h : StrAt 0 mem i s) (hpasses : s.length ≤ passes) (sent : PfwSent) :
    pfwFfmpegWhile process passes (strtokR 0 isSemicolon mem i) sent =
      some (sendAll process sent (ffmpegCommands (tokens isSemicolon s))) := by
  induction passes generalizing mem i s sent with
  | zero =>
    obtain rfl : s = [] := List.length_eq_zero_iff.1 (by omega)
    rw [strtokR_none h rfl, tokens_of_none rfl]
    rfl
  | succ passes ih =>
    cases hpiece : strtok isSemicolon s with
    | none =>
      rw [strtokR_none h hpiece, tokens_of_none hpiece]
      rfl
    | some found =>
      obtain ⟨piece, rest⟩ := found
      obtain ⟨f, hf, hfinds⟩ := strtokR_some h hpiece
      have hlength := length_strtok hpiece
      rw [tokens_of_some hpiece, hf, pfwFfmpegWhile, ffmpegCommands]
      obtain ⟨hnone, hfields⟩ | ⟨command, mem', hcommand, hfields, hframe⟩ := pfwFfmpegFields_eq hfinds.atToken
      · rw [hnone, hfields]
        rfl
      · rw [hcommand, hfields]
        exact ih (hframe _ _ hfinds.atSaved hfinds.behind) (by omega) _

/-- `FFmpegCommand` sends the commands of the pieces of any string, up to the first piece that is none. -/
theorem pfwFfmpegCommandCallback_eq (process : PfwSent → PfwCommand → Int) (params : CBytes) :
    pfwFfmpegCommandCallback process (some (strdup params)) =
      some (sendAll process [] (ffmpegCommands (tokens isSemicolon params.val))) := by
  apply pfwFfmpegWhile_eq (s := params.val)
  · exact ⟨params.property, [], rfl⟩
  · exact List.length_append ▸ Nat.le_succ _

theorem pfwSetParameterWhile_eq (h : StrAt 0 mem i s) (hpasses : s.length ≤ passes) (calls : List DeviceCall) :
    pfwSetParameterWhile device passes (strtokR 0 isSemicolon mem i) calls =
      some (setAll device calls (parameters (tokens isSemicolon s))) := by
  induction passes generalizing mem i s calls with
  | zero =>
    obtain rfl : s = [] := List.length_eq_zero_iff.1 (by omega)
    rw [strtokR_none h rfl, tokens_of_none rfl]
    rfl
  | succ passes ih =>
    cases hpiece : strtok isSemicolon s with
    | none =>
      rw [strtokR_none h hpiece, tokens_of_none hpiece]
      rfl
    | some found =>
      obtain ⟨piece, rest⟩ := found
      obtain ⟨f, hf, hfinds⟩ := strtokR_some h hpiece
      have hlength := length_strtok hpiece
      rw [tokens_of_some hpiece, hf, pfwSetParameterWhile, parameters]
      cases hparameter : strtok isComma piece with
      | none =>
        rw [strtokR_none hfinds.atToken hparameter]
        rfl
      | some parameter =>
        obtain ⟨target, arg⟩ := parameter
        obtain ⟨f', hf', hfinds'⟩ := strtokR_some hfinds.atToken hparameter
        have hsaved := hfinds'.frame _ _ hfinds.atSaved (.inr hfinds.behind)
        simp only [hf', hfinds'.atToken.cstr_eq, hfinds'.atSaved.cstr_eq, setAll]
        split
        · rfl
        · split
          · rfl
          · exact ih hsaved (by omega) _

/-- `SetParameter` sets the parameters of the pieces of any string, up to the first piece without a target. -/
theorem pfwSetParameterCallback_eq (device : Device) (params : CBytes) :
    pfwSetParameterCallback device (some (strdup params)) =
      some (setAll device [] (parameters (tokens isSemicolon params.val))) := by
  apply pfwSetParameterWhile_eq (s := params.val)
  · exact ⟨params.property, [], rfl⟩
  · exact List.length_append ▸ Nat.le_succ _

/-! ### Strings that have been rendered -/

/-- Bytes that a field can have. -/
def IsPlain (s : List UInt8) : Prop := ∀ c ∈ s, c ≠ 0 ∧ isComma c = false ∧ isSemicolon c = false

structure PfwTriple where
  target : List UInt8
  cmd : List UInt8
  arg : List UInt8
  target_ne : target ≠ []
  cmd_ne : cmd ≠ []
  plain : IsPlain (target ++ cmd ++ arg)

/-- A target, and arguments in which there may be commas. -/
structure PfwPair where
  target : List UInt8
  args : List UInt8
  target_ne : target ≠ []
  args_ne : args ≠ []
  plain : IsPlain target
  args_plain : ∀ c ∈ args, c ≠ 0 ∧ isSemicolon c = false

namespace PfwTriple

/-- `target,cmd,arg` -/
def text (t : PfwTriple) : List UInt8 := t.target ++ 44 :: (t.cmd ++ 44 :: t.arg)

/-- What should be sent: an empty argument is `NULL`. -/
def command (t : PfwTriple) : PfwCommand where
  target := t.target
  cmd := t.cmd
  arg := if t.arg = [] then none else some t.arg

/-- `target,cmd,arg;` for each of them. -/
def render (ts : List PfwTriple) : List UInt8 := ts.flatMap fun t => t.text ++ [59]

variable (t : PfwTriple)

theorem plain_target : IsPlain t.target := fun c hc => t.plain c (by simp [hc])

theorem plain_cmd : IsPlain t.cmd := fun c hc => t.plain c (by simp [hc])

theorem plain_arg : IsPlain t.arg := fun c hc => t.plain c (by simp [hc])

/-- In a text there are the bytes of the fields, and commas. -/
theorem mem_text {c : UInt8} (hc : c ∈ t.text) : c ≠ 0 ∧ isSemicolon c = false := by
  have hcases : c ∈ t.target ∨ c = 44 ∨ c ∈ t.cmd ∨ c ∈ t.arg := by
    simp only [text, List.mem_append, List.mem_cons] at hc
    tauto
  rcases hcases with hc | rfl | hc | hc
  · exact ⟨(t.plain_target c hc).1, (t.plain_target c hc).2.2⟩
  · decide
  · exact ⟨(t.plain_cmd c hc).1, (t.plain_cmd c hc).2.2⟩
  · exact ⟨(t.plain_arg c hc).1, (t.plain_arg c hc).2.2⟩

theorem nul_notMem_render (ts : List PfwTriple) : (0 : UInt8) ∉ render ts := by
  intro hmem
  obtain ⟨t, -, hmem⟩ := List.mem_flatMap.1 hmem
  rcases List.mem_append.1 hmem with hmem | hmem
  · exact (t.mem_text hmem).1 rfl
  · exact absurd (List.mem_singleton.1 hmem) (by decide)

theorem ffmpegCommand_text : ffmpegCommand t.text = some t.command := by
  have htarget := strtok_append t.target_ne (fun a ha => (t.plain_target a ha).2.1) (c := 44) rfl (t.cmd ++ 44 :: t.arg)
  have hcmd := strtok_append t.cmd_ne (fun a ha => (t.plain_cmd a ha).2.1) (c := 44) rfl t.arg
  have harg : (tokens isComma t.arg).head? = if t.arg = [] then none else some t.arg := by
    by_cases hempty : t.arg = []
    · rw [if_pos hempty, hempty, tokens_of_none rfl]
      rfl
    · rw [if_neg hempty, tokens_of_some (strtok_self hempty fun a ha => (t.plain_arg a ha).2.1)]
      rfl
  rw [ffmpegCommand, text, tokens_of_some htarget, tokens_of_some hcmd]
  simp only [harg]
  rfl

theorem tokens_render (ts : List PfwTriple) : tokens isSemicolon (render ts) = ts.map text := by
  induction ts with
  | nil => exact tokens_of_none rfl
  | cons t ts ih =>
    have htext : t.text ≠ [] := by simp [text]
    have hpiece := strtok_append htext (fun a ha => (t.mem_text ha).2) (c := 59) rfl (render ts)
    have happend : render (t :: ts) = t.text ++ 59 :: render ts := by simp [render]
    rw [happend, tokens_of_some hpiece, ih, List.map_cons]

theorem ffmpegCommands_render (ts : List PfwTriple) :
    ffmpegCommands (tokens isSemicolon (render ts)) = ts.map command := by
  rw [tokens_render]
  induction ts with
  | nil => rfl
  | cons t ts ih => rw [List.map_cons, ffmpegCommands, ffmpegCommand_text, ih, List.map_cons]

end PfwTriple

namespace PfwPair

/-- `target,args` -/
def text (t : PfwPair) : List UInt8 := t.target ++ 44 :: t.args

/-- `target,args` for each of them, and `;` between them. -/
def render (ts : List PfwPair) : List UInt8 := [59].intercalate (ts.map text)

theorem mem_text (t : PfwPair) {c : UInt8} (hc : c ∈ t.text) : c ≠ 0 ∧ isSemicolon c = false := by
  have hcases : c ∈ t.target ∨ c = 44 ∨ c ∈ t.args := by
    simpa only [text, List.mem_append, List.mem_cons] using hc
  rcases hcases with hc | rfl | hc
  · exact ⟨(t.plain c hc).1, (t.plain c hc).2.2⟩
  · decide
  · exact t.args_plain c hc

theorem render_cons (t t' : PfwPair) (ts : List PfwPair) :
    render (t :: t' :: ts) = t.text ++ 59 :: render (t' :: ts) := by
  simp [render, List.intercalate]

theorem nul_notMem_render (ts : List PfwPair) : (0 : UInt8) ∉ render ts := by
  induction ts with
  | nil => simp [render, List.intercalate]
  | cons t ts ih =>
    cases ts with
    | nil =>
      intro hmem
      exact (t.mem_text (by simpa [render, List.intercalate] using hmem)).1 rfl
    | cons t' ts =>
      rw [render_cons]
      intro hmem
      rcases List.mem_append.1 hmem with hmem | hmem
      · exact (t.mem_text hmem).1 rfl
      · rcases List.mem_cons.1 hmem with heq | hmem
        · exact absurd heq (by decide)
        · exact ih hmem

theorem tokens_render (ts : List PfwPair) : tokens isSemicolon (render ts) = ts.map text := by
  induction ts with
  | nil => exact tokens_of_none rfl
  | cons t ts ih =>
    have htext : t.text ≠ [] := by simp [text]
    cases ts with
    | nil =>
      have happend : render [t] = t.text := by simp [render, List.intercalate]
      rw [happend, tokens_of_some (strtok_self htext fun a ha => (t.mem_text ha).2), tokens_of_none rfl]
      rfl
    | cons t' ts =>
      rw [render_cons, tokens_of_some (strtok_append htext (fun a ha => (t.mem_text ha).2) (c := 59) rfl _), ih]
      rfl

theorem parameters_render (ts : List PfwPair) :
    parameters (tokens isSemicolon (render ts)) = ts.map fun t => (t.target, t.args) := by
  rw [tokens_render]
  induction ts with
  | nil => rfl
  | cons t ts ih =>
    have hpiece := strtok_append t.target_ne (fun a ha => (t.plain a ha).2.1) (c := 44) rfl t.args
    rw [List.map_cons, parameters, text, hpiece]
    simp only [ih, List.map_cons]

end PfwPair

/-! ### The plugins -/

/-- The devices are opened one after the other, get their arguments, and are closed.  With the first one that fails,
it ends. -/
inductive SetInOrder (device : Device) : List DeviceCall → List PfwPair → List DeviceCall → Prop
  | done (calls : List DeviceCall) : SetInOrder device calls [] calls
  | missing (t : PfwPair) (ts : List PfwPair) {calls : List DeviceCall} {fd : Int} :
      device.opens calls t.target = fd → fd < 0 → SetInOrder device calls (t :: ts) (calls ++ [.opens t.target fd])
  | refused (t : PfwPair) (ts : List PfwPair) {calls : List DeviceCall} {fd ret : Int} :
      device.opens calls t.target = fd → 0 ≤ fd →
      device.ioctl (calls ++ [.opens t.target fd]) fd t.args = ret → ret < 0 →
      SetInOrder device calls (t :: ts) (calls ++ [.opens t.target fd, .ioctl fd t.args ret, .close fd])
  | set (t : PfwPair) {ts : List PfwPair} {calls calls' : List DeviceCall} {fd ret : Int} :
      device.opens calls t.target = fd → 0 ≤ fd →
      device.ioctl (calls ++ [.opens t.target fd]) fd t.args = ret → 0 ≤ ret →
      SetInOrder device (calls ++ [.opens t.target fd, .ioctl fd t.args ret, .close fd]) ts calls' →
      SetInOrder device calls (t :: ts) calls'

theorem setAll_inOrder (device : Device) (calls : List DeviceCall) (ts : List PfwPair) :
    SetInOrder device calls ts (setAll device calls (ts.map fun t => (t.target, t.args))) := by
  induction ts generalizing calls with
  | nil => exact .done calls
  | cons t ts ih =>
    rw [List.map_cons, setAll]
    dsimp only
    split
    · exact .missing t ts rfl ‹_›
    · rename_i hfd
      rw [List.append_assoc]
      split
      · exact .refused t ts rfl (Int.not_lt.1 hfd) rfl ‹_›
      · exact .set t rfl (Int.not_lt.1 hfd) rfl (Int.not_lt.1 ‹_›) (ih _)

/-- The strings drive exactly the actions that are listed in them, in this order. -/
theorem pfwPlugins_drive :
    (∀ process (ts : List PfwTriple), pfwFfmpegCommandCallback process
      (some (strdup ⟨PfwTriple.render ts, PfwTriple.nul_notMem_render ts⟩)) =
        some (sendAll process [] (ts.map PfwTriple.command))) ∧
    ∀ device (ts : List PfwPair), ∃ calls, pfwSetParameterCallback device
      (some (strdup ⟨PfwPair.render ts, PfwPair.nul_notMem_render ts⟩)) = some calls ∧
        SetInOrder device [] ts calls := by
  constructor
  · intro process ts
    rw [pfwFfmpegCommandCallback_eq, PfwTriple.ffmpegCommands_render]
  · intro device ts
    refine ⟨_, pfwSetParameterCallback_eq device _, ?_⟩
    rw [PfwPair.parameters_render]
    exact setAll_inOrder device [] ts

end MediaFramework
