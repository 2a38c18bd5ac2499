import MediaFramework.Library.Strtok
import MediaFramework.Parcel.ParcelAppend

/-!
# The list of CPU names (`media_get_cpuname`)

Three files of the client library take the list of CPU names apart.  `media_proxy` and `media_uv_stream_listen_init`
split a copy of at most 127 bytes at `" ,;|"`.  `media_uv_connect` copies the whole list and splits it at
`MEDIA_CPU_DELIM`, one name with each attempt to connect.
-/

namespace MediaFramework

open Strtok

def separators (s : String) : List UInt8 := s.toList.map fun c => c.toNat.toUInt8

/-- The separators of `media_proxy` and `media_uv_stream_listen_init`. -/
def proxyDelim (c : UInt8) : Bool := c ∈ separators " ,;|"

/-- The separators of `media_uv_connect` and `media_uv_reconnect_one`. -/
def MEDIA_CPU_DELIM (c : UInt8) : Bool := c ∈ separators " ,;\t\n"

/-- What `strlcpy` puts into the 128 bytes of `tmp`. -/
def cpuTmp (cpus : List UInt8) : List UInt8 := cpus.take 127

/-- The names that the loop of `media_proxy` goes through. -/
def mediaProxyNames (cpus : CBytes) : List (List UInt8) := tokens proxyDelim (cpuTmp cpus)

/-- The names that the loop of `media_uv_stream_listen_init` goes through. -/
def mediaUvStreamListenInitNames (cpus : CBytes) : List (List UInt8) := tokens proxyDelim (cpuTmp cpus)

/-- The members `cpu` and `cpus` of the proxy of `media_uv.c`. -/
structure CpuCursor where
  cpu : Option (List UInt8)
  cpus : List UInt8

namespace CpuCursor

/-- `proxy->cpu = strtok_r(.., MEDIA_CPU_DELIM, &proxy->cpus)`. -/
def strtok (s : CpuCursor) : CpuCursor :=
  match Strtok.strtok MEDIA_CPU_DELIM s.cpus with
  | none => { cpu := none, cpus := [] }
  | some (cpu, cpus) => { cpu := some cpu, cpus }

/-- `media_uv_connect` on a new proxy. -/
def mediaUvConnect (cpus : CBytes) : CpuCursor := strtok { cpu := none, cpus := cpus.val }

def mediaUvReconnectOne (s : CpuCursor) : CpuCursor := s.strtok

/-- The name that is tried after `n` calls of `media_uv_reconnect_one`, NULL when there is none. -/
def tried (cpus : CBytes) (n : Nat) : Option (List UInt8) := (mediaUvReconnectOne^[n] (mediaUvConnect cpus)).cpu

end CpuCursor

/-- The three go through the same names. -/
def SameNames (cpus : CBytes) : Prop :=
  (∀ n, CpuCursor.tried cpus n = (mediaProxyNames cpus)[n]?) ∧
    mediaUvStreamListenInitNames cpus = mediaProxyNames cpus

/-- The first 127 bytes have no separator of only one of the two kinds, and the bytes behind them are separators. -/
def ReadAlike (cpus : CBytes) : Prop :=
  (∀ c ∈ cpus.val.take 127, proxyDelim c = MEDIA_CPU_DELIM c) ∧ ∀ c ∈ cpus.val.drop 127, MEDIA_CPU_DELIM c = true

instance (cpus : CBytes) : Decidable (ReadAlike cpus) := inferInstanceAs (Decidable (_ ∧ _))

variable {cpus : CBytes}

/-- Whatever was tried before, one call after the other finds the tokens of what is left. -/
theorem iterate_strtok (c : CpuCursor) (n : Nat) :
    (CpuCursor.mediaUvReconnectOne^[n] c.strtok).cpu = (tokens MEDIA_CPU_DELIM c.cpus)[n]? := by
  induction n generalizing c with
  | zero =>
    rw [Function.iterate_zero_apply, CpuCursor.strtok]
    cases h : strtok MEDIA_CPU_DELIM c.cpus with
    | none => rw [tokens_of_none h]; rfl
    | some found => rw [tokens_of_some h]; rfl
  | succ n ih =>
    rw [Function.iterate_succ_apply, CpuCursor.mediaUvReconnectOne, ih, CpuCursor.strtok]
    cases h : strtok MEDIA_CPU_DELIM c.cpus with
    | none => rw [tokens_of_none h, tokens_of_none rfl]; rfl
    | some found => rw [tokens_of_some h, List.getElem?_cons_succ]

theorem sameNames_iff : SameNames cpus ↔ tokens MEDIA_CPU_DELIM cpus.val = tokens proxyDelim (cpus.val.take 127) := by
  constructor
  · rintro ⟨htried, -⟩
    apply List.ext_getElem?
    intro n
    rw [← iterate_strtok ⟨none, cpus.val⟩ n]
    exact htried n
  · intro h
    refine ⟨fun n => ?_, rfl⟩
    rw [mediaProxyNames, cpuTmp, ← h]
    exact iterate_strtok ⟨none, cpus.val⟩ n

/-- The list is read the same way by all clients exactly if no byte of the copy is a separator for only some of them,
and nothing but separators is lost behind it. -/
theorem cpuNames_same : SameNames cpus ↔ ReadAlike cpus := by
  rw [sameNames_iff]
  have hsplit := List.take_append_drop 127 cpus.val
  constructor
  · intro h
    -- Both lists of names are made of the same characters.
    have hchars := congrArg List.flatten h
    rw [flatten_tokens, flatten_tokens, ← hsplit, List.filter_append, List.take_append_drop] at hchars
    have halike : ∀ c ∈ cpus.val.take 127, proxyDelim c = MEDIA_CPU_DELIM c := by
      intro c hc
      cases hproxy : proxyDelim c with
      | false =>
        have hmem : c ∈ (cpus.val.take 127).filter fun a => !proxyDelim a := List.mem_filter.2 ⟨hc, by simp [hproxy]⟩
        rw [← hchars, ← List.filter_append, List.mem_filter] at hmem
        simpa using hmem.2
      | true =>
        cases huv : MEDIA_CPU_DELIM c with
        | true => rfl
        | false =>
          have hmem : c ∈ (cpus.val.take 127).filter fun a => !MEDIA_CPU_DELIM a :=
            List.mem_filter.2 ⟨hc, by simp [huv]⟩
          have hmem' := List.mem_append_left ((cpus.val.drop 127).filter fun a => !MEDIA_CPU_DELIM a) hmem
          rw [hchars, List.mem_filter, hproxy] at hmem'
          exact absurd hmem'.2 (by decide)
    refine ⟨halike, fun c hc => ?_⟩
    have hfilter : (cpus.val.take 127).filter (fun a => !proxyDelim a) =
        (cpus.val.take 127).filter fun a => !MEDIA_CPU_DELIM a :=
      List.filter_congr fun a ha => by rw [halike a ha]
    have hnone : (cpus.val.drop 127).filter (fun a => !MEDIA_CPU_DELIM a) = [] :=
      List.append_right_eq_self.1 (hchars.trans hfilter)
    simpa using List.filter_eq_nil_iff.1 hnone c hc
  · rintro ⟨halike, hrest⟩
    calc tokens MEDIA_CPU_DELIM cpus.val
      _ = tokens MEDIA_CPU_DELIM (cpus.val.take 127 ++ cpus.val.drop 127) := by rw [hsplit]
      _ = tokens MEDIA_CPU_DELIM (cpus.val.take 127) := tokens_append hrest
      _ = tokens proxyDelim (cpus.val.take 127) := tokens_congr fun c hc => (halike c hc).symm

/-- `ap|cp` are two names, or one. -/
def barredNames : CBytes := ⟨separators "ap|cp", by decide⟩

theorem cpuNames_differ : ¬ ∀ cpus : CBytes, SameNames cpus := by
  intro h
  have htokens := sameNames_iff.1 (h barredNames)
  rw [tokens_eq_pieces, tokens_eq_pieces] at htokens
  revert htokens
  decide

end MediaFramework
