import Mathlib.Data.List.Range
import MediaFramework.Server.MediaServer

/-!
# What the main loop polls (`server/media_graph.c`, `server/media_server.c`)

The graph and the server each put their descriptors into a part of one array, and the graph first collects the filters
that have some.  A write is recorded with its index, whether or not the array has that index.
-/

namespace MediaFramework

def MAX_GRAPH_SIZE : Int := 4096

def MAX_POLL_FILTERS : Nat := 16

/-! ### Loading the graph -/

/-- What `media_graph_load` meets: the results of the calls that it makes, and for each filter of the graph whether it can
be polled. -/
structure GraphLoading where
  openRet : Int := 3
  readRet : Int := 0
  alloc : Bool := true
  parseRet : Int := 0
  configRet : Int := 0
  filters : List Bool := []

/-- The result, the writes to `pollfts`, each of a filter, and whether the graph was freed. -/
structure GraphLoad where
  ret : Int
  pollfts : List (Nat × Nat) := []
  pollftn : Nat := 0
  freed : Bool := false

/-- The loop over the filters, from the `i`-th on: the writes, `pollftn`, and whether there are too many. -/
def mediaGraphLoadLoop : Nat → List Bool → Nat → List (Nat × Nat) × Nat × Bool
  | _, [], pollftn => ([], pollftn, false)
  | i, poll :: filters, pollftn =>
    if poll then
      if pollftn + 1 > MAX_POLL_FILTERS then ([(pollftn, i)], pollftn + 1, true)
      else
        let rest := mediaGraphLoadLoop (i + 1) filters (pollftn + 1)
        ((pollftn, i) :: rest.1, rest.2)
    else mediaGraphLoadLoop (i + 1) filters pollftn

def mediaGraphLoad (o : GraphLoading) : GraphLoad :=
  if o.openRet < 0 then { ret := o.openRet }
  else if o.readRet < 0 then { ret := o.readRet }
  else if o.readRet = MAX_GRAPH_SIZE then { ret := -EFBIG }
  else if o.alloc = false then { ret := -ENOMEM }
  else if o.parseRet < 0 then { ret := o.parseRet, freed := true }
  else if o.configRet < 0 then { ret := o.configRet, freed := true }
  else
    let r := mediaGraphLoadLoop 0 o.filters 0
    -- with too many filters the result is still that of `avfilter_graph_config`
    if r.2.2 then { ret := o.configRet, pollfts := r.1, pollftn := r.2.1, freed := true }
    else { ret := 0, pollfts := r.1, pollftn := r.2.1 }

/-- The writes are inside `pollfts`, and the caller learns that the graph was freed. -/
def GraphLoad.Inside (r : GraphLoad) : Prop :=
  (∀ w ∈ r.pollfts, w.1 < MAX_POLL_FILTERS) ∧ (r.freed = true → r.ret < 0)

/-- Every call that loads the graph succeeds. -/
def GraphLoading.Loads (o : GraphLoading) : Prop :=
  0 ≤ o.openRet ∧ 0 ≤ o.readRet ∧ o.readRet ≠ MAX_GRAPH_SIZE ∧ o.alloc = true ∧ 0 ≤ o.parseRet ∧ 0 ≤ o.configRet

/-! ### Collecting descriptors -/

/-- The result of a collector, and its writes to the array of descriptors and to that of cookies. -/
structure PollResult where
  ret : Int
  fds : List (Nat × Int) := []
  cookies : List (Nat × Option Nat) := []

/-- The writes are inside arrays of `count` entries, and a result that is not negative is how many entries there are,
from the first on. -/
def PollResult.Inside (count : Int) (r : PollResult) : Prop :=
  (∀ w ∈ r.fds, (w.1 : Int) < count) ∧ (∀ w ∈ r.cookies, (w.1 : Int) < count) ∧
    (0 ≤ r.ret → r.ret ≤ count ∧ r.fds.map (·.1) = List.range r.ret.toNat ∧
      r.cookies.map (·.1) = List.range r.ret.toNat)

/-- A filter that can be polled: what it answers to `get_pollfd` with room for so many descriptors; `none` is an error. -/
structure PollFilter where
  answer : Nat → Option (List Int)
  fits : ∀ room fds, answer room = some fds → fds.length ≤ room

/-- The writes of `xs` from the index `n` on. -/
def writesFrom {α : Type*} (n : Nat) (xs : List α) : List (Nat × α) := (xs.zipIdx n).map fun x => (x.2, x.1)

/-- The loop over the descriptors of one filter: the writes of its cookie, and `nfd`, or `none` when it is above
`count`. -/
def pollCookiesLoop (count : Int) (cookie : Nat) : Nat → Nat → List (Nat × Option Nat) × Option Nat
  | 0, nfd => ([], some nfd)
  | ret + 1, nfd =>
    if (nfd + 1 : Int) > count then ([(nfd, some cookie)], none)
    else
      let rest := pollCookiesLoop count cookie ret (nfd + 1)
      ((nfd, some cookie) :: rest.1, rest.2)

/-- The loop over the filters, from the `i`-th on. -/
def mediaGraphGetPollfdsLoop (count : Int) : Nat → List PollFilter → Nat → PollResult
  | _, [], nfd => { ret := nfd }
  | i, filter :: filters, nfd =>
    match filter.answer (count - nfd).toNat with
    | none => mediaGraphGetPollfdsLoop count (i + 1) filters nfd
    | some fds =>
      let cookies := pollCookiesLoop count i fds.length nfd
      match cookies.2 with
      | none => { ret := -EINVAL, fds := writesFrom nfd fds, cookies := cookies.1 }
      | some nfd' =>
        let rest := mediaGraphGetPollfdsLoop count (i + 1) filters nfd'
        { ret := rest.ret, fds := writesFrom nfd fds ++ rest.fds, cookies := cookies.1 ++ rest.cookies }

/-- `fd` is the event descriptor of the graph. -/
def mediaGraphGetPollfds (fd : Int) (filters : List PollFilter) (hasFds : Bool) (count : Int) : PollResult :=
  if hasFds = false ∨ count < 2 then { ret := -EINVAL }
  else
    let rest := mediaGraphGetPollfdsLoop count 0 filters 1
    { ret := rest.ret, fds := (0, fd) :: rest.fds, cookies := (0, none) :: rest.cookies }

/-- The sockets on which the server listens; there is a third one if it has a port. -/
structure ListenFds where
  localFd : Int
  rpmsgFd : Int
  inetFd : Option Int := none

/-- The sockets that are open, in their order. -/
def ListenFds.openFds (l : ListenFds) : List Int := ([l.localFd, l.rpmsgFd] ++ l.inetFd.toList).filter (0 < ·)

/-- The loop over the connections, from the `j`-th on: the writes, and the result. -/
def mediaServerGetPollfdsLoop (count : Int) : Nat → MediaServerConns → Nat → PollResult
  | _, [], i => { ret := i }
  | j, conn :: conns, i =>
    if 0 < conn.tranFd then
      if (i + 1 : Int) > count then { ret := -EINVAL, fds := [(i, conn.tranFd)], cookies := [(i, some j)] }
      else
        let rest := mediaServerGetPollfdsLoop count (j + 1) conns (i + 1)
        { ret := rest.ret, fds := (i, conn.tranFd) :: rest.fds, cookies := (i, some j) :: rest.cookies }
    else mediaServerGetPollfdsLoop count (j + 1) conns i

def mediaServerGetPollfds (l : ListenFds) (conns : MediaServerConns) (hasFds : Bool) (count : Int) : PollResult :=
  if hasFds = false ∨ count ≤ 2 then { ret := -EINVAL }
  else
    let rest := mediaServerGetPollfdsLoop count 0 conns l.openFds.length
    { ret := rest.ret
      fds := writesFrom 0 l.openFds ++ rest.fds
      cookies := writesFrom 0 (l.openFds.map fun _ => none) ++ rest.cookies }

/-- The connections whose request socket is open. -/
def openConns (conns : MediaServerConns) : Nat := conns.countP fun conn => 0 < conn.tranFd

/-! ### The filters of a graph -/

/-- As long as there is room the filters are written one after the other; the first one too many is written as well. -/
theorem mediaGraphLoadLoop_spec (filters : List Bool) :
    ∀ (i : Nat) {pollftn : Nat}, pollftn ≤ MAX_POLL_FILTERS →
      (pollftn + filters.count true ≤ MAX_POLL_FILTERS →
        (mediaGraphLoadLoop i filters pollftn).2.2 = false ∧
          ∀ w ∈ (mediaGraphLoadLoop i filters pollftn).1, w.1 < MAX_POLL_FILTERS) ∧
      (MAX_POLL_FILTERS < pollftn + filters.count true → (mediaGraphLoadLoop i filters pollftn).2.2 = true) := by
  induction filters with
  | nil =>
    intro i pollftn hle
    exact ⟨fun _ => ⟨rfl, nofun⟩, fun hlt => absurd hlt (by simpa using hle)⟩
  | cons poll filters ih =>
    intro i pollftn hle
    cases poll with
    | false => simpa [mediaGraphLoadLoop] using ih (i + 1) hle
    | true =>
      rw [mediaGraphLoadLoop, if_pos rfl, List.count_cons_self]
      by_cases hfull : pollftn + 1 > MAX_POLL_FILTERS
      · rw [if_pos hfull]
        exact ⟨fun hroom => absurd hfull (by omega), fun _ => rfl⟩
      · rw [if_neg hfull]
        obtain ⟨hfew, hmany⟩ := ih (i + 1) (show pollftn + 1 ≤ MAX_POLL_FILTERS by omega)
        constructor
        · intro hroom
          obtain ⟨hend, hinside⟩ := hfew (by omega)
          refine ⟨hend, ?_⟩
          intro w hw
          rcases List.mem_cons.1 hw with rfl | hw
          · exact Nat.lt_of_succ_le (Nat.le_of_not_lt hfull)
          · exact hinside w hw
        · exact fun hlt => hmany (by omega)

theorem GraphLoad.inside_of_ret {ret : Int} {freed : Bool} (h : freed = true → ret < 0) :
    ({ ret, freed } : GraphLoad).Inside :=
  ⟨nofun, h⟩

/-- Loading stays inside `pollfts` and reports a freed graph unless there are too many filters. -/
theorem mediaGraphLoad_inside (o : GraphLoading) :
    (mediaGraphLoad o).Inside ↔ (o.Loads → o.filters.count true ≤ MAX_POLL_FILTERS) := by
  obtain ⟨hfew, hmany⟩ := mediaGraphLoadLoop_spec o.filters 0 (Nat.zero_le MAX_POLL_FILTERS)
  rw [Nat.zero_add] at hfew hmany
  by_cases hloads : o.Loads
  · obtain ⟨hopen, hread, hsize, halloc, hparse, hconfig⟩ := hloads
    rw [mediaGraphLoad, if_neg (by omega), if_neg (by omega), if_neg hsize, if_neg (by simp [halloc]),
      if_neg (by omega), if_neg (by omega)]
    dsimp only
    by_cases hroom : o.filters.count true ≤ MAX_POLL_FILTERS
    · obtain ⟨hend, hinside⟩ := hfew hroom
      rw [if_neg (by simp [hend])]
      exact iff_of_true ⟨hinside, nofun⟩ fun _ => hroom
    · rw [if_pos (hmany (by omega))]
      refine iff_of_false ?_ fun h => hroom (h ⟨hopen, hread, hsize, halloc, hparse, hconfig⟩)
      intro hinside
      have hneg : o.configRet < 0 := hinside.2 rfl
      omega
  · refine iff_of_true ?_ fun h => absurd h hloads
    unfold mediaGraphLoad
    unfold GraphLoading.Loads at hloads
    split_ifs with hopen hread hsize halloc hparse hconfig
    · exact GraphLoad.inside_of_ret nofun
    · exact GraphLoad.inside_of_ret nofun
    · exact GraphLoad.inside_of_ret nofun
    · exact GraphLoad.inside_of_ret nofun
    · exact GraphLoad.inside_of_ret fun _ => hparse
    · exact GraphLoad.inside_of_ret fun _ => hconfig
    all_goals
      refine absurd ⟨by omega, by omega, hsize, ?_, by omega, by omega⟩ hloads
      simpa using halloc

/-! ### The descriptors of the graph -/

theorem writesFrom_map {α : Type*} (n : Nat) (xs : List α) :
    (writesFrom n xs).map (·.1) = List.range' n xs.length := by
  rw [writesFrom, List.map_map]
  exact List.zipIdx_map_snd n xs

/-- `Inside`, for the part of the writes from the index `n` on. -/
def PollResult.InsideFrom (count : Int) (n : Nat) (r : PollResult) : Prop :=
  (∀ w ∈ r.fds, (w.1 : Int) < count) ∧ (∀ w ∈ r.cookies, (w.1 : Int) < count) ∧
    (0 ≤ r.ret → ∃ m : Nat, r.ret = n + m ∧ n + m ≤ count ∧ r.fds.map (·.1) = List.range' n m ∧
      r.cookies.map (·.1) = List.range' n m)

theorem PollResult.insideFrom_end {count : Int} {n : Nat} (h : n ≤ count) :
    PollResult.InsideFrom count n { ret := n } :=
  ⟨nofun, nofun, fun _ => ⟨0, rfl, by simpa using h, rfl, rfl⟩⟩

theorem PollResult.inside_of_neg {count ret : Int} (h : ret < 0) : PollResult.Inside count { ret } :=
  ⟨nofun, nofun, fun hret => absurd h (Int.not_lt.2 hret)⟩

/-- Writes that come before the others, one at each index. -/
theorem PollResult.InsideFrom.append {count : Int} {n k : Nat} (fds : List (Nat × Int))
    (cookies : List (Nat × Option Nat)) {r : PollResult} (h : r.InsideFrom count (n + k)) (hk : n + k ≤ count)
    (hfds : fds.map (·.1) = List.range' n k) (hcookies : cookies.map (·.1) = List.range' n k) :
    PollResult.InsideFrom count n ⟨r.ret, fds ++ r.fds, cookies ++ r.cookies⟩ := by
  have hbelow : ∀ i ∈ List.range' n k, (i : Int) < count := by
    intro i hi
    have hlt := (List.mem_range'_1.1 hi).2
    omega
  refine ⟨?_, ?_, ?_⟩
  · intro w hw
    rcases List.mem_append.1 hw with hw | hw
    · exact hbelow _ (hfds ▸ List.mem_map_of_mem hw)
    · exact h.1 w hw
  · intro w hw
    rcases List.mem_append.1 hw with hw | hw
    · exact hbelow _ (hcookies ▸ List.mem_map_of_mem hw)
    · exact h.2.1 w hw
  · intro hret
    obtain ⟨m, hm, hle, hrest, hrest'⟩ := h.2.2 hret
    refine ⟨k + m, ?_, ?_, ?_, ?_⟩
    · dsimp only
      omega
    · omega
    · rw [List.map_append, hfds, hrest, List.range'_append_1]
    · rw [List.map_append, hcookies, hrest', List.range'_append_1]

/-- Writes from the first index on. -/
theorem PollResult.InsideFrom.inside {count : Int} {r : PollResult} (h : r.InsideFrom count 0) : r.Inside count := by
  refine ⟨h.1, h.2.1, ?_⟩
  intro hret
  obtain ⟨m, hm, hle, hfds, hcookies⟩ := h.2.2 hret
  have hm' : r.ret.toNat = m := by omega
  rw [hm', hfds, hcookies, List.range_eq_range']
  exact ⟨by omega, rfl, rfl⟩

/-- As many descriptors as there is room for: their cookies are written beside them. -/
theorem pollCookiesLoop_spec {count : Int} (cookie : Nat) (ret : Nat) :
    ∀ {nfd : Nat}, (nfd + ret : Int) ≤ count →
      (pollCookiesLoop count cookie ret nfd).2 = some (nfd + ret) ∧
        (pollCookiesLoop count cookie ret nfd).1.map (·.1) = List.range' nfd ret := by
  induction ret with
  | zero =>
    intro nfd _
    exact ⟨rfl, rfl⟩
  | succ ret ih =>
    intro nfd hroom
    obtain ⟨hend, hwrites⟩ := ih (show ((nfd + 1 : Nat) + ret : Int) ≤ count by omega)
    rw [pollCookiesLoop, if_neg (by omega)]
    refine ⟨?_, ?_⟩
    · dsimp only
      rw [hend]
      congr 1
      omega
    · rw [List.map_cons, hwrites, List.range'_succ]

/-- Each filter is told the room that is left, so the loop never leaves the arrays. -/
theorem mediaGraphGetPollfdsLoop_inside {count : Int} (filters : List PollFilter) :
    ∀ (i : Nat) {nfd : Nat}, nfd ≤ count → (mediaGraphGetPollfdsLoop count i filters nfd).InsideFrom count nfd := by
  induction filters with
  | nil =>
    intro i nfd hroom
    exact PollResult.insideFrom_end hroom
  | cons filter filters ih =>
    intro i nfd hroom
    rw [mediaGraphGetPollfdsLoop]
    cases hanswer : filter.answer (count - nfd).toNat with
    | none => exact ih (i + 1) hroom
    | some fds =>
      have hfits := filter.fits _ _ hanswer
      obtain ⟨hend, hwrites⟩ := pollCookiesLoop_spec i fds.length (show (nfd + fds.length : Int) ≤ count by omega)
      dsimp only
      rw [hend]
      have hle : ((nfd + fds.length : Nat) : Int) ≤ count := by omega
      exact (ih (i + 1) hle).append _ _ (by omega) (writesFrom_map nfd fds) hwrites

theorem mediaGraphGetPollfds_inside (fd : Int) (filters : List PollFilter) (hasFds : Bool) (count : Int) :
    (mediaGraphGetPollfds fd filters hasFds count).Inside count := by
  unfold mediaGraphGetPollfds
  split
  · exact PollResult.inside_of_neg (by decide)
  · rename_i hcalled
    rw [not_or] at hcalled
    have hrest := mediaGraphGetPollfdsLoop_inside filters 0 (show ((1 : Nat) : Int) ≤ count by omega)
    have hfirst : ((0 + 1 : Nat) : Int) ≤ count := by omega
    exact (PollResult.InsideFrom.append (n := 0) (k := 1) [(0, fd)] [(0, none)] hrest hfirst rfl rfl).inside

/-! ### The descriptors of the server -/

/-- With room for every open connection the loop stays inside; otherwise it writes behind the last entry. -/
theorem mediaServerGetPollfdsLoop_spec {count : Int} (conns : MediaServerConns) :
    ∀ (j : Nat) {i : Nat}, i ≤ count →
      (i + openConns conns ≤ count → (mediaServerGetPollfdsLoop count j conns i).InsideFrom count i) ∧
      (count < i + openConns conns → ∃ w ∈ (mediaServerGetPollfdsLoop count j conns i).fds, (w.1 : Int) = count) := by
  induction conns with
  | nil =>
    intro j i hroom
    refine ⟨fun _ => ?_, fun hlt => ?_⟩
    · exact PollResult.insideFrom_end hroom
    · simp [openConns] at hlt
      omega
  | cons conn conns ih =>
    intro j i hroom
    rw [mediaServerGetPollfdsLoop]
    by_cases hconn : 0 < conn.tranFd
    · have hopen : openConns (conn :: conns) = openConns conns + 1 := by simp [openConns, hconn]
      rw [if_pos hconn, hopen]
      by_cases hfull : (i + 1 : Int) > count
      · rw [if_pos hfull]
        refine ⟨fun hle => absurd hfull (by omega), fun _ => ⟨_, List.mem_singleton_self _, ?_⟩⟩
        dsimp only
        omega
      · rw [if_neg hfull]
        obtain ⟨hfew, hmany⟩ := ih (j + 1) (show ((i + 1 : Nat) : Int) ≤ count by omega)
        constructor
        · intro hle
          exact PollResult.InsideFrom.append [(i, conn.tranFd)] [(i, some j)] (hfew (by omega)) (by omega) rfl rfl
        · intro hlt
          obtain ⟨w, hw, heq⟩ := hmany (by omega)
          exact ⟨w, List.mem_cons_of_mem _ hw, heq⟩
    · have hopen : openConns (conn :: conns) = openConns conns := by simp [openConns, hconn]
      rw [if_neg hconn, hopen]
      exact ih (j + 1) hroom

/-- The server stays inside its arrays unless it has more sockets than there is room for. -/
theorem mediaServerGetPollfds_inside (l : ListenFds) (conns : MediaServerConns) (hasFds : Bool) (count : Int) :
    (mediaServerGetPollfds l conns hasFds count).Inside count ↔
      (hasFds = true → 2 < count → l.openFds.length + openConns conns ≤ count) := by
  unfold mediaServerGetPollfds
  split
  · rename_i hcalled
    refine iff_of_true (PollResult.inside_of_neg (by decide)) ?_
    intro hfds hcount
    rcases hcalled with h | h
    · rw [h] at hfds
      cases hfds
    · omega
  · rename_i hcalled
    rw [not_or, Bool.not_eq_false] at hcalled
    have hlisten : l.openFds.length ≤ 3 := by
      refine (List.length_filter_le ..).trans ?_
      cases l.inetFd <;> simp
    obtain ⟨hfew, hmany⟩ := mediaServerGetPollfdsLoop_spec conns 0 (show (l.openFds.length : Int) ≤ count by omega)
    by_cases hroom : (l.openFds.length + openConns conns : Int) ≤ count
    · have hrest : (mediaServerGetPollfdsLoop count 0 conns l.openFds.length).InsideFrom count
        (0 + l.openFds.length) := by
        rw [Nat.zero_add]
        exact hfew hroom
      have hcookies : (writesFrom 0 (l.openFds.map fun _ => (none : Option Nat))).map (·.1) =
          List.range' 0 l.openFds.length := by
        rw [writesFrom_map, List.length_map]
      exact iff_of_true (hrest.append _ _ (by omega) (writesFrom_map 0 _) hcookies).inside fun _ _ => hroom
    · refine iff_of_false ?_ fun h => hroom (h hcalled.1 (by omega))
      intro hinside
      obtain ⟨w, hw, heq⟩ := hmany (by omega)
      have hlt := hinside.1 w (List.mem_append_right _ hw)
      omega

/-- The graph collects its descriptors inside the arrays; loading it does unless it has too many filters that can be
polled, and the server does unless it has more sockets than there is room for. -/
theorem pollCollectors_inside (o : GraphLoading) (fd : Int) (filters : List PollFilter) (l : ListenFds)
    (conns : MediaServerConns) (hasFds : Bool) (count : Int) :
    ((mediaGraphLoad o).Inside ↔ (o.Loads → o.filters.count true ≤ MAX_POLL_FILTERS)) ∧
      (mediaGraphGetPollfds fd filters hasFds count).Inside count ∧
      ((mediaServerGetPollfds l conns hasFds count).Inside count ↔
        (hasFds = true → 2 < count → l.openFds.length + openConns conns ≤ count)) :=
  ⟨mediaGraphLoad_inside o, mediaGraphGetPollfds_inside fd filters hasFds count,
    mediaServerGetPollfds_inside l conns hasFds count⟩

/-- With seventeen filters that can be polled, or one socket more than there is room for, they do not. -/
theorem pollCollectors_not_inside : ¬ (∀ o : GraphLoading, (mediaGraphLoad o).Inside) ∧
    ¬ ∀ l conns hasFds count, (mediaServerGetPollfds l conns hasFds count).Inside count := by
  constructor
  · intro h
    have hinside := h { filters := List.replicate 17 true }
    have hret := hinside.2 (by decide)
    revert hret
    decide
  · intro h
    have hinside := h ⟨3, 4, none⟩ [{ tranFd := 5 }, { tranFd := 6 }] true 3
    have hlt := hinside.1 (3, 6) (by decide)
    revert hlt
    decide

end MediaFramework
