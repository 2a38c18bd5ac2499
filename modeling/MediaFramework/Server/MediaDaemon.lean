import MediaFramework.Server.PollCollectors

/-!
# The descriptors that the daemon waits for (`server/media_daemon.c`)

The main loop lets the modules write their descriptors one behind the other into one array, and their cookies into a
second one, and notes in a third one whose they are.  What a module has written before it fails is overwritten by the
next one.
-/

namespace MediaFramework

/-- An entry of `g_media`, with the collector of the module if it has one. -/
structure MediaPoll where
  name : String
  get : Option (Int → PollResult) := none

/-- `MediaPriv`. -/
structure MediaPriv where
  idx : List Nat
  fds : List Int
  ctx : List (Option Nat)

/-- The arrays have `size` entries, `MAX_POLLFDS` of the source. -/
structure MediaPriv.Sized (size : Nat) (priv : MediaPriv) : Prop where
  idx : priv.idx.length = size
  fds : priv.fds.length = size
  ctx : priv.ctx.length = size

/-- The writes to the part of an array from the index `n` on; there is no result if one is behind its end. -/
def storeFrom {α : Type*} (n : Nat) (xs : List α) : List (Nat × α) → Option (List α)
  | [] => some xs
  | w :: ws => if n + w.1 < xs.length then storeFrom n (xs.set (n + w.1) w.2) ws else none

/-- The loop over `g_media`, from the `i`-th entry on: how many descriptors there are, and the arrays. -/
def mainCollect (size : Nat) : Nat → List MediaPoll → Nat → MediaPriv → Option (Nat × MediaPriv)
  | _, [], n, priv => some (n, priv)
  | i, media :: medias, n, priv =>
    match media.get with
    | none => mainCollect size (i + 1) medias n priv
    | some get =>
      let r := get (size - n)
      (storeFrom n priv.fds r.fds).bind fun fds =>
        (storeFrom n priv.ctx r.cookies).bind fun ctx =>
          if r.ret < 0 then mainCollect size (i + 1) medias n { priv with fds, ctx }
          else
            (storeFrom n priv.idx ((List.range r.ret.toNat).map fun k => (k, i))).bind fun idx =>
              mainCollect size (i + 1) medias (n + r.ret.toNat) { idx, fds, ctx }

/-- An entry that is polled: the module, the descriptor and the cookie. -/
structure Polled where
  idx : Nat
  fd : Int
  ctx : Option Nat
  deriving DecidableEq

/-- The first `n` entries of the arrays. -/
def MediaPriv.polled (priv : MediaPriv) (n : Nat) : List Polled :=
  List.zipWith (fun idx (p : Int × Option Nat) => ⟨idx, p.1, p.2⟩) (priv.idx.take n)
    ((priv.fds.take n).zip (priv.ctx.take n))

/-! ### Writes to a part of an array -/

section Store

variable {α : Type*} {n k : Nat} {xs ys : List α} {ws : List (Nat × α)}

theorem storeFrom_isSome : (storeFrom n xs ws).isSome = true ↔ ∀ w ∈ ws, n + w.1 < xs.length := by
  induction ws generalizing xs with
  | nil => simp [storeFrom]
  | cons w ws ih =>
    rw [storeFrom, List.forall_mem_cons]
    by_cases hw : n + w.1 < xs.length
    · rw [if_pos hw, ih, List.length_set]
      exact ⟨fun h => ⟨hw, h⟩, fun h => h.2⟩
    · rw [if_neg hw]
      simp [hw]

theorem exists_storeFrom (h : ∀ w ∈ ws, n + w.1 < xs.length) : ∃ ys, storeFrom n xs ws = some ys :=
  Option.isSome_iff_exists.1 (storeFrom_isSome.2 h)

theorem storeFrom_length (h : storeFrom n xs ws = some ys) : ys.length = xs.length := by
  induction ws generalizing xs with
  | nil =>
    cases h
    rfl
  | cons w ws ih =>
    rw [storeFrom] at h
    split at h
    · rw [ih h, List.length_set]
    · cases h

/-- What is before the part stays. -/
theorem storeFrom_take (h : storeFrom n xs ws = some ys) : ys.take n = xs.take n := by
  induction ws generalizing xs with
  | nil =>
    cases h
    rfl
  | cons w ws ih =>
    rw [storeFrom] at h
    split at h
    · rw [ih h, List.take_set_of_le (Nat.le_add_right ..)]
    · cases h

/-- Writes at one index after the other put their values there. -/
theorem storeFrom_range (hws : ws.map Prod.fst = List.range' k ws.length) (h : storeFrom n xs ws = some ys) :
    ys.take (n + k + ws.length) = xs.take (n + k) ++ ws.map Prod.snd := by
  induction ws generalizing xs k with
  | nil =>
    cases h
    simp
  | cons w ws ih =>
    rw [List.map_cons, List.length_cons, List.range'_succ, List.cons.injEq] at hws
    obtain ⟨hw, hws⟩ := hws
    rw [storeFrom] at h
    split at h
    · rename_i hlt
      have hrest := ih hws h
      have hlength : n + k + (w :: ws).length = n + (k + 1) + ws.length := by
        rw [List.length_cons]
        omega
      rw [hlength, hrest, ← Nat.add_assoc, List.take_add_one, hw, List.take_set_of_le (Nat.le_refl _),
        List.getElem?_set_self (hw ▸ hlt)]
      simp
    · cases h

/-- The writes of a collector that succeeds. -/
theorem storeFrom_values {m : Nat} (hws : ws.map Prod.fst = List.range m) (h : storeFrom n xs ws = some ys) :
    ys.take (n + m) = xs.take n ++ ws.map Prod.snd := by
  have hm : ws.length = m := by simpa using congrArg List.length hws
  have hstore := storeFrom_range (k := 0) (by rw [hws, List.range_eq_range', hm]) h
  rwa [hm, Nat.add_zero] at hstore

end Store

/-! ### One collector after the other -/

/-- What is polled of a collector, the module `i` of the daemon. -/
def PollResult.polled (i : Nat) (r : PollResult) : List Polled :=
  if r.ret < 0 then [] else List.zipWith (fun fd cookie => ⟨i, fd.2, cookie.2⟩) r.fds r.cookies

variable {size n m i : Nat} {priv : MediaPriv} {name : String} {get : Int → PollResult} {medias : List MediaPoll}

theorem polled_append {idx : List Nat} {fds : List Int} {ctx : List (Option Nat)} {idx' : List Nat} {fds' : List Int}
    {ctx' : List (Option Nat)} (hsized : priv.Sized size)
    (hidx : idx.take (n + m) = priv.idx.take n ++ idx') (hfds : fds.take (n + m) = priv.fds.take n ++ fds')
    (hctx : ctx.take (n + m) = priv.ctx.take n ++ ctx') :
    MediaPriv.polled ⟨idx, fds, ctx⟩ (n + m) =
      priv.polled n ++ List.zipWith (fun idx (p : Int × Option Nat) => ⟨idx, p.1, p.2⟩) idx' (fds'.zip ctx') := by
  have hlen : (priv.fds.take n).length = (priv.ctx.take n).length := by simp [hsized.fds, hsized.ctx]
  have hlen' : (priv.idx.take n).length = ((priv.fds.take n).zip (priv.ctx.take n)).length := by
    simp [hsized.idx, hsized.fds, hsized.ctx]
  simp only [MediaPriv.polled, hidx, hfds, hctx]
  rw [List.zip_append hlen, List.zipWith_append hlen']

/-- The same module for all entries of a collector. -/
theorem zipWith_module (i : Nat) :
    ∀ {fds : List (Nat × Int)} {cookies : List (Nat × Option Nat)} {r : Nat}, fds.length = r →
      List.zipWith (fun idx (p : Int × Option Nat) => (⟨idx, p.1, p.2⟩ : Polled)) (List.replicate r i)
        ((fds.map Prod.snd).zip (cookies.map Prod.snd)) =
      List.zipWith (fun fd cookie => ⟨i, fd.2, cookie.2⟩) fds cookies
  | [], cookies, r, h => by
    cases h
    rfl
  | fd :: fds, [], r, h => by simp
  | fd :: fds, cookie :: cookies, r, h => by
    subst h
    rw [List.length_cons, List.replicate_succ]
    simp only [List.map_cons, List.zip_cons_cons, List.zipWith_cons_cons]
    rw [zipWith_module i rfl]

/-- A collector that stays in its part of the arrays adds what it reports; one that fails adds nothing. -/
theorem mainCollect_step (name : String) (get : Int → PollResult) (medias : List MediaPoll) (hsized : priv.Sized size)
    (hn : n ≤ size) (hinside : (get (size - n)).Inside (size - n)) :
    ∃ priv', mainCollect size i (⟨name, some get⟩ :: medias) n priv =
        mainCollect size (i + 1) medias (n + (get (size - n)).ret.toNat) priv' ∧
      priv'.Sized size ∧ n + (get (size - n)).ret.toNat ≤ size ∧
      priv'.polled (n + (get (size - n)).ret.toNat) = priv.polled n ++ (get (size - n)).polled i := by
  rw [mainCollect]
  dsimp only
  generalize get (size - n) = r at hinside ⊢
  obtain ⟨hfdsIn, hctxIn, hret⟩ := hinside
  obtain ⟨fds, hfds⟩ : ∃ fds, storeFrom n priv.fds r.fds = some fds := by
    refine exists_storeFrom fun w hw => ?_
    have := hfdsIn w hw
    rw [hsized.fds]
    omega
  obtain ⟨ctx, hctx⟩ : ∃ ctx, storeFrom n priv.ctx r.cookies = some ctx := by
    refine exists_storeFrom fun w hw => ?_
    have := hctxIn w hw
    rw [hsized.ctx]
    omega
  have hfdsLen := (storeFrom_length hfds).trans hsized.fds
  have hctxLen := (storeFrom_length hctx).trans hsized.ctx
  simp only [hfds, hctx, Option.bind_some]
  unfold PollResult.polled
  split
  · rename_i hneg
    refine ⟨⟨priv.idx, fds, ctx⟩, ?_, ⟨hsized.idx, hfdsLen, hctxLen⟩, ?_, ?_⟩
    · rw [Int.toNat_of_nonpos (Int.le_of_lt hneg)]
      rfl
    · rw [Int.toNat_of_nonpos (Int.le_of_lt hneg)]
      omega
    · rw [Int.toNat_of_nonpos (Int.le_of_lt hneg), Nat.add_zero, List.append_nil]
      simp only [MediaPriv.polled, storeFrom_take hfds, storeFrom_take hctx]
  · rename_i hpos
    obtain ⟨hle, hfdsRange, hctxRange⟩ := hret (Int.not_lt.1 hpos)
    have hroom : n + r.ret.toNat ≤ size := by omega
    obtain ⟨idx, hidx⟩ : ∃ idx, storeFrom n priv.idx ((List.range r.ret.toNat).map fun k => (k, i)) = some idx := by
      refine exists_storeFrom fun w hw => ?_
      obtain ⟨k, hk, rfl⟩ := List.mem_map.1 hw
      have := List.mem_range.1 hk
      rw [hsized.idx]
      dsimp only
      omega
    simp only [hidx, Option.bind_some]
    refine ⟨_, rfl, ⟨(storeFrom_length hidx).trans hsized.idx, hfdsLen, hctxLen⟩, hroom, ?_⟩
    have hidxRange : ((List.range r.ret.toNat).map fun k => (k, i)).map Prod.fst = List.range r.ret.toNat := by
      simp [List.map_map, Function.comp_def]
    rw [polled_append hsized (storeFrom_values hidxRange hidx) (storeFrom_values hfdsRange hfds)
      (storeFrom_values hctxRange hctx)]
    have hsame : ((List.range r.ret.toNat).map fun k => (k, i)).map Prod.snd = List.replicate r.ret.toNat i := by
      rw [List.map_map]
      exact (List.map_const' ..).trans (by rw [List.length_range])
    rw [hsame, zipWith_module i (by simpa using congrArg List.length hfdsRange)]

/-- A collector that leaves its part of the arrays leaves the arrays. -/
theorem mainCollect_outside (name : String) (medias : List MediaPoll) (hsized : priv.Sized size) {w : Nat × Int}
    (hw : w ∈ (get (size - n)).fds) (hbehind : (size - n : Int) ≤ w.1) :
    mainCollect size i (⟨name, some get⟩ :: medias) n priv = none := by
  rw [mainCollect]
  have hnone : storeFrom n priv.fds (get (size - n)).fds = none := by
    by_contra hsome
    have hlt := storeFrom_isSome.1 (Option.isSome_iff_ne_none.2 hsome) w hw
    rw [hsized.fds] at hlt
    omega
  simp only [hnone, Option.bind_none]

/-- The arrays keep their length. -/
theorem mainCollect_sized {i n m : Nat} {priv priv' : MediaPriv} (hsized : priv.Sized size)
    (h : mainCollect size i medias n priv = some (m, priv')) : priv'.Sized size := by
  induction medias generalizing i n priv with
  | nil =>
    cases h
    exact hsized
  | cons media medias ih =>
    rw [mainCollect] at h
    split at h
    · exact ih hsized h
    · dsimp only at h
      obtain ⟨fds, hfds, h⟩ := Option.bind_eq_some_iff.1 h
      obtain ⟨ctx, hctx, h⟩ := Option.bind_eq_some_iff.1 h
      have hfdsLen := (storeFrom_length hfds).trans hsized.fds
      have hctxLen := (storeFrom_length hctx).trans hsized.ctx
      split at h
      · have hsized' : MediaPriv.Sized size ⟨priv.idx, fds, ctx⟩ := ⟨hsized.idx, hfdsLen, hctxLen⟩
        exact ih hsized' h
      · obtain ⟨idx, hidx, h⟩ := Option.bind_eq_some_iff.1 h
        exact ih ⟨(storeFrom_length hidx).trans hsized.idx, hfdsLen, hctxLen⟩ h

/-! ### What the graph and the server report -/

/-- The descriptors of the filters, from the `i`-th on. -/
def filterPolls (count : Int) : Nat → List PollFilter → Nat → List (Int × Option Nat)
  | _, [], _ => []
  | i, filter :: filters, nfd =>
    match filter.answer (count - nfd).toNat with
    | none => filterPolls count (i + 1) filters nfd
    | some fds => fds.map (·, some i) ++ filterPolls count (i + 1) filters (nfd + fds.length)

/-- The event descriptor of the graph, and each descriptor of a filter with its filter. -/
def graphPolls (fd : Int) (filters : List PollFilter) (count : Int) : List (Int × Option Nat) :=
  if count < 2 then [] else (fd, none) :: filterPolls count 0 filters 1

/-- The connections that have a client, each with its entry. -/
def connPolls (j : Nat) (conns : MediaServerConns) : List (Int × Option Nat) :=
  (conns.zipIdx j).filterMap fun p => if 0 < p.1.tranFd then some (p.1.tranFd, some p.2) else none

/-- The sockets on which the server listens, and its connections. -/
def serverPolls (l : ListenFds) (conns : MediaServerConns) (count : Int) : List (Int × Option Nat) :=
  if count ≤ 2 then [] else l.openFds.map (·, none) ++ connPolls 0 conns

/-- The pairs that are written. -/
def PollResult.pairs (r : PollResult) : List (Int × Option Nat) :=
  List.zipWith (fun fd cookie => (fd.2, cookie.2)) r.fds r.cookies

theorem PollResult.polled_of_pairs {r : PollResult} {i : Nat} {polls : List (Int × Option Nat)} (hret : 0 ≤ r.ret)
    (hpairs : r.pairs = polls) : r.polled i = polls.map fun p => ⟨i, p.1, p.2⟩ := by
  rw [PollResult.polled, if_neg (Int.not_lt.2 hret), ← hpairs, PollResult.pairs, List.map_zipWith]

/-- Pairs that are written one behind the other. -/
theorem pairs_append {α β : Type*} {fds fds' : List (Nat × α)} {cookies cookies' : List (Nat × β)}
    (h : fds.length = cookies.length) :
    List.zipWith (fun fd cookie => (fd.2, cookie.2)) (fds ++ fds') (cookies ++ cookies') =
      List.zipWith (fun fd cookie => (fd.2, cookie.2)) fds cookies ++
        List.zipWith (fun fd cookie => (fd.2, cookie.2)) fds' cookies' :=
  List.zipWith_append h

theorem writesFrom_pairs {α β : Type*} (n : Nat) (xs : List α) (y : β) (ys : List (Nat × β))
    (hys : ys.map Prod.snd = List.replicate xs.length y) :
    List.zipWith (fun fd cookie => (fd.2, cookie.2)) (writesFrom n xs) ys = xs.map (·, y) := by
  induction xs generalizing n ys with
  | nil => rfl
  | cons x xs ih =>
    cases ys with
    | nil => cases hys
    | cons w ys =>
      rw [List.length_cons, List.replicate_succ, List.map_cons, List.cons.injEq] at hys
      have hrest := ih (n + 1) ys hys.2
      have hfirst : writesFrom n (x :: xs) = (n, x) :: writesFrom (n + 1) xs := by simp [writesFrom]
      rw [hfirst, List.zipWith_cons_cons, hrest, hys.1, List.map_cons]

/-- All cookies of a filter are the filter. -/
theorem pollCookiesLoop_cookies {count : Int} (cookie : Nat) (ret : Nat) :
    ∀ {nfd : Nat}, (nfd + ret : Int) ≤ count →
      (pollCookiesLoop count cookie ret nfd).1.map Prod.snd = List.replicate ret (some cookie) := by
  induction ret with
  | zero =>
    intro nfd _
    rfl
  | succ ret ih =>
    intro nfd hroom
    rw [pollCookiesLoop, if_neg (by omega), List.map_cons, ih (by omega), List.replicate_succ]

theorem mediaGraphGetPollfdsLoop_pairs {count : Int} (filters : List PollFilter) :
    ∀ (i : Nat) {nfd : Nat}, nfd ≤ count →
      (mediaGraphGetPollfdsLoop count i filters nfd).ret = nfd + (filterPolls count i filters nfd).length ∧
        (mediaGraphGetPollfdsLoop count i filters nfd).pairs = filterPolls count i filters nfd := by
  induction filters with
  | nil =>
    intro i nfd _
    exact ⟨(Int.add_zero _).symm, rfl⟩
  | cons filter filters ih =>
    intro i nfd hroom
    rw [mediaGraphGetPollfdsLoop, filterPolls]
    cases hanswer : filter.answer (count - nfd).toNat with
    | none => exact ih (i + 1) hroom
    | some fds =>
      have hfits := filter.fits _ _ hanswer
      have hle : (nfd + fds.length : Int) ≤ count := by omega
      obtain ⟨hend, hwrites⟩ := pollCookiesLoop_spec i fds.length hle
      obtain ⟨hret, hpairs⟩ := @ih (i + 1) (nfd + fds.length) (by omega)
      have hcookies := pollCookiesLoop_cookies i fds.length hle
      dsimp only
      rw [hend]
      refine ⟨?_, ?_⟩
      · dsimp only
        rw [hret, List.length_append, List.length_map]
        omega
      · have hlength : (writesFrom nfd fds).length = (pollCookiesLoop count i fds.length nfd).1.length := by
          have hfds := congrArg List.length (writesFrom_map nfd fds)
          have hcookies := congrArg List.length hwrites
          simp only [List.length_map, List.length_range'] at hfds hcookies
          rw [hfds, hcookies]
        rw [PollResult.pairs] at hpairs ⊢
        dsimp only
        rw [pairs_append hlength, writesFrom_pairs nfd fds (some i) _ hcookies, hpairs]

theorem mediaGraphGetPollfds_pairs (fd : Int) (filters : List PollFilter) {count : Int} (hcount : 2 ≤ count) :
    (mediaGraphGetPollfds fd filters true count).ret = (graphPolls fd filters count).length ∧
      (mediaGraphGetPollfds fd filters true count).pairs = graphPolls fd filters count := by
  obtain ⟨hret, hpairs⟩ := mediaGraphGetPollfdsLoop_pairs filters 0 (show ((1 : Nat) : Int) ≤ count by omega)
  unfold mediaGraphGetPollfds graphPolls
  rw [if_neg (by rintro (hnull | hlt); exacts [absurd hnull (by decide), by omega]), if_neg (by omega)]
  refine ⟨?_, ?_⟩
  · dsimp only
    rw [hret, List.length_cons]
    omega
  · rw [PollResult.pairs] at hpairs ⊢
    rw [List.zipWith_cons_cons, hpairs]

theorem mediaServerGetPollfdsLoop_pairs {count : Int} (conns : MediaServerConns) :
    ∀ (j : Nat) {i : Nat}, (i + openConns conns : Int) ≤ count →
      (mediaServerGetPollfdsLoop count j conns i).ret = i + (connPolls j conns).length ∧
        (mediaServerGetPollfdsLoop count j conns i).pairs = connPolls j conns := by
  induction conns with
  | nil =>
    intro j i _
    exact ⟨(Int.add_zero _).symm, rfl⟩
  | cons conn conns ih =>
    intro j i hroom
    rw [mediaServerGetPollfdsLoop]
    by_cases hconn : 0 < conn.tranFd
    · have hopen : openConns (conn :: conns) = openConns conns + 1 := by simp [openConns, hconn]
      have hpolls : connPolls j (conn :: conns) = (conn.tranFd, some j) :: connPolls (j + 1) conns := by
        simp [connPolls, hconn]
      rw [hopen] at hroom
      obtain ⟨hret, hpairs⟩ := ih (j + 1) (i := i + 1) (by omega)
      rw [if_pos hconn, if_neg (by omega), hpolls]
      refine ⟨?_, ?_⟩
      · dsimp only
        rw [hret, List.length_cons]
        omega
      · rw [PollResult.pairs] at hpairs ⊢
        rw [List.zipWith_cons_cons, hpairs]
    · have hopen : openConns (conn :: conns) = openConns conns := by simp [openConns, hconn]
      have hpolls : connPolls j (conn :: conns) = connPolls (j + 1) conns := by simp [connPolls, hconn]
      rw [hopen] at hroom
      rw [if_neg hconn, hpolls]
      exact ih (j + 1) hroom

theorem mediaServerGetPollfds_pairs (l : ListenFds) (conns : MediaServerConns) {count : Int} (hcount : 2 < count)
    (hroom : (l.openFds.length + openConns conns : Int) ≤ count) :
    (mediaServerGetPollfds l conns true count).ret = (serverPolls l conns count).length ∧
      (mediaServerGetPollfds l conns true count).pairs = serverPolls l conns count := by
  obtain ⟨hret, hpairs⟩ := mediaServerGetPollfdsLoop_pairs conns 0 hroom
  unfold mediaServerGetPollfds serverPolls
  rw [if_neg (by rintro (hnull | hlt); exacts [absurd hnull (by decide), by omega]), if_neg (by omega)]
  refine ⟨?_, ?_⟩
  · dsimp only
    rw [hret, List.length_append, List.length_map]
    omega
  · have hnone : (writesFrom 0 (l.openFds.map fun _ => (none : Option Nat))).map Prod.snd =
        List.replicate l.openFds.length none := by
      rw [writesFrom, List.map_map, ← List.map_const']
      simp [Function.comp_def]
    rw [PollResult.pairs] at hpairs ⊢
    dsimp only
    rw [pairs_append (by simp [writesFrom]), writesFrom_pairs 0 l.openFds none _ hnone, hpairs]

/-! ### The daemon -/

/-- `g_media` with all modules configured. -/
def gMedia (fd : Int) (filters : List PollFilter) (l : ListenFds) (conns : MediaServerConns) : List MediaPoll :=
  [⟨"media_focus", none⟩, ⟨"media_graph", some (mediaGraphGetPollfds fd filters true)⟩, ⟨"media_session", none⟩,
    ⟨"media_policy", none⟩, ⟨"media_server", some (mediaServerGetPollfds l conns true)⟩]

/-- The room that the graph leaves to the server. -/
def roomLeft (size : Nat) (fd : Int) (filters : List PollFilter) : Int := size - (graphPolls fd filters size).length

/-- What one round of the daemon waits for. -/
def daemonPolls (size : Nat) (fd : Int) (filters : List PollFilter) (l : ListenFds) (conns : MediaServerConns) :
    List Polled :=
  (graphPolls fd filters size).map (fun p => ⟨1, p.1, p.2⟩) ++
    (serverPolls l conns (roomLeft size fd filters)).map fun p => ⟨4, p.1, p.2⟩

theorem mainCollect_graph (name : String) (medias : List MediaPoll) (hsized : priv.Sized size) (fd : Int)
    (filters : List PollFilter) :
    ∃ priv', mainCollect size i (⟨name, some (mediaGraphGetPollfds fd filters true)⟩ :: medias) 0 priv =
        mainCollect size (i + 1) medias (graphPolls fd filters size).length priv' ∧
      priv'.Sized size ∧ (graphPolls fd filters size).length ≤ size ∧
      priv'.polled (graphPolls fd filters size).length =
        (graphPolls fd filters size).map fun p => ⟨i, p.1, p.2⟩ := by
  have hinside := mediaGraphGetPollfds_inside fd filters true (size - (0 : Nat))
  obtain ⟨priv', hcollect, hsized', hle, hpolled⟩ := mainCollect_step (i := i) name _ medias hsized (Nat.zero_le size)
    hinside
  by_cases hcount : 2 ≤ (size : Int)
  · obtain ⟨hret, hpairs⟩ := mediaGraphGetPollfds_pairs fd filters hcount
    have hmod := PollResult.polled_of_pairs (i := i) (by omega) hpairs
    have hlength : 0 + (mediaGraphGetPollfds fd filters true (size - (0 : Nat))).ret.toNat =
        (graphPolls fd filters size).length := by
      rw [Int.natCast_zero, Int.sub_zero, hret]
      omega
    rw [hlength] at hcollect hle hpolled
    refine ⟨priv', hcollect, hsized', hle, ?_⟩
    rw [hpolled, Int.natCast_zero, Int.sub_zero, hmod]
    rfl
  · have hnone : graphPolls fd filters size = [] := by rw [graphPolls, if_pos (by omega)]
    have hneg : mediaGraphGetPollfds fd filters true (size - (0 : Nat)) = { ret := -EINVAL } := by
      rw [mediaGraphGetPollfds, if_pos (.inr (by omega))]
    rw [hneg] at hcollect hle hpolled
    rw [hnone]
    exact ⟨priv', hcollect, hsized', Nat.zero_le _, hpolled⟩

/-- The loop over the modules writes inside its arrays exactly if there is room for all sockets of the server, or so
little that the server does not begin.  Then it waits for the descriptors of the graph and of the server, each once,
with its own module and cookie. -/
theorem mainCollect_polls (hsized : priv.Sized size) (fd : Int) (filters : List PollFilter) (l : ListenFds)
    (conns : MediaServerConns) :
    ((mainCollect size 0 (gMedia fd filters l conns) 0 priv).isSome = true ↔
      (2 < roomLeft size fd filters → l.openFds.length + openConns conns ≤ roomLeft size fd filters)) ∧
      ∀ n priv', mainCollect size 0 (gMedia fd filters l conns) 0 priv = some (n, priv') →
        n = (daemonPolls size fd filters l conns).length ∧ priv'.polled n = daemonPolls size fd filters l conns := by
  obtain ⟨priv₁, hgraph, hsized₁, hle, hpolled⟩ := mainCollect_graph (i := 1) "media_graph"
    ((gMedia fd filters l conns).drop 2) hsized fd filters
  have hfirst : mainCollect size 0 (gMedia fd filters l conns) 0 priv =
      mainCollect size 4 [⟨"media_server", some (mediaServerGetPollfds l conns true)⟩]
        (graphPolls fd filters size).length priv₁ := hgraph
  rw [hfirst]
  have hinside := mediaServerGetPollfds_inside l conns true (roomLeft size fd filters)
  unfold daemonPolls
  by_cases hroom : 2 < roomLeft size fd filters → l.openFds.length + openConns conns ≤ roomLeft size fd filters
  · obtain ⟨priv₂, hserver, -, -, hpolled₂⟩ := mainCollect_step (i := 4) "media_server"
      (mediaServerGetPollfds l conns true) [] hsized₁ hle (hinside.2 fun _ hcount => by omega)
    rw [hserver]
    refine ⟨iff_of_true rfl hroom, ?_⟩
    intro n priv' hresult
    cases hresult
    rw [hpolled₂, hpolled]
    by_cases hcount : 2 < roomLeft size fd filters
    · obtain ⟨hret, hpairs⟩ := mediaServerGetPollfds_pairs l conns hcount
        (by have := hroom hcount; omega)
      have hmod := PollResult.polled_of_pairs (i := 4) (by omega) hpairs
      refine ⟨?_, congrArg _ hmod⟩
      show _ + (mediaServerGetPollfds l conns true (roomLeft size fd filters)).ret.toNat = _
      rw [hret]
      simp
    · have hneg : mediaServerGetPollfds l conns true (size - (graphPolls fd filters size).length) =
          { ret := -EINVAL } := by
        unfold roomLeft at hcount
        rw [mediaServerGetPollfds, if_pos (.inr (by omega))]
      have hnone : serverPolls l conns (roomLeft size fd filters) = [] := by
        rw [serverPolls, if_pos (by omega)]
      rw [hneg, hnone]
      simp [PollResult.polled, EINVAL]
  · rw [Classical.not_imp] at hroom
    obtain ⟨hcount, hmany⟩ := hroom
    have hlisten : l.openFds.length ≤ 3 := by
      refine (List.length_filter_le ..).trans ?_
      cases l.inetFd <;> simp
    have hroomLeft : (l.openFds.length : Int) ≤ roomLeft size fd filters := by omega
    obtain ⟨w, hw, hbehind⟩ := (mediaServerGetPollfdsLoop_spec conns 0 hroomLeft).2 (by omega)
    have hnone : mainCollect size 4 [⟨"media_server", some (mediaServerGetPollfds l conns true)⟩]
        (graphPolls fd filters size).length priv₁ = none := by
      refine mainCollect_outside _ _ hsized₁ (w := w) ?_ (Int.le_of_eq hbehind.symm)
      unfold mediaServerGetPollfds
      rw [if_neg (by unfold roomLeft at hcount; rintro (hnull | hlt); exacts [absurd hnull (by decide), by omega])]
      exact List.mem_append_right _ hw
    rw [hnone]
    refine ⟨iff_of_false (by simp) fun h => hmany (h hcount), nofun⟩

/-- Eight descriptors, of which the daemon waits for four. -/
theorem mainCollect_polls_sample :
    (mainCollect 8 0 (gMedia 3 [] ⟨4, 5, none⟩ [{ tranFd := 6 }]) 0
      ⟨List.replicate 8 0, List.replicate 8 0, List.replicate 8 none⟩).isSome = true :=
  (mainCollect_polls ⟨rfl, rfl, rfl⟩ 3 [] ⟨4, 5, none⟩ [{ tranFd := 6 }]).1.2 (by decide)

end MediaFramework
