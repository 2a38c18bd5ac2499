import Mathlib.Data.List.Find
import MediaFramework.Focus.Holders

/-!
# The focus calls on the list of holders

The operations of `focus_stack.c` and the two calls of `media_focus.c`, written on the list of holders, and the proof
that the code over slots and links does exactly this: same holders afterwards, same callbacks, same reply.
-/

namespace MediaFramework

open IntrusiveList

variable {t : InteractionTable} {s : AppFocusStack} {depth : Nat} {hs : List Holder}

/-! ### The table -/

/-- How a new stream gets along with the stream on top. -/
def InteractionTable.proInter (t : InteractionTable) (new top : Nat) : Int :=
  (t.matrix.getD (new * t.num + top) default).proInter

/-- What a holder below the top is told. -/
def InteractionTable.pasInter (t : InteractionTable) (top own : Nat) : Int :=
  (t.matrix.getD (top * t.num + own) default).pasInter

theorem InteractionTable.location_lt (t : InteractionTable) {a b : Nat} (ha : a < t.num) (hb : b < t.num) :
    a * t.num + b < t.num * t.num := by
  calc a * t.num + b < a * t.num + t.num := by omega
    _ = (a + 1) * t.num := by rw [Nat.add_mul, Nat.one_mul]
    _ ≤ t.num * t.num := Nat.mul_le_mul_right _ ha

/-- A holder that has come to the top is told to play. -/
theorem stackCallback_top (t : InteractionTable) (cur : AppFocusId) (h : Holder) :
    mediaFocusStackCallback t cur (h.id .top) NONBLOCK_CALLBACK_FLAG = [.suggest (h.id .top) MEDIA_FOCUS_PLAY] := rfl

theorem stackCallback_block (t : InteractionTable) (cur req : AppFocusId) :
    mediaFocusStackCallback t cur req BLOCK_CALLBACK_FLAG = [] := rfl

theorem stackCallback_under (t : InteractionTable) {top h : Holder} (st : FocusState) (htop : top.level < t.num)
    (hh : h.level < t.num) : mediaFocusStackCallback t (top.id st) (h.id .under) NONBLOCK_CALLBACK_FLAG =
      [.suggest (h.id .under) (t.pasInter top.level h.level)] := by
  have hloc := t.location_lt htop hh
  simp [mediaFocusStackCallback, mediaFocusPlayArbitrate, NONBLOCK_CALLBACK_FLAG, hloc, InteractionTable.pasInter]

/-! ### Pop, push, insert, delete, broadcast -/

/-- What the broadcast tells the holders below the one on top. -/
def broadcastEvents (t : InteractionTable) : List Holder → List FocusEvent
  | [] => []
  | top :: under => under.map fun h => .suggest (h.id .under) (t.pasInter top.level h.level)

theorem slot_ne_slot {h k : Holder} {rest : List Holder} (H : Holds s depth (h :: k :: rest)) :
    k.slot ≠ h.slot := by
  have hnd := H.nodup
  simp only [List.map_cons, List.nodup_cons, List.mem_cons, not_or] at hnd
  exact fun he => hnd.1.1 he.symm

theorem pop_eq {h : Holder} {rest : List Holder} (H : Holds s depth (h :: rest)) (value : AppFocusId) :
    ∃ s', appFocusStackPop (mediaFocusStackCallback t) s value NONBLOCK_CALLBACK_FLAG =
        ⟨0, h.id .quit, s', rest.head?.toList.map fun k => .suggest (k.id .top) MEDIA_FOCUS_PLAY⟩ ∧
      Holds s' depth rest := by
  have hquit := Holder.setState_nodeList (H.top h rfl) .quit
  unfold appFocusStackPop
  rw [H.isEmpty, H.nextElem_head]
  simp only [List.isEmpty_cons, Bool.false_eq_true, ↓reduceIte, List.head?_cons, Option.map_some, hquit,
    setState_curSize, setState_links]
  cases rest with
  | nil =>
    have hcur : s.curSize = 1 := H.cur
    simp only [hcur, ↓reduceIte]
    rw [← hquit]
    refine ⟨_, rfl, ?_⟩
    rw [Holder.nodeListRemove (by exact hquit)]
    exact H.remove_last H.list.delete_head
      (fun i hi => (setId_nodeList_of_ne hi).trans (setState_nodeList_of_ne hi)) (by simp [AppFocusId.unused])
      (by simp [hcur]) (by simp)
  | cons k rest =>
    have hkh := slot_ne_slot H
    have hcur : ¬ s.curSize = 1 := by
      rw [H.cur]; simp
    have hnext : s.links.nextElem (some h.slot) (some h.slot) = some k.slot := by
      have hl : IsList s.links ([] ++ h.slot :: k.slot :: rest.map Holder.slot) := H.list
      unfold Links.nextElem
      rw [hl.next_elem]
      simp [hkh]
    -- the next holder is marked TOP before the old one is unlinked
    have hk : (s.setState h.slot .quit).nodeList k.slot = k.id .under := by
      rw [setState_nodeList_of_ne hkh, H.under k (by simp)]
    have hk' := Holder.setState_nodeList hk .top
    have hh : ((s.setState h.slot .quit).setState k.slot .top).nodeList h.slot = h.id .quit := by
      rw [setState_nodeList_of_ne hkh.symm, hquit]
    simp only [hcur, ↓reduceIte, hnext, hk', stackCallback_top, List.head?_cons, Option.toList_some, List.map_cons,
      List.map_nil]
    refine ⟨_, rfl, ?_⟩
    rw [Holder.nodeListRemove (by exact hh)]
    refine H.remove_top (by simp) (fun i hi hik => ?_) (by simp [AppFocusId.unused]) ?_ (by simp) (by simp)
    · exact (setId_nodeList_of_ne hi).trans ((setState_nodeList_of_ne hik).trans (setState_nodeList_of_ne hi))
    · exact (setId_nodeList_of_ne hkh).trans hk'

theorem push_eq {x : Holder} (H : Holds s depth hs) (hlt : x.slot < depth) (hfree : x.slot ∉ hs.map Holder.slot)
    (hroom : hs.length < depth) (st : FocusState) :
    ∃ s', appFocusStackPush (mediaFocusStackCallback t) s (x.id st) BLOCK_CALLBACK_FLAG = (0, s', []) ∧
      Holds s' depth (x :: hs) := by
  unfold appFocusStackPush
  have hempty : appFocusStackIsEmpty { s.setId x.slot (x.id st) with links := s.links.init (some x.slot) } =
    hs.isEmpty := H.isEmpty
  simp only [H.isFull_eq_false hroom, Bool.false_eq_true, ↓reduceIte, Holder.id_clientId, Int.toNat_natCast, setId_links,
    hempty]
  have hself : ∀ (s' : AppFocusStack), (s'.nodeList x.slot = x.id st) →
      (s'.setState x.slot .top).nodeList x.slot = x.id .top := fun _ h' => Holder.setState_nodeList h' .top
  cases hs with
  | nil =>
    refine ⟨_, rfl, H.add_top hlt hfree rfl ?_ (by simp) ?_ rfl rfl⟩
    · exact hself _ (by simp)
    · intro i hi _
      exact (setState_nodeList_of_ne hi).trans (setId_nodeList_of_ne hi)
  | cons k rest =>
    have hkx : k.slot ≠ x.slot := fun he => hfree (by simp [he])
    have hnext : (s.links.init (some x.slot)).nextElem none none = some k.slot := by
      have hl := H.list.init_of_notMem hfree
      unfold Links.nextElem
      rw [hl.next_head]
      rfl
    have hk : (s.setId x.slot (x.id st)).nodeList k.slot = k.id .top := by
      rw [setId_nodeList_of_ne hkx, H.top k rfl]
    simp only [List.isEmpty_cons, Bool.false_eq_true, ↓reduceIte, hnext, stackCallback_block]
    refine ⟨_, rfl, H.add_top hlt hfree rfl ?_ ?_ ?_ rfl rfl⟩
    · refine hself _ ?_
      exact (setState_nodeList_of_ne hkx.symm).trans (by simp)
    · rintro h ⟨⟩
      exact (setState_nodeList_of_ne hkx).trans (Holder.setState_nodeList (by exact hk) .under)
    · intro i hi hik
      exact (setState_nodeList_of_ne hi).trans
        ((setState_nodeList_of_ne (hik k rfl)).trans (setId_nodeList_of_ne hi))

private theorem insertPlace_eq (l : List Nat) (index count : Nat) :
    appFocusStackInsertPlace (index : Int) (count : Int) l =
      if count < index then l[index - 1 - count]? else none := by
  induction l generalizing count with
  | nil => simp [appFocusStackInsertPlace]
  | cons a l ih =>
    unfold appFocusStackInsertPlace
    have hih := ih (count + 1)
    push_cast at hih
    rw [hih]
    by_cases h : (count : Int) = (index : Int) - 1
    · have h0 : index - 1 - count = 0 := by omega
      rw [if_pos h, if_pos (by omega), h0]
      rfl
    · rw [if_neg h]
      by_cases hlt : count + 1 < index
      · obtain ⟨m, hm⟩ : ∃ m, index - 1 - count = m + 1 := ⟨index - 2 - count, by omega⟩
        rw [if_pos hlt, if_pos (by omega), hm, show index - 1 - (count + 1) = m by omega]
        rfl
      · rw [if_neg hlt, if_neg (by omega)]

/-- Inserting at a place below the top, and the failing insertion at the top of a stack that is not empty. -/
theorem insert_eq {x : Holder} (H : Holds s depth hs) (hne : hs ≠ []) (hlt : x.slot < depth)
    (hfree : x.slot ∉ hs.map Holder.slot) (hroom : hs.length < depth) (st : FocusState) {index : Nat}
    (hindex : index ≤ hs.length) :
    ∃ r s', appFocusStackInsert (mediaFocusStackCallback t) s (x.id st) index = (r, s', []) ∧
      (index = 0 → r = -ENOENT ∧ Holds s' depth hs) ∧
      (0 < index → r = 0 ∧ Holds s' depth (hs.take index ++ x :: hs.drop index)) := by
  have hnull : ¬ (x.slot : Int) = -1 := by omega
  have hempty : appFocusStackIsEmpty s = false := by rw [H.isEmpty]; simpa using hne
  have hentries : AppFocusStack.entries { s.setId x.slot (x.id st) with links := s.links.init (some x.slot) } =
      hs.map Holder.slot := by
    unfold AppFocusStack.entries
    refine (H.list.init_of_notMem hfree).walk_head ?_
    rw [setId_maxSize, H.max, List.length_map]
    exact H.length_le
  unfold appFocusStackInsert
  have hplace : appFocusStackInsertPlace (index : Int) 0 (hs.map Holder.slot) =
    if 0 < index then (hs.map Holder.slot)[index - 1]? else none := insertPlace_eq _ index 0
  simp only [H.isFull_eq_false hroom, Bool.false_eq_true, ↓reduceIte, hempty, hnull, Holder.id_clientId,
    Int.toNat_natCast, setId_links, hentries, hplace]
  rcases Nat.eq_zero_or_pos index with rfl | hpos
  · simp only [Nat.lt_irrefl, ↓reduceIte]
    refine ⟨_, _, rfl, fun _ => ⟨rfl, ?_⟩, False.elim⟩
    unfold appFocusNodeListRemove
    simp only [Int.toNat_natCast, setId_nodeList_self, Holder.id_clientId]
    rw [if_pos (by omega)]
    have hslot : ∀ h ∈ hs, h.slot ≠ x.slot := fun h hh he => hfree (he ▸ List.mem_map.2 ⟨h, hh, rfl⟩)
    have hnode : ∀ i, i ≠ x.slot → (AppFocusStack.setId
        { s.setId x.slot (x.id st) with links := s.links.init (some x.slot) } x.slot .unused).nodeList i =
        s.nodeList i := fun i hi => (setId_nodeList_of_ne hi).trans (setId_nodeList_of_ne hi)
    refine ⟨H.list.init_of_notMem hfree, H.slot_lt, H.cur, H.max, ?_, ?_, ?_⟩
    · intro h hh
      rw [hnode _ (hslot h (List.mem_of_mem_head? hh))]
      exact H.top h hh
    · intro h hh
      rw [hnode _ (hslot h (List.mem_of_mem_tail hh))]
      exact H.under h hh
    · intro i hi
      by_cases he : i = x.slot
      · rw [he, setId_nodeList_self]; rfl
      · rw [hnode i he]; exact H.free i hi
  · obtain ⟨n, rfl⟩ : ∃ n, index = n + 1 := ⟨index - 1, by omega⟩
    have hn : n < hs.length := by omega
    rw [if_pos hpos, Nat.add_sub_cancel, List.getElem?_map, List.getElem?_eq_getElem hn]
    simp only [Option.map_some]
    refine ⟨_, _, rfl, fun h => absurd h n.succ_ne_zero, fun _ => ⟨rfl, ?_⟩⟩
    have hsplit : hs = hs.take n ++ hs[n] :: hs.drop (n + 1) := by simp
    have hgoal : hs.take (n + 1) ++ x :: hs.drop (n + 1) = hs.take n ++ hs[n] :: x :: hs.drop (n + 1) := by
      rw [List.take_succ_eq_append_getElem hn, List.append_assoc]; rfl
    rw [hgoal]
    rw [hsplit] at H hfree
    refine H.add_under hlt hfree rfl ?_ ?_ rfl rfl
    · exact Holder.setState_nodeList (setId_nodeList_self s x.slot (x.id st)) .under
    · intro i hi
      exact (setState_nodeList_of_ne hi).trans (setId_nodeList_of_ne hi)

/-- Deleting the holder of a slot below the top, or nothing when no holder has the slot. -/
theorem delete_eq {top : Holder} {rest : List Holder} (H : Holds s depth (top :: rest)) (value : AppFocusId)
    (hne : (top.slot : Int) ≠ value.clientId) :
    ∃ r, appFocusStackDelete (mediaFocusStackCallback t) s value NONBLOCK_CALLBACK_FLAG = r ∧ r.events = [] ∧
      Holds r.stack depth (top :: rest.eraseP fun h => decide ((h.slot : Int) = value.clientId)) := by
  refine ⟨_, rfl, ?_⟩
  have hcid : ∀ h ∈ top :: rest, (s.nodeList h.slot).clientId = h.slot := fun h hh => H.clientId hh
  have hfind : s.entries.find? (fun tmp => decide ((s.nodeList tmp).clientId = value.clientId)) =
      ((top :: rest).find? fun h => decide ((h.slot : Int) = value.clientId)).map Holder.slot := by
    rw [H.entries, List.find?_map]
    congr 1
    exact List.find?_congr fun h hh => by simp only [Function.comp_apply, hcid h hh]
  unfold appFocusStackDelete
  rw [H.isEmpty, H.nextElem_head]
  simp only [List.isEmpty_cons, Bool.false_eq_true, ↓reduceIte, List.head?_cons, Option.map_some,
    hcid top (List.mem_cons_self ..), hne, hfind, List.find?_cons_of_neg (p := fun h : Holder =>
      decide ((h.slot : Int) = value.clientId)) (l := rest) (a := top) (by simpa using hne)]
  cases hx : rest.find? fun h => decide ((h.slot : Int) = value.clientId) with
  | none =>
    refine ⟨rfl, ?_⟩
    rw [List.eraseP_of_forall_not]
    · exact H
    · intro h hh
      exact List.find?_eq_none.1 hx h hh
  | some x =>
    obtain ⟨hxv, l₁, l₂, rfl, hl₁⟩ := List.find?_eq_some_iff_append.1 hx
    refine ⟨rfl, ?_⟩
    have herase : (l₁ ++ x :: l₂).eraseP (fun h => decide ((h.slot : Int) = value.clientId)) = l₁ ++ l₂ := by
      rw [List.eraseP_append_right _ (by simpa using hl₁), List.eraseP_cons, hxv]; rfl
    rw [herase]
    have hund : s.nodeList x.slot = x.id .under := H.under x (by simp)
    have hquit := Holder.setState_nodeList hund .quit
    simp only [Option.map_some]
    rw [Holder.nodeListRemove (by exact hquit)]
    have H' : Holds s depth ((top :: l₁) ++ x :: l₂) := H
    refine H'.remove_under (by simp) (by simp) (fun i hi => ?_) ?_ (by simp) (by simp)
    · exact (setId_nodeList_of_ne hi).trans (setState_nodeList_of_ne hi)
    · exact congrArg AppFocusId.clientId (setId_nodeList_self ..)

theorem delete_top_eq {top : Holder} {rest : List Holder} (H : Holds s depth (top :: rest)) (value : AppFocusId)
    (heq : (top.slot : Int) = value.clientId) :
    ∃ r, appFocusStackDelete (mediaFocusStackCallback t) s value NONBLOCK_CALLBACK_FLAG = r ∧
      r.events = (rest.head?.toList.map fun k => .suggest (k.id .top) MEDIA_FOCUS_PLAY) ∧
      Holds r.stack depth rest := by
  unfold appFocusStackDelete
  rw [H.isEmpty, H.nextElem_head]
  simp only [List.isEmpty_cons, Bool.false_eq_true, ↓reduceIte, List.head?_cons, Option.map_some,
    H.clientId (List.mem_cons_self ..), heq]
  obtain ⟨s', hpop, H'⟩ := pop_eq (t := t) H { value with
    focusCallback := (s.nodeList top.slot).focusCallback, callbackArgv := (s.nodeList top.slot).callbackArgv }
  exact ⟨_, hpop, rfl, H'⟩

theorem broadcast_eq (H : Holds s depth hs) (hlevel : ∀ h ∈ hs, h.level < t.num) :
    (appFocusStackTopChangeBroadcast (mediaFocusStackCallback t) s NONBLOCK_CALLBACK_FLAG).2 =
      broadcastEvents t hs := by
  unfold appFocusStackTopChangeBroadcast
  rw [H.nextElem_head, H.entries, H.cur]
  match hs, H, hlevel with
  | [], _, _ => rfl
  | [h], _, _ => rfl
  | top :: k :: rest, H, hlevel =>
    have hlen : ¬ (top :: k :: rest).length < 2 := by simp
    simp only [hlen, ↓reduceIte, List.head?_cons, Option.map_some, List.map_cons, List.flatMap_cons, broadcastEvents]
    have htop : (s.nodeList top.slot).focusState = .top := by rw [H.top top rfl]; rfl
    have hunder : ∀ h ∈ k :: rest, (if (s.nodeList h.slot).focusState = FocusState.top then [] else
        mediaFocusStackCallback t (s.nodeList top.slot) (s.nodeList h.slot) NONBLOCK_CALLBACK_FLAG) =
        [FocusEvent.suggest (h.id .under) (t.pasInter top.level h.level)] := by
      intro h hh
      rw [H.top top rfl, H.under h hh, Holder.id_focusState, if_neg (by decide)]
      exact stackCallback_under t .top (hlevel top (by simp)) (hlevel h (List.mem_cons_of_mem _ hh))
    rw [if_pos htop, List.nil_append, hunder k (by simp), List.singleton_append, List.flatMap_map,
      List.flatMap_congr (fun h hh => hunder h (List.mem_cons_of_mem _ hh)), ← List.map_eq_flatMap]

end MediaFramework
