import GoBgp.BatcherSpec

/-!
# The batcher seen from the peer's Adj-RIB-In

A peer applies each UPDATE to its table of prefixes. The batcher sends withdrawals before
the buckets and visits the buckets in the map's order, so a prefix announced and withdrawn
in one list can end up announced; when the paths that share a prefix ask the same of the
table, the batched UPDATEs leave it as sending each path alone would.
-/

namespace GoBgp

/-- An Adj-RIB-In: each IPv4 prefix to the bytes of its route's attributes. -/
def AdjRibIn := IPAddrPrefix → Option (List UInt8)

/-- A peer receiving an UPDATE: the withdrawn routes go, then the NLRIs take its attributes. -/
def AdjRibIn.receive (codec : Codec) (rib : AdjRibIn) (u : BGPUpdate) : AdjRibIn := fun n =>
  if n ∈ u.nlri then some (attrBytes codec u.pathAttributes)
  else if n ∈ u.withdrawnRoutes then none else rib n

/-- An announcement and then the withdrawal of the same prefix: the batcher sends the
withdrawal first, and the prefix stays announced. -/
theorem createUpdateMsgFromPaths_withdrawal_overtaken :
    (createUpdateMsgFromPaths (typeCodec 4) id [some announce10, some withdraw10]).map
        (fun msgs => msgs.foldl (AdjRibIn.receive (typeCodec 4)) (fun _ => none) prefix10) = some (some [1]) ∧
    ([announce10, withdraw10].filterMap createUpdateMsgFromPath).foldl (AdjRibIn.receive (typeCodec 4)) (fun _ => none)
      prefix10 = none := by
  decide

/-- One route operation: set a prefix's entry. -/
def AdjRibIn.set (rib : AdjRibIn) (o : IPAddrPrefix × Option (List UInt8)) : AdjRibIn :=
  fun n => if n = o.1 then o.2 else rib n

/-- The route operations of an UPDATE, withdrawals first. -/
def ops (codec : Codec) (u : BGPUpdate) : List (IPAddrPrefix × Option (List UInt8)) :=
  u.withdrawnRoutes.map (·, none) ++ u.nlri.map (·, some (attrBytes codec u.pathAttributes))

theorem foldl_set_same (v : Option (List UInt8)) :
    ∀ (l : List IPAddrPrefix) (rib : AdjRibIn),
      (l.map (·, v)).foldl AdjRibIn.set rib = fun n => if n ∈ l then v else rib n
  | [], rib => rfl
  | m :: l, rib => by
    funext n
    simp only [List.map_cons, List.foldl_cons, foldl_set_same v l, List.mem_cons, AdjRibIn.set]
    by_cases h1 : n ∈ l <;> by_cases h2 : n = m <;> simp [h1, h2]

theorem receive_eq_foldl (codec : Codec) (rib : AdjRibIn) (u : BGPUpdate) :
    rib.receive codec u = (ops codec u).foldl AdjRibIn.set rib := by
  simp only [ops, List.foldl_append, foldl_set_same]
  rfl

theorem foldl_receive (codec : Codec) (rib : AdjRibIn) (msgs : List BGPUpdate) :
    msgs.foldl (AdjRibIn.receive codec) rib = (msgs.flatMap (ops codec)).foldl AdjRibIn.set rib := by
  induction msgs generalizing rib with
  | nil => rfl
  | cons u us ih => simp [ih, receive_eq_foldl]

theorem foldl_set_perm {l₁ l₂ : List (IPAddrPrefix × Option (List UInt8))} (hp : l₁.Perm l₂)
    (h : ∀ x ∈ l₁, ∀ y ∈ l₁, x.1 = y.1 → x = y) (rib : AdjRibIn) :
    l₁.foldl AdjRibIn.set rib = l₂.foldl AdjRibIn.set rib := by
  induction hp generalizing rib with
  | nil => rfl
  | cons x _ ih => exact ih (fun a ha b hb => h a (.tail _ ha) b (.tail _ hb)) _
  | swap x y l =>
    have hxy : (rib.set y).set x = (rib.set x).set y := by
      by_cases he : x.1 = y.1
      · rw [h x (by simp) y (by simp) he]
      · funext n
        simp only [AdjRibIn.set]
        split_ifs with h1 h2 h2 <;> first | rfl | exact absurd (h1.symm.trans h2) he
    simp [hxy]
  | trans p₁ _ ih₁ ih₂ =>
    exact (ih₁ h rib).trans (ih₂ (fun a ha b hb => h a (p₁.mem_iff.mpr ha) b (p₁.mem_iff.mpr hb)) rib)

/-- What a path asks of the peer's table for its prefix. -/
def effect (codec : Codec) (p : Path) : Option (List UInt8) :=
  if p.isWithdraw then none else some (attrBytes codec p.getPathAttrs)

def routeOp (codec : Codec) (p : Path) : Option (IPAddrPrefix × Option (List UInt8)) :=
  p.ipv4Nlri?.map (·, effect codec p)

theorem effect_announce {codec : Codec} {p : Path} (h : p.isWithdraw = false) :
    effect codec p = some (attrBytes codec p.getPathAttrs) := by
  rw [effect, h, if_neg Bool.false_ne_true]

theorem ops_filterMap_create (codec : Codec) :
    ∀ ps : List Path, (∀ p ∈ ps, p.info.nlri.routeFamily = RF_IPv4_UC) →
      (ps.filterMap createUpdateMsgFromPath).flatMap (ops codec) = ps.filterMap (routeOp codec)
  | [], _ => rfl
  | p :: ps, h => by
    have ih := ops_filterMap_create codec ps fun q hq => h q (List.mem_cons_of_mem _ hq)
    obtain ⟨n, hn⟩ := AddrPrefix.eq_ipv4_of_routeFamily (h p (List.mem_cons_self _ _))
    cases hw : p.isWithdraw <;>
      simp [List.filterMap_cons, createUpdateMsgFromPath, routeOp, effect, Path.ipv4Nlri?, hn, hw,
        newBGPUpdateMessage, ops, ih]

theorem ops_of_no_withdrawn (codec : Codec) (u : BGPUpdate) (h : u.withdrawnRoutes = []) :
    ops codec u = (entries codec u).map fun e => (e.1, some e.2) := by
  simp [ops, entries, h]

theorem announceEntry_routeOp (codec : Codec) :
    ∀ ps : List Path, (∀ p ∈ ps, p.coalescable = true) →
      (ps.filterMap (announceEntry codec)).map (fun e => (e.1, some e.2)) = ps.filterMap (routeOp codec)
  | [], _ => rfl
  | p :: ps, h => by
    obtain ⟨n, hn, hw⟩ := coalescable_iff.mp (h p (List.mem_cons_self _ _))
    have ih := announceEntry_routeOp codec ps fun q hq => h q (List.mem_cons_of_mem _ hq)
    simp [List.filterMap_cons, announceEntry, routeOp, effect, Path.ipv4Nlri?, hn, hw, ih]

theorem createUpdateMsgFromPath_isSome_of_ipv4 {p : Path} (h : p.info.nlri.routeFamily = RF_IPv4_UC) :
    (createUpdateMsgFromPath p).isSome := by
  obtain ⟨n, hn⟩ := AddrPrefix.eq_ipv4_of_routeFamily h
  simp only [createUpdateMsgFromPath, hn]
  split <;> rfl

/-- On IPv4-unicast paths the batcher sends the withdrawals' route operations first, in order,
then those of the announcements in another order. -/
theorem batched_ops_split (codec : Codec) {iter : PathByAttrs → PathByAttrs}
    (hIter : ∀ m, (iter m).Perm m) (paths : List Path)
    (hv4 : ∀ p ∈ paths, p.info.nlri.routeFamily = RF_IPv4_UC) :
    ∃ msgs bucketed, createUpdateMsgFromPaths codec iter (paths.map some) = some msgs ∧
      msgs.flatMap (ops codec) = (paths.filter fun p => !p.coalescable).filterMap (routeOp codec) ++ bucketed ∧
      bucketed.Perm ((paths.filter Path.coalescable).filterMap (routeOp codec)) := by
  have hlist : (paths.map some).filterMap id = paths := by simp
  have hsa : standalone (paths.map some) = paths.filter fun p => !p.coalescable := by
    simp [standalone, hlist]
  have han : announcements (paths.map some) = paths.filter Path.coalescable := by
    simp [announcements, hlist]
  have hv4s : ∀ p ∈ paths.filter (fun p => !p.coalescable), p.info.nlri.routeFamily = RF_IPv4_UC :=
    fun p hp => hv4 p (List.mem_filter.mp hp).1
  obtain ⟨bucketed, hmsgs, hw, he⟩ := createUpdateMsgFromPaths_spec codec hIter _
    fun p hp => createUpdateMsgFromPath_isSome_of_ipv4 (hv4s p (hsa ▸ hp))
  have hbucket : bucketed.flatMap (ops codec) = (bucketed.flatMap (entries codec)).map fun e => (e.1, some e.2) := by
    rw [List.map_flatMap]
    exact List.flatMap_congr fun u hu => ops_of_no_withdrawn codec u (hw u hu)
  refine ⟨_, _, hmsgs, by rw [List.flatMap_append, hsa, ops_filterMap_create codec _ hv4s, hbucket], ?_⟩
  rw [← announceEntry_routeOp codec _ (fun p hp => (List.mem_filter.mp hp).2), ← han]
  exact he.map _

/-- The entry a prefix ends with is the value of the last route operation on it. -/
theorem foldl_set_apply (n : IPAddrPrefix) :
    ∀ (l : List (IPAddrPrefix × Option (List UInt8))) (rib : AdjRibIn),
      l.foldl AdjRibIn.set rib n = ((l.reverse.find? (·.1 = n)).map Prod.snd).getD (rib n)
  | [], _ => rfl
  | o :: l, rib => by
    rw [List.foldl_cons, foldl_set_apply n l, List.reverse_cons, List.find?_append]
    cases l.reverse.find? (·.1 = n) with
    | some x => rfl
    | none =>
      by_cases h : o.1 = n
      · simp [AdjRibIn.set, h]
      · simp [AdjRibIn.set, h, Ne.symm h]

theorem lastOp_of_forall {l : List (IPAddrPrefix × Option (List UInt8))} {n : IPAddrPrefix}
    {v : Option (List UInt8)} (hv : ∀ x ∈ l, x.1 = n → x.2 = v) (hx : ∃ x ∈ l, x.1 = n) :
    (l.reverse.find? (·.1 = n)).map Prod.snd = some v := by
  obtain ⟨x, hx, hxn⟩ := hx
  have hsome : (l.reverse.find? (·.1 = n)).isSome := List.find?_isSome.mpr ⟨x, List.mem_reverse.mpr hx, decide_eq_true hxn⟩
  obtain ⟨y, hy⟩ := Option.isSome_iff_exists.mp hsome
  rw [hy, Option.map_some']
  exact congrArg some (hv y (List.mem_reverse.mp (List.mem_of_find?_eq_some hy)) (by simpa using List.find?_some hy))

theorem lastOp_of_not_mem {l : List (IPAddrPrefix × Option (List UInt8))} {n : IPAddrPrefix}
    (h : ∀ x ∈ l, x.1 ≠ n) : l.reverse.find? (·.1 = n) = none :=
  List.find?_eq_none.mpr fun x hx => by simpa using h x (List.mem_reverse.mp hx)

theorem lastOp_perm {l l' : List (IPAddrPrefix × Option (List UInt8))} {n : IPAddrPrefix} {v : Option (List UInt8)}
    (hp : l.Perm l') (hv : ∀ x ∈ l, x.1 = n → x.2 = v) :
    (l.reverse.find? (·.1 = n)).map Prod.snd = (l'.reverse.find? (·.1 = n)).map Prod.snd := by
  by_cases hex : ∃ x ∈ l, x.1 = n
  · obtain ⟨x, hx, hxn⟩ := hex
    rw [lastOp_of_forall hv ⟨x, hx, hxn⟩,
      lastOp_of_forall (fun y hy => hv y (hp.mem_iff.mpr hy)) ⟨x, hp.mem_iff.mp hx, hxn⟩]
  · push_neg at hex
    rw [lastOp_of_not_mem hex, lastOp_of_not_mem fun x hx => hex x (hp.mem_iff.mpr hx)]

theorem ipv4Nlri?_eq_some {p : Path} {n : IPAddrPrefix} : p.ipv4Nlri? = some n ↔ p.info.nlri = .ipv4 n := by
  cases h : p.info.nlri <;> simp [Path.ipv4Nlri?, h]

theorem routeOp_any (codec : Codec) (p : Path) (n : IPAddrPrefix) :
    (routeOp codec p).any (·.1 = n) = decide (p.ipv4Nlri? = some n) := by
  unfold routeOp
  cases p.ipv4Nlri? <;> simp

theorem lastOp_routeOps (codec : Codec) (paths : List Path) (n : IPAddrPrefix) :
    (paths.filterMap (routeOp codec)).reverse.find? (·.1 = n) =
      (paths.reverse.find? (·.ipv4Nlri? = some n)).bind (routeOp codec) := by
  rw [← List.filterMap_reverse, List.find?_filterMap]
  simp only [routeOp_any]

theorem lastOp_routeOps_eq (codec : Codec) {paths : List Path} {n : IPAddrPrefix} {r : Path}
    (hr : paths.reverse.find? (·.ipv4Nlri? = some n) = some r) :
    r ∈ paths ∧ r.ipv4Nlri? = some n ∧
      ((paths.filterMap (routeOp codec)).reverse.find? (·.1 = n)).map Prod.snd = some (effect codec r) := by
  have hrn : r.ipv4Nlri? = some n := by simpa using List.find?_some hr
  refine ⟨List.mem_reverse.mp (List.mem_of_find?_eq_some hr), hrn, ?_⟩
  rw [lastOp_routeOps, hr]
  simp [routeOp, hrn]

theorem mem_routeOps {codec : Codec} {paths : List Path} {x : IPAddrPrefix × Option (List UInt8)}
    (h : x ∈ paths.filterMap (routeOp codec)) : ∃ p ∈ paths, p.ipv4Nlri? = some x.1 ∧ x.2 = effect codec p := by
  obtain ⟨p, hp, hx⟩ := List.mem_filterMap.mp h
  obtain ⟨n, hn, rfl⟩ := Option.map_eq_some'.mp hx
  exact ⟨p, hp, hn, rfl⟩

/-- The batcher's UPDATEs leave a peer's Adj-RIB-In as sending each path alone, in order,
would, whenever every prefix the list announces is announced with one set of attributes and
its last path in the list is an announcement. -/
theorem createUpdateMsgFromPaths_adjRibIn (codec : Codec) {iter : PathByAttrs → PathByAttrs}
    (hIter : ∀ m, (iter m).Perm m) (paths : List Path)
    (hv4 : ∀ p ∈ paths, p.info.nlri.routeFamily = RF_IPv4_UC)
    (hlast : ∀ p ∈ paths, p.isWithdraw = false →
      (∀ q ∈ paths, q.ipv4Nlri? = p.ipv4Nlri? → q.isWithdraw = false →
        attrBytes codec q.getPathAttrs = attrBytes codec p.getPathAttrs) ∧
      ∃ r, paths.reverse.find? (·.ipv4Nlri? = p.ipv4Nlri?) = some r ∧ r.isWithdraw = false)
    (rib : AdjRibIn) :
    ∃ msgs, createUpdateMsgFromPaths codec iter (paths.map some) = some msgs ∧
      msgs.foldl (AdjRibIn.receive codec) rib =
        (paths.filterMap createUpdateMsgFromPath).foldl (AdjRibIn.receive codec) rib := by
  obtain ⟨msgs, bucketed, hmsgs, hsplit, hperm⟩ := batched_ops_split codec hIter paths hv4
  refine ⟨msgs, hmsgs, ?_⟩
  -- all the route operations, batched and in order, are the same up to order
  have hall : (msgs.flatMap (ops codec)).Perm (paths.filterMap (routeOp codec)) := by
    rw [hsplit]
    refine (hperm.append_left _).trans ?_
    rw [← List.filterMap_append]
    exact (List.perm_append_comm.trans (List.filter_append_perm _ _)).filterMap _
  funext n
  rw [foldl_receive, foldl_receive, ops_filterMap_create codec _ hv4, foldl_set_apply, foldl_set_apply]
  congr 1
  by_cases hann : ∃ p ∈ paths, p.ipv4Nlri? = some n ∧ p.isWithdraw = false
  · -- the last operation on `n` is an announcement with its one set of attributes, either way
    obtain ⟨p, hp, hpn, hpw⟩ := hann
    obtain ⟨hsame, r, hr, hrw⟩ := hlast p hp hpw
    rw [hpn] at hr
    obtain ⟨hrp, hrn, hlastr⟩ := lastOp_routeOps_eq codec hr
    have hb : (bucketed.reverse.find? (·.1 = n)).map Prod.snd = some (some (attrBytes codec p.getPathAttrs)) := by
      refine lastOp_of_forall (fun x hx hxn => ?_) ?_
      · obtain ⟨q, hq, hqn, hx2⟩ := mem_routeOps (hperm.mem_iff.mp hx)
        obtain ⟨hq, hc⟩ := List.mem_filter.mp hq
        obtain ⟨m, -, hqw⟩ := coalescable_iff.mp hc
        rw [hx2, effect_announce hqw, hsame q hq ((hxn ▸ hqn).trans hpn.symm) hqw]
      · have hpc : p.coalescable = true := coalescable_iff.mpr ⟨n, ipv4Nlri?_eq_some.mp hpn, hpw⟩
        refine ⟨(n, effect codec p), hperm.mem_iff.mpr (List.mem_filterMap.mpr ⟨p, ?_, ?_⟩), rfl⟩
        · exact List.mem_filter.mpr ⟨hp, hpc⟩
        · simp [routeOp, hpn]
    obtain ⟨x, hx, hxs⟩ := Option.map_eq_some'.mp hb
    rw [hsplit, List.reverse_append, List.find?_append, hx]
    change (some x).map Prod.snd = _
    rw [Option.map_some', hxs, hlastr, effect_announce hrw, hsame r hrp (hrn.trans hpn.symm) hrw]
  · -- only withdrawals act on `n`, and both lists hold the same operations
    refine (lastOp_perm (v := none) hall.symm fun x hx hxn => ?_).symm
    obtain ⟨q, hq, hqn, hx2⟩ := mem_routeOps hx
    have hqw : q.isWithdraw = true := by
      by_contra hqw
      exact hann ⟨q, hq, hxn ▸ hqn, by simpa using hqw⟩
    simp [hx2, effect, hqw]

theorem createUpdateMsgFromPaths_adjRibIn_withdraw_announce :
    (∀ m : PathByAttrs, (id m).Perm m) ∧
    (∀ p ∈ [withdraw10, announce10], p.info.nlri.routeFamily = RF_IPv4_UC) ∧
    (∀ p ∈ [withdraw10, announce10], p.isWithdraw = false →
      (∀ q ∈ [withdraw10, announce10], q.ipv4Nlri? = p.ipv4Nlri? → q.isWithdraw = false →
        attrBytes (typeCodec 4) q.getPathAttrs = attrBytes (typeCodec 4) p.getPathAttrs) ∧
      ∃ r, [withdraw10, announce10].reverse.find? (·.ipv4Nlri? = p.ipv4Nlri?) = some r ∧ r.isWithdraw = false) ∧
    ∃ msgs, createUpdateMsgFromPaths (typeCodec 4) id ([withdraw10, announce10].map some) = some msgs ∧
      msgs.foldl (AdjRibIn.receive (typeCodec 4)) (fun _ => none) =
        ([withdraw10, announce10].filterMap createUpdateMsgFromPath).foldl (AdjRibIn.receive (typeCodec 4))
          (fun _ => none) := by
  refine ⟨fun m => List.Perm.refl m, by decide, by decide, ?_⟩
  exact createUpdateMsgFromPaths_adjRibIn _ (fun m => List.Perm.refl m) _ (by decide) (by decide) _

end GoBgp
