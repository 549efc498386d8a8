import GoBgp.Batcher

/-!
# What the batcher sends

Every standalone path gets its UPDATE, in order, and every IPv4-unicast announcement is sent
exactly once, in an UPDATE whose attributes serialize like its own; no UPDATE exceeds the
message limit when each path's own UPDATE fits. The statements hold for every order in
which the runtime visits the `pathByAttrs` map.
-/

namespace GoBgp

/-- The standalone paths and the bucketed ones of a list. -/
def standalone (pathList : List (Option Path)) : List Path :=
  (pathList.filterMap id).filter fun p => !p.coalescable

def announcements (pathList : List (Option Path)) : List Path :=
  (pathList.filterMap id).filter Path.coalescable

def insertAll (codec : Codec) (m : PathByAttrs) (ps : List Path) : PathByAttrs :=
  ps.foldl (fun m p => insertPath (fnv32 (attrBytes codec p.getPathAttrs)) (attrBytes codec p.getPathAttrs) p m) m

@[simp] theorem standalone_nil : standalone [] = [] := rfl
@[simp] theorem standalone_none (ps : List (Option Path)) : standalone (none :: ps) = standalone ps := rfl
theorem standalone_some (p : Path) (ps : List (Option Path)) :
    standalone (some p :: ps) = if p.coalescable then standalone ps else p :: standalone ps := by
  by_cases h : p.coalescable <;> simp [standalone, h, List.filterMap_cons]
@[simp] theorem announcements_nil : announcements [] = [] := rfl
@[simp] theorem announcements_none (ps : List (Option Path)) : announcements (none :: ps) = announcements ps := rfl
theorem announcements_some (p : Path) (ps : List (Option Path)) :
    announcements (some p :: ps) = if p.coalescable then p :: announcements ps else announcements ps := by
  by_cases h : p.coalescable <;> simp [announcements, h, List.filterMap_cons]

theorem bucketLoop_eq_some (codec : Codec) (pathList : List (Option Path))
    (h : ∀ p ∈ standalone pathList, (createUpdateMsgFromPath p).isSome) :
    ∀ msgs m, bucketLoop codec msgs m pathList =
      some (msgs ++ (standalone pathList).filterMap createUpdateMsgFromPath,
        insertAll codec m (announcements pathList)) := by
  induction pathList with
  | nil => intro msgs m; simp [bucketLoop, insertAll]
  | cons o ps ih =>
    intro msgs m
    cases o with
    | none => exact ih h msgs m
    | some p =>
      by_cases hc : p.coalescable = true
      · simp only [standalone_some, announcements_some, hc, ite_true] at h ⊢
        simp [bucketLoop, hc, ih h, insertAll]
      · simp only [standalone_some, announcements_some, hc, ite_false, Bool.false_eq_true] at h ⊢
        obtain ⟨u, hu⟩ := Option.isSome_iff_exists.mp (h p (List.mem_cons_self _ _))
        simp [bucketLoop, hc, hu, ih (fun q hq => h q (List.mem_cons_of_mem _ hq))]

theorem bucketLoop_isSome {codec : Codec} {pathList : List (Option Path)} :
    ∀ {msgs m}, (bucketLoop codec msgs m pathList).isSome →
      ∀ p ∈ standalone pathList, (createUpdateMsgFromPath p).isSome := by
  induction pathList with
  | nil => simp
  | cons o ps ih =>
    intro msgs m h
    cases o with
    | none => exact ih h
    | some p =>
      rw [standalone_some]
      by_cases hc : p.coalescable = true
      · simp only [bucketLoop, hc, ite_true] at h
        simpa [hc] using ih h
      · cases hu : createUpdateMsgFromPath p with
        | none => simp [bucketLoop, hc, hu] at h
        | some u =>
          simp only [bucketLoop, hc, hu, Bool.false_eq_true, ite_false] at h
          simpa [hc, hu] using ih h
/-- Every path of a bucket is an IPv4-unicast announcement whose attributes serialize to
the bucket's bytes. -/
def BucketsOk (codec : Codec) (bs : List Bucket) : Prop :=
  ∀ b ∈ bs, ∀ p ∈ b.paths, p.coalescable = true ∧ attrBytes codec p.getPathAttrs = b.attrs

def bucketPaths (bs : List Bucket) : List Path := bs.flatMap Bucket.paths

theorem addToBuckets_paths (a : List UInt8) (p : Path) :
    ∀ bl, (bucketPaths (addToBuckets a p bl)).Perm (bucketPaths bl ++ [p])
  | [] => by simp [addToBuckets, bucketPaths]
  | b :: bs => by
    unfold addToBuckets
    split
    · simpa [bucketPaths] using ((List.perm_append_singleton p _).symm.append_left b.paths)
    · simpa [bucketPaths] using (addToBuckets_paths a p bs).append_left b.paths
theorem insertPath_paths (k : UInt32) (a : List UInt8) (p : Path) :
    ∀ m : PathByAttrs, (bucketPaths ((insertPath k a p m).flatMap Prod.snd)).Perm
      (bucketPaths (m.flatMap Prod.snd) ++ [p])
  | [] => by simp [insertPath, bucketPaths]
  | (k', bl) :: rest => by
    unfold insertPath
    split
    · have := (addToBuckets_paths a p bl).append_right (bucketPaths (rest.flatMap Prod.snd))
      simp only [bucketPaths, List.flatMap_cons, List.flatMap_append, List.append_assoc] at this ⊢
      exact this.trans ((List.perm_append_comm.append_left _))
    · simpa [bucketPaths] using (insertPath_paths k a p rest).append_left (bucketPaths bl)

theorem addToBuckets_ok {codec : Codec} {a : List UInt8} {p : Path}
    (hp : p.coalescable = true ∧ attrBytes codec p.getPathAttrs = a) :
    ∀ {bl}, BucketsOk codec bl → BucketsOk codec (addToBuckets a p bl)
  | [], _ => by simp [addToBuckets, BucketsOk, hp]
  | b :: bs, h => by
    unfold addToBuckets
    split
    · rename_i hb
      intro b' hb' q hq
      simp only [List.mem_cons] at hb'
      rcases hb' with rfl | hb'
      · simp only [List.mem_append, List.mem_singleton] at hq
        rcases hq with hq | rfl
        · exact h b (List.mem_cons_self _ _) q hq
        · exact ⟨hp.1, hp.2.trans hb.symm⟩
      · exact h b' (List.mem_cons_of_mem _ hb') q hq
    · intro b' hb'
      simp only [List.mem_cons] at hb'
      rcases hb' with rfl | hb'
      · exact h _ (List.mem_cons_self _ _)
      · exact addToBuckets_ok hp (fun b hb => h b (List.mem_cons_of_mem _ hb)) b' hb'


theorem bucketsOk_append {codec : Codec} {l₁ l₂ : List Bucket} :
    BucketsOk codec (l₁ ++ l₂) ↔ BucketsOk codec l₁ ∧ BucketsOk codec l₂ := by
  simp only [BucketsOk, List.forall_mem_append]

theorem insertPath_ok {codec : Codec} {k : UInt32} {a : List UInt8} {p : Path}
    (hp : p.coalescable = true ∧ attrBytes codec p.getPathAttrs = a) :
    ∀ {m : PathByAttrs}, BucketsOk codec (m.flatMap Prod.snd) →
      BucketsOk codec ((insertPath k a p m).flatMap Prod.snd)
  | [], _ => by simpa [insertPath, BucketsOk] using hp
  | (k', bl) :: rest, h => by
    simp only [List.flatMap_cons, bucketsOk_append] at h
    unfold insertPath
    split
    · simpa [bucketsOk_append] using ⟨addToBuckets_ok hp h.1, h.2⟩
    · simpa [bucketsOk_append] using ⟨h.1, insertPath_ok hp h.2⟩

theorem insertAll_spec (codec : Codec) :
    ∀ (ps : List Path) (m : PathByAttrs), (∀ p ∈ ps, p.coalescable = true) →
      BucketsOk codec (m.flatMap Prod.snd) →
      BucketsOk codec ((insertAll codec m ps).flatMap Prod.snd) ∧
        (bucketPaths ((insertAll codec m ps).flatMap Prod.snd)).Perm
          (bucketPaths (m.flatMap Prod.snd) ++ ps)
  | [], m, _, h => by simpa [insertAll] using h
  | p :: ps, m, hc, h => by
    have hp : p.coalescable = true ∧ attrBytes codec p.getPathAttrs = attrBytes codec p.getPathAttrs :=
      ⟨hc p (List.mem_cons_self _ _), rfl⟩
    obtain ⟨hok, hperm⟩ := insertAll_spec codec ps _ (fun q hq => hc q (List.mem_cons_of_mem _ hq))
      (insertPath_ok (k := fnv32 (attrBytes codec p.getPathAttrs)) hp h)
    refine ⟨hok, hperm.trans ?_⟩
    simpa using (insertPath_paths _ _ p m).append_right ps

theorem fillBucket_spec {codec : Codec} {A : List UInt8} :
    ∀ (ps : List Path) (msg : BGPUpdate),
      (∀ p ∈ ps, p.coalescable = true ∧ attrBytes codec p.getPathAttrs = A) →
      msg.withdrawnRoutes = [] → attrBytes codec msg.pathAttributes = A →
      ∃ us, fillBucket codec msg ps = some us ∧
        (∀ u ∈ us, u.withdrawnRoutes = [] ∧ attrBytes codec u.pathAttributes = A) ∧
        us.flatMap BGPUpdate.nlri = msg.nlri ++ ps.filterMap Path.ipv4Nlri?
  | [], msg, _, hw, ha => ⟨[msg], rfl, by simp [hw, ha], by simp⟩
  | p :: ps, msg, hps, hw, ha => by
    obtain ⟨n, hn, hpw⟩ := coalescable_iff.mp (hps p (List.mem_cons_self _ _)).1
    have hA := (hps p (List.mem_cons_self _ _)).2
    have hps' := fun q hq => hps q (List.mem_cons_of_mem _ hq)
    have hnl : (p :: ps).filterMap Path.ipv4Nlri? = n :: ps.filterMap Path.ipv4Nlri? := by
      simp [List.filterMap_cons, Path.ipv4Nlri?, hn]
    rw [fillBucket_cons hn hpw, hnl]
    split
    · obtain ⟨us, hus, hall, hnlri⟩ := fillBucket_spec ps ⟨[], p.getPathAttrs, [n]⟩ hps' rfl hA
      refine ⟨msg :: us, by simp [hus], ?_, by simp [hnlri]⟩
      simpa [hw, ha] using hall
    · obtain ⟨us, hus, hall, hnlri⟩ := fillBucket_spec ps (mergeUpdateMsgFromPath n msg) hps' hw ha
      exact ⟨us, hus, hall, by simpa [mergeUpdateMsgFromPath] using hnlri⟩

/-- An UPDATE fits: at most 4096 octets, and at most 4096 - 32 once NLRIs were merged. -/
def Fits (codec : Codec) (u : BGPUpdate) : Prop :=
  updateLen codec u ≤ BGP_MAX_MESSAGE_LENGTH ∧
    (2 ≤ u.nlri.length → updateLen codec u ≤ BGP_MAX_MESSAGE_LENGTH - 32)

instance (codec : Codec) (u : BGPUpdate) : Decidable (Fits codec u) :=
  inferInstanceAs (Decidable (_ ∧ (_ → _)))

theorem fillBucket_fits {codec : Codec} (hLen : ∀ a, (codec.serialize a).length = codec.len a) :
    ∀ (ps : List Path) (msg : BGPUpdate) (us : List BGPUpdate), fillBucket codec msg ps = some us →
      (∀ p ∈ ps, p.coalescable = true ∧
        ∀ u, createUpdateMsgFromPath p = some u → updateLen codec u ≤ BGP_MAX_MESSAGE_LENGTH) →
      msg.withdrawnRoutes = [] → Fits codec msg → ∀ u ∈ us, Fits codec u
  | [], msg, us, h, _, _, hf => by
    simp only [fillBucket, Option.some.injEq] at h; subst h; simpa using hf
  | p :: ps, msg, us, h, hps, hw, hf => by
    obtain ⟨n, hn, hpw⟩ := coalescable_iff.mp (hps p (List.mem_cons_self _ _)).1
    have hps' := fun q hq => hps q (List.mem_cons_of_mem _ hq)
    rw [fillBucket_cons hn hpw] at h
    split at h
    · obtain ⟨us', hus', rfl⟩ := Option.map_eq_some'.mp h
      have hu := (hps p (List.mem_cons_self _ _)).2 ⟨[], p.getPathAttrs, [n]⟩
        (by simp [createUpdateMsgFromPath, hn, hpw, newBGPUpdateMessage])
      intro u hu'
      rcases List.mem_cons.mp hu' with rfl | hu'
      · exact hf
      · exact fillBucket_fits hLen ps _ us' hus' hps' rfl ⟨hu, by simp⟩ u hu'
    · rename_i hlen
      have hmerged : updateLen codec (mergeUpdateMsgFromPath n msg) ≤ BGP_MAX_MESSAGE_LENGTH - 32 := by
        have h1 := sum_prefixLen_le msg.nlri
        have h2 := prefixLen_le n
        simp only [updateLen, mergeUpdateMsgFromPath, hw, List.map_nil, List.sum_nil, List.map_append,
          List.sum_append, List.map_cons, List.sum_cons, attrBytes_length hLen, msgLen, BGP_MAX_MESSAGE_LENGTH]
          at hlen ⊢
        omega
      exact fillBucket_fits hLen ps _ us h hps' hw
        ⟨by simp only [BGP_MAX_MESSAGE_LENGTH] at hmerged ⊢; omega, fun _ => hmerged⟩

/-- The NLRIs of an UPDATE, each with the bytes of the attributes it is sent with. -/
def entries (codec : Codec) (u : BGPUpdate) : List (IPAddrPrefix × List UInt8) :=
  u.nlri.map (·, attrBytes codec u.pathAttributes)

/-- What an announcement asks to send: its prefix with the bytes of its own attributes. -/
def announceEntry (codec : Codec) (p : Path) : Option (IPAddrPrefix × List UInt8) :=
  p.ipv4Nlri?.map (·, attrBytes codec p.getPathAttrs)

theorem bucketMsgs_spec {codec : Codec} {b : Bucket} (hb : BucketsOk codec [b]) :
    ∃ us, bucketMsgs codec b = some us ∧ (∀ u ∈ us, u.withdrawnRoutes = []) ∧
      us.flatMap (entries codec) = b.paths.filterMap (announceEntry codec) := by
  have hps : ∀ p ∈ b.paths, p.coalescable = true ∧ attrBytes codec p.getPathAttrs = b.attrs :=
    hb b (List.mem_singleton_self _)
  -- every message of the bucket carries the bucket's bytes, so entries pair each NLRI with them
  have hentry : ∀ us : List BGPUpdate, (∀ u ∈ us, attrBytes codec u.pathAttributes = b.attrs) →
      us.flatMap (entries codec) = (us.flatMap BGPUpdate.nlri).map (·, b.attrs) := by
    intro us h
    induction us with
    | nil => rfl
    | cons u us ih =>
      simp [entries, h u (List.mem_cons_self _ _), ih (fun v hv => h v (List.mem_cons_of_mem _ hv))]
  have hann : b.paths.filterMap (announceEntry codec) = (b.paths.filterMap Path.ipv4Nlri?).map (·, b.attrs) := by
    rw [List.map_filterMap]
    exact List.filterMap_congr fun p hp => by simp [announceEntry, (hps p hp).2]
  rw [hann]
  unfold bucketMsgs
  split
  · rename_i h; simp [h]
  · rename_i p ps h
    rw [h] at hps
    obtain ⟨n, hn, hpw⟩ := coalescable_iff.mp (hps p (List.mem_cons_self _ _)).1
    obtain ⟨us, hus, hall, hnlri⟩ := fillBucket_spec (A := b.attrs) ps ⟨[], p.getPathAttrs, [n]⟩
      (fun q hq => hps q (List.mem_cons_of_mem _ hq)) rfl (hps p (List.mem_cons_self _ _)).2
    refine ⟨us, by simp [createUpdateMsgFromPath, hn, hpw, newBGPUpdateMessage, hus],
      fun u hu => (hall u hu).1, ?_⟩
    rw [hentry us fun u hu => (hall u hu).2, hnlri]
    simp [h, List.filterMap_cons, Path.ipv4Nlri?, hn]

/-- Each path's own UPDATE fits in a message. -/
def FitsAlone (codec : Codec) (p : Path) : Prop :=
  ∀ u, createUpdateMsgFromPath p = some u → updateLen codec u ≤ BGP_MAX_MESSAGE_LENGTH

instance (codec : Codec) (p : Path) : Decidable (FitsAlone codec p) :=
  inferInstanceAs (Decidable (∀ u ∈ createUpdateMsgFromPath p, _))

theorem bucketMsgs_fits {codec : Codec} (hLen : ∀ a, (codec.serialize a).length = codec.len a)
    {b : Bucket} (hb : BucketsOk codec [b]) (hfit : ∀ p ∈ b.paths, FitsAlone codec p)
    {us : List BGPUpdate} (h : bucketMsgs codec b = some us) : ∀ u ∈ us, Fits codec u := by
  have hps := hb b (List.mem_singleton_self _)
  unfold bucketMsgs at h
  split at h
  · cases h; simp
  · rename_i p ps hpaths
    rw [hpaths] at hps hfit
    obtain ⟨msg, hmsg, hfill⟩ := Option.bind_eq_some.mp h
    obtain ⟨n, hn, hpw⟩ := coalescable_iff.mp (hps p (List.mem_cons_self _ _)).1
    have hmsg' : msg = ⟨[], p.getPathAttrs, [n]⟩ := by
      simpa [createUpdateMsgFromPath, hn, hpw, newBGPUpdateMessage, eq_comm] using hmsg
    subst hmsg'
    exact fillBucket_fits hLen ps _ us hfill
      (fun q hq => ⟨(hps q (List.mem_cons_of_mem _ hq)).1, hfit q (List.mem_cons_of_mem _ hq)⟩) rfl
      ⟨hfit p (List.mem_cons_self _ _) _ hmsg, by simp⟩

theorem emitBuckets_spec {codec : Codec} :
    ∀ {bs : List Bucket}, BucketsOk codec bs →
      ∃ us, emitBuckets codec bs = some us ∧ (∀ u ∈ us, u.withdrawnRoutes = []) ∧
        us.flatMap (entries codec) = (bucketPaths bs).filterMap (announceEntry codec)
  | [], _ => ⟨[], rfl, by simp, by simp [bucketPaths]⟩
  | b :: bs, h => by
    rw [show b :: bs = [b] ++ bs from rfl, bucketsOk_append] at h
    obtain ⟨us, hus, hw, he⟩ := bucketMsgs_spec h.1
    obtain ⟨vs, hvs, hw', he'⟩ := emitBuckets_spec h.2
    refine ⟨us ++ vs, by simp [emitBuckets, hus, hvs], ?_, ?_⟩
    · intro u hu
      rcases List.mem_append.mp hu with hu | hu
      exacts [hw u hu, hw' u hu]
    · simp [bucketPaths, he, he', List.filterMap_append] at *

theorem emitBuckets_fits {codec : Codec} (hLen : ∀ a, (codec.serialize a).length = codec.len a) :
    ∀ {bs : List Bucket} {us : List BGPUpdate}, BucketsOk codec bs →
      (∀ p ∈ bucketPaths bs, FitsAlone codec p) → emitBuckets codec bs = some us →
      ∀ u ∈ us, Fits codec u
  | [], us, _, _, h => by cases h; simp
  | b :: bs, us, hok, hfit, h => by
    rw [show b :: bs = [b] ++ bs from rfl, bucketsOk_append] at hok
    simp only [bucketPaths, List.flatMap_cons, List.mem_append] at hfit
    obtain ⟨vs, hvs, hrest⟩ := Option.bind_eq_some.mp h
    obtain ⟨ws, hws, rfl⟩ := Option.map_eq_some'.mp hrest
    intro u hu
    rcases List.mem_append.mp hu with hu | hu
    · exact bucketMsgs_fits hLen hok.1 (fun p hp => hfit p (.inl hp)) hvs u hu
    · exact emitBuckets_fits hLen hok.2 (fun p hp => hfit p (.inr hp)) hws u hu

theorem BucketsOk.perm {codec : Codec} {l₁ l₂ : List Bucket} (h : BucketsOk codec l₁)
    (hp : l₁.Perm l₂) : BucketsOk codec l₂ :=
  fun b hb => h b (hp.mem_iff.mpr hb)

/-- The buckets the second loop visits: those of the map, in the order of `iter`. -/
theorem visited_buckets (codec : Codec) {iter : PathByAttrs → PathByAttrs}
    (hIter : ∀ m, (iter m).Perm m) (ps : List Path) (hc : ∀ p ∈ ps, p.coalescable = true) :
    BucketsOk codec ((iter (insertAll codec [] ps)).flatMap Prod.snd) ∧
      (bucketPaths ((iter (insertAll codec [] ps)).flatMap Prod.snd)).Perm ps := by
  obtain ⟨hok, hperm⟩ := insertAll_spec codec ps [] hc (by simp [BucketsOk])
  have h := (hIter (insertAll codec [] ps)).flatMap_right Prod.snd
  exact ⟨hok.perm h.symm, by simpa [bucketPaths] using (h.flatMap_right Bucket.paths).trans hperm⟩

theorem announcements_coalescable (pathList : List (Option Path)) :
    ∀ p ∈ announcements pathList, p.coalescable = true := by
  simp [announcements]

/-- With every standalone path making its UPDATE, the batcher returns the standalone UPDATEs
in order, then UPDATEs with no withdrawn routes whose NLRIs, each paired with the bytes of
its UPDATE's attributes, are those of the announcements paired with their own, up to order. -/
theorem createUpdateMsgFromPaths_spec (codec : Codec) {iter : PathByAttrs → PathByAttrs}
    (hIter : ∀ m, (iter m).Perm m) (pathList : List (Option Path))
    (hsend : ∀ p ∈ standalone pathList, (createUpdateMsgFromPath p).isSome) :
    ∃ bucketed, createUpdateMsgFromPaths codec iter pathList =
        some ((standalone pathList).filterMap createUpdateMsgFromPath ++ bucketed) ∧
      (∀ u ∈ bucketed, u.withdrawnRoutes = []) ∧
      (bucketed.flatMap (entries codec)).Perm ((announcements pathList).filterMap (announceEntry codec)) := by
  obtain ⟨hok, hperm⟩ := visited_buckets codec hIter _ (announcements_coalescable pathList)
  obtain ⟨us, hus, hw, he⟩ := emitBuckets_spec hok
  refine ⟨us, ?_, hw, he ▸ hperm.filterMap _⟩
  simp [createUpdateMsgFromPaths, bucketLoop_eq_some codec pathList hsend, hus]

/-- Announcements of 10.0.0.0/24 and 10.0.1.0/24 with ORIGIN IGP around a withdrawal of
10.0.2.0/24 and an empty slot. -/
def sharedAttrsPaths : List (Option Path) :=
  [some announce10, some (samplePath ⟨24, 167772672, by decide⟩ true [] []), none, some announce11]

theorem createUpdateMsgFromPaths_spec_shared_attrs :
    (∀ m : PathByAttrs, (id m).Perm m) ∧
    (∀ p ∈ standalone sharedAttrsPaths, (createUpdateMsgFromPath p).isSome) ∧
    ∃ bucketed, createUpdateMsgFromPaths (typeCodec 1) id sharedAttrsPaths =
        some ((standalone sharedAttrsPaths).filterMap createUpdateMsgFromPath ++ bucketed) ∧
      (∀ u ∈ bucketed, u.withdrawnRoutes = []) ∧
      (bucketed.flatMap (entries (typeCodec 1))).Perm
        ((announcements sharedAttrsPaths).filterMap (announceEntry (typeCodec 1))) := by
  have hsend : ∀ p ∈ standalone sharedAttrsPaths, (createUpdateMsgFromPath p).isSome := by decide
  exact ⟨fun m => List.Perm.refl m, hsend, createUpdateMsgFromPaths_spec _ (fun m => List.Perm.refl m) _ hsend⟩

/-- Every UPDATE the batcher returns fits in 4096 octets, and one that took merged NLRIs in
4096 - 32, when each path's own UPDATE fits and `Len()` is the serialized length. -/
theorem createUpdateMsgFromPaths_fits (codec : Codec) {iter : PathByAttrs → PathByAttrs}
    (hIter : ∀ m, (iter m).Perm m) (pathList : List (Option Path))
    (hLen : ∀ a, (codec.serialize a).length = codec.len a)
    (hfit : ∀ p ∈ pathList.filterMap id, FitsAlone codec p)
    {msgs : List BGPUpdate} (h : createUpdateMsgFromPaths codec iter pathList = some msgs) :
    ∀ u ∈ msgs, Fits codec u := by
  obtain ⟨r, hr, hmore⟩ := Option.bind_eq_some.mp h
  have hsend := bucketLoop_isSome (hr ▸ rfl : (bucketLoop codec [] [] pathList).isSome)
  rw [bucketLoop_eq_some codec pathList hsend] at hr
  cases hr
  obtain ⟨us, hus, rfl⟩ := Option.map_eq_some'.mp hmore
  obtain ⟨hok, hperm⟩ := visited_buckets codec hIter _ (announcements_coalescable pathList)
  intro u hu
  rcases List.mem_append.mp hu with hu | hu
  · obtain ⟨p, hp, hpu⟩ := List.mem_filterMap.mp hu
    have hp' : p ∈ pathList.filterMap id := (List.mem_filter.mp hp).1
    exact ⟨hfit p hp' u hpu, fun h2 => absurd (createUpdateMsgFromPath_nlri_length hpu) (by omega)⟩
  · exact emitBuckets_fits hLen hok (fun p hp => hfit p (List.mem_filter.mp (hperm.mem_iff.mp hp)).1) hus u hu

theorem createUpdateMsgFromPaths_fits_shared_attrs :
    (∀ m : PathByAttrs, (id m).Perm m) ∧ (∀ a, ((typeCodec 1).serialize a).length = (typeCodec 1).len a) ∧
    (∀ p ∈ [some announce10, none, some announce11].filterMap id, FitsAlone (typeCodec 1) p) ∧
    createUpdateMsgFromPaths (typeCodec 1) id [some announce10, none, some announce11] =
      some [⟨[], [.origin 0], [prefix10, prefix11]⟩] ∧
    ∀ u ∈ [(⟨[], [.origin 0], [prefix10, prefix11]⟩ : BGPUpdate)], Fits (typeCodec 1) u := by
  have hfit : ∀ p ∈ [some announce10, none, some announce11].filterMap id, FitsAlone (typeCodec 1) p := by decide
  have h : createUpdateMsgFromPaths (typeCodec 1) id [some announce10, none, some announce11] =
      some [⟨[], [.origin 0], [prefix10, prefix11]⟩] := by decide
  exact ⟨fun m => List.Perm.refl m, fun _ => rfl, hfit, h,
    createUpdateMsgFromPaths_fits _ (fun m => List.Perm.refl m) _ (fun _ => rfl) hfit h⟩

end GoBgp
