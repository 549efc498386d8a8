import GoBgp.Path

/-!
# The UPDATE batcher

`CreateUpdateMsgFromPaths` sends each withdrawal and each path of another family in an
UPDATE of its own, and groups IPv4-unicast announcements into buckets of byte-equal
attributes, each bucket filling UPDATEs up to a length estimate. The codec's `Serialize`
and `Len` of an attribute are parameters; the range over the `pathByAttrs` map visits its
entries in an order the runtime chooses, which is a parameter too.
-/

namespace GoBgp

/-- The codec functions the batcher calls on a path attribute. -/
structure Codec where
  serialize : PathAttribute → List UInt8
  len : PathAttribute → Nat

def BGP_MAX_MESSAGE_LENGTH : Nat := 4096

/-- `fnv.New32()`: the 32-bit FNV-1 hash, multiply then xor. -/
def fnv32 (data : List UInt8) : UInt32 :=
  data.foldl (fun h b => (h * 16777619) ^^^ b.toUInt32) 2166136261

/-- The IPv4-unicast NLRI of a path, the one `path.GetNlri().(*bgp.IPAddrPrefix)` yields. -/
def Path.ipv4Nlri? (p : Path) : Option IPAddrPrefix :=
  match p.info.nlri with
  | .ipv4 n => some n
  | .other _ _ _ => none

/-! ## createUpdateMsgFromPath -/

/-- `createUpdateMsgFromPath(path, nil)`: the UPDATE a path makes on its own. A withdrawal
of another family takes its NLRIs from MP_REACH_NLRI, else from MP_UNREACH_NLRI, and the
type assertion on a missing MP_UNREACH_NLRI panics. -/
def createUpdateMsgFromPath (path : Path) : Option BGPUpdate :=
  match path.info.nlri with
  | .ipv4 nlri =>
    if path.isWithdraw then some (newBGPUpdateMessage [nlri] [] [])
    else some (newBGPUpdateMessage [] path.getPathAttrs [nlri])
  | .other _ _ _ =>
    if path.isWithdraw then
      let nlris? := match path.getPathAttr BGP_ATTR_TYPE_MP_REACH_NLRI with
        | some (.mpReachNLRI _ v) => some v
        | some _ => none
        | none => match path.getPathAttr BGP_ATTR_TYPE_MP_UNREACH_NLRI with
          | some (.mpUnreachNLRI v) => some v
          | _ => none
      nlris?.map fun nlris => newBGPUpdateMessage [] (unreachAttrs nlris path.getPathAttrs) []
    else some (newBGPUpdateMessage [] path.getPathAttrs [])
where
  /-- The first MP_UNREACH_NLRI or MP_REACH_NLRI of `clonedAttrs` becomes
  `NewPathAttributeMpUnreachNLRI(nlris)`. -/
  unreachAttrs (nlris : List AddrPrefix) : List PathAttribute → List PathAttribute
    | [] => []
    | a :: as =>
      if a.getType = BGP_ATTR_TYPE_MP_UNREACH_NLRI ∨ a.getType = BGP_ATTR_TYPE_MP_REACH_NLRI then
        .mpUnreachNLRI nlris :: as
      else a :: unreachAttrs nlris as

/-- `createUpdateMsgFromPath(path, msg)` for an IPv4-unicast announcement and `msg != nil`:
the NLRI is appended to the message. -/
def mergeUpdateMsgFromPath (nlri : IPAddrPrefix) (u : BGPUpdate) : BGPUpdate :=
  { u with nlri := u.nlri ++ [nlri] }

/-! ## CreateUpdateMsgFromPaths -/

/-- A bucket: the serialized attributes and the paths that share them. -/
structure Bucket where
  attrs : List UInt8
  paths : List Path

/-- The `pathByAttrs` map as its entries in order of first insertion. -/
abbrev PathByAttrs := List (UInt32 × List Bucket)

/-- The attributes as the bucket key is computed from: the serializations concatenated. -/
def attrBytes (codec : Codec) (attrs : List PathAttribute) : List UInt8 :=
  (attrs.map codec.serialize).flatten

/-- Add `path` to the bucket of byte-equal attributes, or open a new one after the others. -/
def addToBuckets (attrs : List UInt8) (path : Path) : List Bucket → List Bucket
  | [] => [⟨attrs, [path]⟩]
  | b :: bs => if b.attrs = attrs then ⟨b.attrs, b.paths ++ [path]⟩ :: bs else b :: addToBuckets attrs path bs

def insertPath (key : UInt32) (attrs : List UInt8) (path : Path) : PathByAttrs → PathByAttrs
  | [] => [(key, [⟨attrs, [path]⟩])]
  | (k, bl) :: rest =>
    if k = key then (k, addToBuckets attrs path bl) :: rest else (k, bl) :: insertPath key attrs path rest

/-- Whether a path is bucketed: an IPv4-unicast announcement. -/
def Path.coalescable (p : Path) : Bool :=
  p.info.nlri.routeFamily == RF_IPv4_UC && !p.isWithdraw

/-- The first loop: standalone messages in order, and the buckets. -/
def bucketLoop (codec : Codec) : List BGPUpdate → PathByAttrs → List (Option Path) →
    Option (List BGPUpdate × PathByAttrs)
  | msgs, m, [] => some (msgs, m)
  | msgs, m, none :: ps => bucketLoop codec msgs m ps
  | msgs, m, some p :: ps =>
    if p.coalescable then
      let attrs := attrBytes codec p.getPathAttrs
      bucketLoop codec msgs (insertPath (fnv32 attrs) attrs p m) ps
    else match createUpdateMsgFromPath p with
      | some msg => bucketLoop codec (msgs ++ [msg]) m ps
      | none => none

/-- The length check before a merge: header, the two length fields, the attributes by
`Len()`, and 5 octets for each NLRI and the one to add. -/
def msgLen (codec : Codec) (u : BGPUpdate) : Nat :=
  19 + 2 + 2 + (u.pathAttributes.map codec.len).sum + (u.nlri.length + 1) * 5

/-- The rest of a bucket after its open message `msg`: each path is merged into `msg`, or,
when `msgLen + 32 > BGP_MAX_MESSAGE_LENGTH`, opens a new message. -/
def fillBucket (codec : Codec) (msg : BGPUpdate) : List Path → Option (List BGPUpdate)
  | [] => some [msg]
  | p :: ps =>
    if msgLen codec msg + 32 > BGP_MAX_MESSAGE_LENGTH then
      match createUpdateMsgFromPath p with
      | some m => (fillBucket codec m ps).map (msg :: ·)
      | none => none
    else match p.ipv4Nlri? with
      | some nlri => fillBucket codec (mergeUpdateMsgFromPath nlri msg) ps
      | none => none

def bucketMsgs (codec : Codec) (b : Bucket) : Option (List BGPUpdate) :=
  match b.paths with
  | [] => some []
  | p :: ps => (createUpdateMsgFromPath p).bind fun msg => fillBucket codec msg ps

theorem coalescable_iff {p : Path} :
    p.coalescable = true ↔ ∃ n, p.info.nlri = .ipv4 n ∧ p.isWithdraw = false := by
  unfold Path.coalescable
  cases h : p.info.nlri with
  | ipv4 n => simp [AddrPrefix.routeFamily]
  | other rf b hrf => simp [AddrPrefix.routeFamily, hrf]

/-- The second loop, over the buckets of the entries in the order visited. -/
def emitBuckets (codec : Codec) : List Bucket → Option (List BGPUpdate)
  | [] => some []
  | b :: bs => (bucketMsgs codec b).bind fun us => (emitBuckets codec bs).map (us ++ ·)

/-- `CreateUpdateMsgFromPaths`, the map visited in the order `iter` gives its entries. -/
def createUpdateMsgFromPaths (codec : Codec) (iter : PathByAttrs → PathByAttrs)
    (pathList : List (Option Path)) : Option (List BGPUpdate) :=
  (bucketLoop codec [] [] pathList).bind fun r =>
    (emitBuckets codec ((iter r.2).flatMap Prod.snd)).map (r.1 ++ ·)

/-- A codec that writes each attribute as its type octet and reports `len` octets for it. -/
def typeCodec (len : Nat) : Codec := ⟨fun a => [a.getType], fun _ => len⟩

/-- An IPv6 withdrawal with neither MP_REACH_NLRI nor MP_UNREACH_NLRI: the type assertion on
the missing MP_UNREACH_NLRI panics, and no UPDATE comes out. -/
theorem createUpdateMsgFromPaths_mp_less_withdrawal_panics :
    createUpdateMsgFromPaths (typeCodec 4) id
      [some ⟨⟨.other 131073 [32, 32, 1, 13, 184] (by decide), samplePeer, false⟩, true, [], [], []⟩] = none := by
  decide

theorem createUpdateMsgFromPath_nlri_length {p : Path} {u : BGPUpdate}
    (h : createUpdateMsgFromPath p = some u) : u.nlri.length ≤ 1 := by
  unfold createUpdateMsgFromPath at h
  split at h
  · split at h <;> cases h <;> simp [newBGPUpdateMessage]
  · split at h
    · obtain ⟨nlris, -, rfl⟩ := Option.map_eq_some'.mp h; simp [newBGPUpdateMessage]
    · cases h; simp [newBGPUpdateMessage]

/-- Modelled from the spec: the octet length of an UPDATE as the codec serializes it, the
19-octet header, the two 2-octet length fields, the withdrawn routes, the attributes as
serialized and the NLRI, each IPv4 prefix a length octet and `⌈length/8⌉` address octets. -/
def prefixLen (n : IPAddrPrefix) : Nat := 1 + (n.length + 7) / 8

def updateLen (codec : Codec) (u : BGPUpdate) : Nat :=
  19 + 2 + (u.withdrawnRoutes.map prefixLen).sum + 2 + (attrBytes codec u.pathAttributes).length +
    (u.nlri.map prefixLen).sum

theorem prefixLen_le (n : IPAddrPrefix) : prefixLen n ≤ 5 := by
  have := n.length_le
  unfold prefixLen; omega

theorem sum_prefixLen_le : ∀ l : List IPAddrPrefix, (l.map prefixLen).sum ≤ 5 * l.length
  | [] => by simp
  | n :: l => by
    have := prefixLen_le n
    have := sum_prefixLen_le l
    simp only [List.map_cons, List.sum_cons, List.length_cons]; omega

theorem attrBytes_length {codec : Codec} (hLen : ∀ a, (codec.serialize a).length = codec.len a)
    (attrs : List PathAttribute) : (attrBytes codec attrs).length = (attrs.map codec.len).sum := by
  induction attrs with
  | nil => rfl
  | cons a as ih => simp [attrBytes, hLen] at ih ⊢; rw [ih]

theorem fillBucket_cons {codec : Codec} {msg : BGPUpdate} {p : Path} {ps : List Path}
    {n : IPAddrPrefix} (hn : p.info.nlri = .ipv4 n) (hw : p.isWithdraw = false) :
    fillBucket codec msg (p :: ps) =
      if msgLen codec msg + 32 > BGP_MAX_MESSAGE_LENGTH then
        (fillBucket codec ⟨[], p.getPathAttrs, [n]⟩ ps).map (msg :: ·)
      else fillBucket codec (mergeUpdateMsgFromPath n msg) ps := by
  simp [fillBucket, createUpdateMsgFromPath, Path.ipv4Nlri?, hn, hw, newBGPUpdateMessage]


end GoBgp
