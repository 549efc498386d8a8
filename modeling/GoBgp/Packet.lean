import Mathlib.Data.List.Basic
import Mathlib.Algebra.Order.Ring.Nat
import Mathlib.Algebra.BigOperators.Group.List

/-!
# The codec values the table and server code read

The `packet` package is not among the sources; these are the parts of it that the modelled
functions construct or inspect: AS_PATH segments, path attributes, NLRIs and UPDATE bodies.
Pointers and interfaces become plain values; where the code type-asserts an interface, the
alternatives are constructors.
-/

namespace GoBgp

/-- `BGP_ASPATH_ATTR_TYPE_SET`, `_SEQ`, `_CONFED_SEQ` and `_CONFED_SET`. -/
inductive SegType
  | set
  | seq
  | confedSeq
  | confedSet
  deriving DecidableEq, Repr

def SegType.isConfed : SegType → Bool
  | .confedSeq | .confedSet => true
  | _ => false

/-- The fields `Type`, `Num` and `AS` shared by `AsPathParam` (2-byte ASes) and
`As4PathParam`. `Num` is the segment-length octet; nothing keeps it equal to `len(AS)`. -/
structure AsSegment where
  type : SegType
  num : Nat
  AS : List Nat
  deriving DecidableEq, Repr

/-- `NewAs4PathParam` and `NewAsPathParam`: `Num` is `uint8(len(as))`. -/
def newAs4PathParam (t : SegType) (asns : List Nat) : AsSegment := ⟨t, asns.length % 256, asns⟩

/-- Modelled from the spec: the codec's `ASLen`, the AS count of a segment for path-length
purposes: an AS_SEQUENCE counts its ASes, an AS_SET one, confederation segments none. -/
def AsSegment.asLen (p : AsSegment) : Nat :=
  match p.type with
  | .seq => p.AS.length
  | .set => 1
  | .confedSeq | .confedSet => 0

/-- An element of `PathAttributeAsPath.Value`: a 2-byte `*AsPathParam` or a `*As4PathParam`. -/
inductive AsPathParamInterface
  | two (p : AsSegment)
  | four (p : AsSegment)
  deriving DecidableEq, Repr

/-- `AS_TRANS`, the 2-byte stand-in for a 4-byte AS. -/
def AS_TRANS : Nat := 23456

/-- `RF_IPv4_UC`, the route family of AFI 1 / SAFI 1. -/
def RF_IPv4_UC : Nat := 65537

/-- `IPAddrPrefix`: an IPv4 prefix of `length` bits. -/
structure IPAddrPrefix where
  length : Nat
  addr : Nat
  length_le : length ≤ 32
  deriving DecidableEq, Repr

/-- An NLRI (`AddrPrefixInterface`). The codec decodes every AFI 1 / SAFI 1 prefix as an
`IPAddrPrefix`, so the other families exclude `RF_IPv4_UC`. -/
inductive AddrPrefix
  | ipv4 (p : IPAddrPrefix)
  | other (family : Nat) (body : List UInt8) (h : family ≠ RF_IPv4_UC)
  deriving DecidableEq, Repr

def AddrPrefix.routeFamily : AddrPrefix → Nat
  | .ipv4 _ => RF_IPv4_UC
  | .other rf _ _ => rf

theorem AddrPrefix.eq_ipv4_of_routeFamily {a : AddrPrefix} (h : a.routeFamily = RF_IPv4_UC) :
    ∃ n, a = .ipv4 n := by
  cases a with
  | ipv4 n => exact ⟨n, rfl⟩
  | other rf b hrf => exact absurd h hrf

/-- The type codes of the attributes modelled as their own constructor below; the codec
decodes each of these codes to that attribute. -/
def modelledTypes : List UInt8 := [1, 2, 3, 4, 5, 8, 9, 10, 14, 15, 16, 17]

/-- The path attributes the modelled code builds or inspects; every other attribute is
`unknown` with its type code. Addresses (`net.IP`) are octet lists. -/
inductive PathAttribute
  | origin (value : Nat)
  | asPath (value : List AsPathParamInterface)
  | nextHop (value : List UInt8)
  | multiExitDisc (value : Nat)
  | localPref (value : Nat)
  | communities (value : List Nat)
  | originatorId (value : List UInt8)
  | clusterList (value : List (List UInt8))
  | mpReachNLRI (nexthop : List UInt8) (value : List AddrPrefix)
  | mpUnreachNLRI (value : List AddrPrefix)
  | extendedCommunities (value : List Nat)
  | as4Path (value : List AsSegment)
  | unknown (type : UInt8) (value : List UInt8) (h : type ∉ modelledTypes)
  deriving DecidableEq, Repr

def BGP_ATTR_TYPE_AS_PATH : UInt8 := 2
def BGP_ATTR_TYPE_NEXT_HOP : UInt8 := 3
def BGP_ATTR_TYPE_MULTI_EXIT_DISC : UInt8 := 4
def BGP_ATTR_TYPE_LOCAL_PREF : UInt8 := 5
def BGP_ATTR_TYPE_COMMUNITIES : UInt8 := 8
def BGP_ATTR_TYPE_ORIGINATOR_ID : UInt8 := 9
def BGP_ATTR_TYPE_CLUSTER_LIST : UInt8 := 10
def BGP_ATTR_TYPE_MP_REACH_NLRI : UInt8 := 14
def BGP_ATTR_TYPE_MP_UNREACH_NLRI : UInt8 := 15

/-- `GetType`: the attribute type code. -/
def PathAttribute.getType : PathAttribute → UInt8
  | .origin _ => 1
  | .asPath _ => 2
  | .nextHop _ => 3
  | .multiExitDisc _ => 4
  | .localPref _ => 5
  | .communities _ => 8
  | .originatorId _ => 9
  | .clusterList _ => 10
  | .mpReachNLRI _ _ => 14
  | .mpUnreachNLRI _ => 15
  | .extendedCommunities _ => 16
  | .as4Path _ => 17
  | .unknown t _ _ => t

/-- The body of an UPDATE message (`BGPUpdate`). -/
structure BGPUpdate where
  withdrawnRoutes : List IPAddrPrefix
  pathAttributes : List PathAttribute
  nlri : List IPAddrPrefix
  deriving DecidableEq, Repr

/-- `NewBGPUpdateMessage(withdrawn, pathattrs, nlri)`. -/
def newBGPUpdateMessage (withdrawn : List IPAddrPrefix) (attrs : List PathAttribute)
    (nlri : List IPAddrPrefix) : BGPUpdate :=
  ⟨withdrawn, attrs, nlri⟩

/-! ## Messages -/

def BGP_CAP_MULTIPROTOCOL : Nat := 1

/-- A capability of an OPEN (`ParameterCapabilityInterface`). The codec decodes every
capability of code 1 as a `CapMultiProtocol`, whose value is a route family. -/
inductive Capability
  | multiProtocol (family : Nat)
  | other (code : Nat) (value : List UInt8) (h : code ≠ BGP_CAP_MULTIPROTOCOL)
  deriving DecidableEq, Repr

def Capability.code : Capability → Nat
  | .multiProtocol _ => BGP_CAP_MULTIPROTOCOL
  | .other c _ _ => c

/-- An optional parameter of an OPEN: a capability parameter, or one of another type. -/
inductive OptionParameter
  | capability (caps : List Capability)
  | unknown (type : Nat) (value : List UInt8)
  deriving DecidableEq, Repr

/-- The body of an OPEN message (`BGPOpen`). -/
structure BGPOpen where
  version : Nat
  myAS : Nat
  holdTime : Nat
  ID : List UInt8
  optParams : List OptionParameter
  deriving DecidableEq, Repr

/-- A parsed BGP message, by its body. -/
inductive BGPMessage
  | bgpOpen (o : BGPOpen)
  | update (u : BGPUpdate)
  | notification (errorCode errorSubcode : Nat) (data : List UInt8)
  | keepalive
  | routeRefresh (afi safi : Nat)
  deriving DecidableEq, Repr

def BGP_MSG_OPEN : Nat := 1
def BGP_MSG_UPDATE : Nat := 2
def BGP_MSG_NOTIFICATION : Nat := 3
def BGP_MSG_KEEPALIVE : Nat := 4
def BGP_MSG_ROUTE_REFRESH : Nat := 5

/-- `m.Header.Type`: the parser gives a header type and a body of the same kind. -/
def BGPMessage.type : BGPMessage → Nat
  | .bgpOpen _ => 1
  | .update _ => 2
  | .notification _ _ _ => 3
  | .keepalive => 4
  | .routeRefresh _ _ => 5

/-- `MessageError`: the codes of the NOTIFICATION it asks for, and its text. -/
structure MessageError where
  typeCode : Nat
  subTypeCode : Nat
  data : List UInt8
  message : String
  deriving DecidableEq, Repr

/-- The `MsgData` of an `FsmMsg` from the receive goroutine: a message, a `MessageError`, or
an error value of another type. -/
inductive MsgData
  | message (m : BGPMessage)
  | messageError (e : MessageError)
  | other
  deriving DecidableEq, Repr

/-! ## AS paths read as (segment type, AS) pairs -/

/-- An AS path read as its (segment type, AS) pairs; adjacent AS_SEQUENCE segments are
thereby concatenated. -/
def flatten (segs : List AsSegment) : List (SegType × Nat) :=
  segs.flatMap fun s => s.AS.map (s.type, ·)

@[simp] theorem flatten_nil : flatten [] = [] := rfl

@[simp] theorem flatten_cons (s : AsSegment) (segs : List AsSegment) :
    flatten (s :: segs) = s.AS.map (s.type, ·) ++ flatten segs := rfl

@[simp] theorem flatten_append (a b : List AsSegment) :
    flatten (a ++ b) = flatten a ++ flatten b := by
  simp [flatten]

/-- Segment well-formedness: 1 to 255 ASes, and `Num` equal to their number. -/
def AsSegment.WellFormed (s : AsSegment) : Prop :=
  1 ≤ s.AS.length ∧ s.AS.length ≤ 255 ∧ s.num = s.AS.length

instance (s : AsSegment) : Decidable s.WellFormed :=
  inferInstanceAs (Decidable (_ ∧ _ ∧ _))

/-! ## Go's int64 arithmetic -/

/-- `int64(x)`: Go's int64 arithmetic keeps the result modulo 2^64, in `[-2^63, 2^63)`. -/
def toInt64 (x : Int) : Int := x.bmod (2 ^ 64)

theorem toInt64_of_lt {x : Int} (h1 : -2 ^ 63 ≤ x) (h2 : x < 2 ^ 63) : toInt64 x = x := by
  have hm : ((2 ^ 64 : Nat) : Int) = 18446744073709551616 := rfl
  have h63 : (2 : Int) ^ 63 = 9223372036854775808 := rfl
  simp only [toInt64, Int.bmod, hm]
  rw [h63] at h1 h2
  split <;> omega

theorem toInt64_of_ge {x : Int} (h1 : 2 ^ 63 ≤ x) (h2 : x < 2 ^ 64) : toInt64 x = x - 2 ^ 64 := by
  have hm : ((2 ^ 64 : Nat) : Int) = 18446744073709551616 := rfl
  have h63 : (2 : Int) ^ 63 = 9223372036854775808 := rfl
  have h64 : (2 : Int) ^ 64 = 18446744073709551616 := rfl
  simp only [toInt64, Int.bmod, hm]
  rw [h63] at h1
  rw [h64] at h2 ⊢
  split <;> omega

end GoBgp
