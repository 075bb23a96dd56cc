import SecondDisplay.Library.Bytes
import Mathlib.Data.Nat.Bitwise

/-!
# The trusted-LAN boundary (`net/NetworkSafety.cpp`)

`CheckTrustedLan` resolves a target and lets it pass if every address is local and Windows calls
every route to it trusted.  What the resolver and Windows answer is an argument.  An address is
classified by masks; `isLoopback_iff` and `isPrivateOrLinkLocal_iff` say which blocks of addresses
these are, and `trusted_of_checkTrustedLan` says what has been verified of a target that passes.
-/

namespace SecondDisplay.NetworkSafety

/-! ### Masks -/

/-- A mask of `m` ones over `k` zeros clears the low bits. -/
theorem and_mask {n : Nat} (m k : Nat) (h : n < 2 ^ (m + k)) :
    n &&& ((2 ^ m - 1) <<< k) = n / 2 ^ k * 2 ^ k := by
  rw [← Nat.shiftRight_eq_div_pow, ← Nat.shiftLeft_eq]
  apply Nat.eq_of_testBit_eq
  intro i
  rw [Nat.testBit_and, Nat.testBit_shiftLeft, Nat.testBit_shiftLeft, Nat.testBit_shiftRight,
    Nat.testBit_two_pow_sub_one]
  by_cases hk : k ≤ i
  · rw [Nat.add_sub_cancel' hk, decide_eq_true hk, Bool.true_and, Bool.true_and]
    by_cases hm : i - k < m
    · rw [decide_eq_true hm, Bool.and_true]
    · -- The bit is above the word.
      have hlt : n < 2 ^ i := h.trans_le (Nat.pow_le_pow_right (by decide) (by omega))
      rw [Nat.testBit_lt_two_pow hlt, Bool.false_and]
  · rw [decide_eq_false hk, Bool.false_and, Bool.false_and, Bool.and_false]

/-- The masked bits of a word are those of a base: the word is in the block of that base. -/
theorem and_mask_eq_iff {n : Nat} (m k base : Nat) (h : n < 2 ^ (m + k)) :
    n &&& ((2 ^ m - 1) <<< k) = base * 2 ^ k ↔ base * 2 ^ k ≤ n ∧ n < (base + 1) * 2 ^ k := by
  rw [and_mask m k h, Nat.mul_left_inj (Nat.two_pow_pos k).ne',
    Nat.div_eq_iff (Nat.two_pow_pos k)]
  have hblock := Nat.two_pow_pos k
  rw [Nat.succ_mul]
  omega

/-- A 32-bit word in a block. -/
theorem mask32_eq_iff (n : UInt32) (m k base : Nat) (h : m + k = 32) (mask value : UInt32)
    (hmask : mask.toNat = (2 ^ m - 1) <<< k) (hvalue : value.toNat = base * 2 ^ k) :
    n &&& mask = value ↔ base * 2 ^ k ≤ n.toNat ∧ n.toNat < (base + 1) * 2 ^ k := by
  rw [← UInt32.toNat_inj, UInt32.toNat_and, hmask, hvalue]
  exact and_mask_eq_iff m k base (h ▸ n.toNat_lt)

/-- A byte in a block. -/
theorem mask8_eq_iff (n : UInt8) (m k base : Nat) (h : m + k = 8) (mask value : UInt8)
    (hmask : mask.toNat = (2 ^ m - 1) <<< k) (hvalue : value.toNat = base * 2 ^ k) :
    n &&& mask = value ↔ base * 2 ^ k ≤ n.toNat ∧ n.toNat < (base + 1) * 2 ^ k := by
  rw [← UInt8.toNat_inj, UInt8.toNat_and, hmask, hvalue]
  exact and_mask_eq_iff m k base (h ▸ n.toNat_lt)

/-! ### Addresses -/

/-- An address of `getaddrinfo`, the IPv4 ones in host order. -/
inductive Address where
  | v4 (hostOrder : UInt32)
  | v6 (bytes : Vector UInt8 16) (scope : UInt32)
  deriving DecidableEq

/-- `::1`. -/
def loopback6 : Vector UInt8 16 := #v[0, 0, 0, 0, 0, 0, 0, 0, 0, 0, 0, 0, 0, 0, 0, 1]

/-- `IsLoopback`. -/
def isLoopback : Address → Bool
  | .v4 hostOrder => (hostOrder &&& 0xFF000000) == 0x7F000000
  | .v6 bytes _ => bytes == loopback6

/-- `IsPrivateOrLinkLocal`. -/
def isPrivateOrLinkLocal : Address → Bool
  | .v4 hostOrder =>
    (hostOrder &&& 0xFF000000) == 0x0A000000 || (hostOrder &&& 0xFFF00000) == 0xAC100000 ||
      (hostOrder &&& 0xFFFF0000) == 0xC0A80000 || (hostOrder &&& 0xFFFF0000) == 0xA9FE0000
  | .v6 bytes _ =>
    (bytes[0] &&& 0xFE) == 0xFC || bytes[0] == 0xFE && (bytes[1] &&& 0xC0) == 0x80

/-- The address `a.b.c.d`. -/
def dotted (a b c d : Nat) : Nat := ((a * 256 + b) * 256 + c) * 256 + d

/-- 127.0.0.0 to 127.255.255.255, and `::1`. -/
def Loopback : Address → Prop
  | .v4 hostOrder => dotted 127 0 0 0 ≤ hostOrder.toNat ∧ hostOrder.toNat ≤ dotted 127 255 255 255
  | .v6 bytes _ => bytes = loopback6

/-- The private blocks, from 10.0.0.0, 172.16.0.0 and 192.168.0.0. -/
def Rfc1918 : Address → Prop
  | .v4 hostOrder =>
    dotted 10 0 0 0 ≤ hostOrder.toNat ∧ hostOrder.toNat ≤ dotted 10 255 255 255 ∨
      dotted 172 16 0 0 ≤ hostOrder.toNat ∧ hostOrder.toNat ≤ dotted 172 31 255 255 ∨
      dotted 192 168 0 0 ≤ hostOrder.toNat ∧ hostOrder.toNat ≤ dotted 192 168 255 255
  | .v6 _ _ => False

/-- 169.254.0.0 to 169.254.255.255, and `fe80` to `febf`. -/
def LinkLocal : Address → Prop
  | .v4 hostOrder =>
    dotted 169 254 0 0 ≤ hostOrder.toNat ∧ hostOrder.toNat ≤ dotted 169 254 255 255
  | .v6 bytes _ => bytes[0] = 0xFE ∧ 0x80 ≤ bytes[1].toNat ∧ bytes[1].toNat ≤ 0xBF

/-- `fc00` to `fdff`. -/
def UniqueLocal : Address → Prop
  | .v4 _ => False
  | .v6 bytes _ => 0xFC ≤ bytes[0].toNat ∧ bytes[0].toNat ≤ 0xFD

theorem isLoopback_iff (address : Address) : isLoopback address = true ↔ Loopback address := by
  cases address with
  | v4 hostOrder =>
    rw [isLoopback, beq_iff_eq, mask32_eq_iff hostOrder 8 24 127 rfl _ _ rfl rfl, Loopback]
    simp only [dotted]
    omega
  | v6 bytes scope => rw [isLoopback, beq_iff_eq, Loopback]

theorem isPrivateOrLinkLocal_iff (address : Address) :
    isPrivateOrLinkLocal address = true ↔
      Rfc1918 address ∨ LinkLocal address ∨ UniqueLocal address := by
  cases address with
  | v4 hostOrder =>
    simp only [isPrivateOrLinkLocal, Bool.or_eq_true, beq_iff_eq]
    rw [mask32_eq_iff hostOrder 8 24 10 rfl _ _ rfl rfl,
      mask32_eq_iff hostOrder 12 20 (172 * 16 + 1) rfl _ _ rfl rfl,
      mask32_eq_iff hostOrder 16 16 (192 * 256 + 168) rfl _ _ rfl rfl,
      mask32_eq_iff hostOrder 16 16 (169 * 256 + 254) rfl _ _ rfl rfl]
    simp only [Rfc1918, LinkLocal, UniqueLocal, dotted, or_false]
    omega
  | v6 bytes scope =>
    simp only [isPrivateOrLinkLocal, Bool.or_eq_true, Bool.and_eq_true, beq_iff_eq]
    rw [mask8_eq_iff bytes[0] 7 1 126 rfl _ _ rfl rfl, mask8_eq_iff bytes[1] 2 6 2 rfl _ _ rfl rfl]
    simp only [Rfc1918, LinkLocal, UniqueLocal, false_or, ← UInt8.toNat_inj]
    have hbyte : UInt8.toNat 0xFE = 254 := rfl
    omega

/-! ### The route to an address -/

/-- A `GUID`. -/
abbrev Guid := BitVec 128

/-- `NLM_NETWORK_CATEGORY`. -/
inductive Category where
  | publicNetwork | privateNetwork | domainAuthenticated
  deriving DecidableEq

/-- What `IEnumNetworkConnections::Next` and the connection answer, `none` where a call fails. -/
inductive Next where
  /-- Neither a connection nor the end. -/
  | failed
  /-- `GetAdapterId`, `get_IsConnected`, and the category of `GetNetwork`. -/
  | connection (adapterId : Option Guid) (connected : Option Bool) (category : Option Category)

/-- What Windows answers about the route to an address. -/
structure Route where
  /-- The adapter of `GetBestInterfaceEx`, by `ConvertInterfaceIndexToLuid` and
  `ConvertInterfaceLuidToGuid`. -/
  adapterId : Option Guid
  /-- What the network list manager enumerates. -/
  connections : Option (List Next)

/-- The loop of `HasTrustedWindowsNetwork`. -/
def trustedConnections (adapterId : Guid) (foundConnectedRoute : Bool) : List Next → Bool
  | [] => foundConnectedRoute
  | .failed :: _ => false
  | .connection candidateId connected category :: rest =>
    match candidateId with
    | none => false
    | some candidateId =>
      if candidateId ≠ adapterId then trustedConnections adapterId foundConnectedRoute rest
      else
        match connected with
        | none => false
        | some false => trustedConnections adapterId foundConnectedRoute rest
        | some true =>
          if category = some .privateNetwork ∨ category = some .domainAuthenticated then
            trustedConnections adapterId true rest
          else false

/-- `HasTrustedWindowsNetwork`. -/
def hasTrustedWindowsNetwork (route : Route) : Bool :=
  match route.adapterId, route.connections with
  | some adapterId, some connections => trustedConnections adapterId false connections
  | _, _ => false

/-- The route is verified: its adapter has a connected network, and every connected network of the
adapter is Private or Domain. -/
def Verified (route : Route) : Prop :=
  ∃ adapterId connections, route.adapterId = some adapterId ∧
    route.connections = some connections ∧
    (∃ category, Next.connection (some adapterId) (some true) category ∈ connections) ∧
    ∀ category, Next.connection (some adapterId) (some true) category ∈ connections →
      category = some .privateNetwork ∨ category = some .domainAuthenticated

theorem trustedConnections_sound {adapterId : Guid} {connections : List Next} {found : Bool}
    (h : trustedConnections adapterId found connections = true) :
    (found = true ∨
        ∃ category, Next.connection (some adapterId) (some true) category ∈ connections) ∧
      ∀ category, Next.connection (some adapterId) (some true) category ∈ connections →
        category = some .privateNetwork ∨ category = some .domainAuthenticated := by
  induction connections generalizing found with
  | nil => exact ⟨Or.inl h, fun _ hmem => absurd hmem List.not_mem_nil⟩
  | cons next rest ih =>
    -- A connection that does not count.
    have skips (hskip : ∀ category, next ≠ .connection (some adapterId) (some true) category)
        (hrest : trustedConnections adapterId found rest = true) :
        (found = true ∨
            ∃ category, Next.connection (some adapterId) (some true) category ∈ next :: rest) ∧
          ∀ category, Next.connection (some adapterId) (some true) category ∈ next :: rest →
            category = some .privateNetwork ∨ category = some .domainAuthenticated := by
      obtain ⟨hfound, hall⟩ := ih hrest
      refine ⟨hfound.imp_right fun hsome => ?_, fun category hmem => ?_⟩
      · obtain ⟨category, hmem⟩ := hsome
        exact ⟨category, List.mem_cons_of_mem _ hmem⟩
      · rcases List.mem_cons.1 hmem with hsame | hmem
        · exact absurd hsame.symm (hskip category)
        · exact hall category hmem
    cases next with
    | failed =>
      rw [trustedConnections] at h
      cases h
    | connection candidateId connected category =>
      cases candidateId with
      | none =>
        rw [trustedConnections] at h
        cases h
      | some candidateId =>
        simp only [trustedConnections] at h
        split at h
        case isTrue hother =>
          refine skips (fun category hsame => ?_) h
          cases hsame
          exact hother rfl
        case isFalse hsame =>
          rw [ne_eq, not_not] at hsame
          subst hsame
          split at h
          · cases h
          · exact skips (by rintro _ ⟨⟩) h
          · split at h
            case isFalse => cases h
            case isTrue htrusted =>
              obtain ⟨-, hall⟩ := ih h
              refine ⟨Or.inr ⟨category, List.mem_cons_self⟩, fun other hmem => ?_⟩
              rcases List.mem_cons.1 hmem with hhead | hmem
              · cases hhead
                exact htrusted
              · exact hall other hmem

theorem verified_of_hasTrustedWindowsNetwork {route : Route}
    (h : hasTrustedWindowsNetwork route = true) : Verified route := by
  rw [hasTrustedWindowsNetwork] at h
  split at h
  case h_1 adapterId connections hadapter hconnections =>
    obtain ⟨hfound, hall⟩ := trustedConnections_sound h
    exact ⟨adapterId, connections, hadapter, hconnections,
      hfound.resolve_left Bool.false_ne_true, hall⟩
  case h_2 => cases h

/-! ### The check -/

/-- An entry of `getaddrinfo`'s list. -/
inductive Item where
  /-- A family other than `AF_INET` and `AF_INET6`. -/
  | other
  /-- An address, with what `getnameinfo` makes of it, `none` where it fails, and with what Windows
  answers about its route if it is asked. -/
  | inet (address : Address) (numeric : Option Bytes) (route : Route)

/-- `ResolvedAddress`. -/
structure ResolvedAddress where
  address : Address
  numeric : Bytes
  route : Route

/-- The loop of `ResolveTarget`. -/
def resolvedAddresses : List Item → List ResolvedAddress
  | [] => []
  | .inet address (some numeric) route :: items =>
    ⟨address, numeric, route⟩ :: resolvedAddresses items
  | _ :: items => resolvedAddresses items

/-- `ResolveTarget`, with an empty list where it returns false. -/
def resolveTarget : Option (List Item) → List ResolvedAddress
  | none => []
  | some items => resolvedAddresses items

/-- `NetworkSafetyResult`. -/
structure NetworkSafetyResult where
  allowed : Bool := false
  reason : String := ""
  resolvedTarget : Bytes := []

/-- `CheckTrustedLan`, by what `getaddrinfo` answers. -/
def checkTrustedLan (answer : Option (List Item)) (requirePrivateNetwork : Bool) :
    NetworkSafetyResult :=
  match resolveTarget answer with
  | [] => { reason := "target could not be resolved to IPv4 or IPv6" }
  | front :: rest =>
    let addresses := front :: rest
    if !requirePrivateNetwork then
      ⟨true, "private-network enforcement disabled by explicit configuration", front.numeric⟩
    else if addresses.any fun entry =>
        !isLoopback entry.address && !isPrivateOrLinkLocal entry.address then
      { reason := "target resolves to a non-private address" }
    else if addresses.all fun entry => isLoopback entry.address then
      ⟨true, "loopback self-test", front.numeric⟩
    else if addresses.any fun entry =>
        !isLoopback entry.address && !hasTrustedWindowsNetwork entry.route then
      { reason := "the Windows network route to the target is Public or cannot be verified; " ++
          "set that trusted LAN to Private" }
    else ⟨true, "trusted private LAN", front.numeric⟩

/-- The address is local, and unless it is the loopback its route is verified. -/
def Trusted (entry : ResolvedAddress) : Prop :=
  Loopback entry.address ∨
    (Rfc1918 entry.address ∨ LinkLocal entry.address ∨ UniqueLocal entry.address) ∧
      Verified entry.route

/-- **The check.**  A target that passes has addresses, all of them trusted, and its resolved
target is the text of the first one. -/
theorem trusted_of_checkTrustedLan {answer : Option (List Item)}
    (h : (checkTrustedLan answer true).allowed = true) :
    ∃ front rest, resolveTarget answer = front :: rest ∧
      (checkTrustedLan answer true).resolvedTarget = front.numeric ∧
      ∀ entry ∈ front :: rest, Trusted entry := by
  rw [checkTrustedLan] at h ⊢
  cases hresolved : resolveTarget answer with
  | nil =>
    rw [hresolved] at h
    cases h
  | cons front rest =>
    rw [hresolved] at h
    simp only [Bool.not_true, Bool.false_eq_true, if_false] at h ⊢
    refine ⟨front, rest, rfl, ?_⟩
    split at h
    case isTrue => cases h
    case isFalse hlocal =>
      rw [if_neg hlocal]
      rw [Bool.not_eq_true, List.any_eq_false] at hlocal
      split at h
      case isTrue hloopback =>
        rw [if_pos hloopback]
        rw [List.all_eq_true] at hloopback
        exact ⟨rfl, fun entry hmem => Or.inl ((isLoopback_iff _).1 (hloopback entry hmem))⟩
      case isFalse hmixed =>
        rw [if_neg hmixed]
        split at h
        case isTrue => cases h
        case isFalse hroutes =>
          rw [if_neg hroutes]
          rw [Bool.not_eq_true, List.any_eq_false] at hroutes
          refine ⟨rfl, fun entry hmem => ?_⟩
          have hplace := hlocal entry hmem
          have hroute := hroutes entry hmem
          cases hloop : isLoopback entry.address with
          | true => exact Or.inl ((isLoopback_iff _).1 hloop)
          | false =>
            simp only [hloop, Bool.not_false, Bool.true_and, Bool.not_eq_true,
              Bool.not_eq_false'] at hplace hroute
            exact Or.inr ⟨(isPrivateOrLinkLocal_iff _).1 hplace,
              verified_of_hasTrustedWindowsNetwork hroute⟩

end SecondDisplay.NetworkSafety
