import Clues.Items.FdSet
import Clues.Items.SockOpt
import Clues.Items.SocketPair

/-!
# Socket addresses that a call returns

* `SocketAddress`           the item for a `struct sockaddr*`, with its length as a value or behind
                            a pointer, in `items/net.cxx`;
* `AddressLengthPointer`    the item for that pointer: the available and the returned length;
* `AddressCall`             a call of `accept()`, `getsockname()`, `getpeername()` or `recvfrom()`;
* `dependsOnWritten_iff`    when the decoded address depends only on the bytes that the kernel has
                            written.

The types of addresses are those of libcosmos: `AddressVariant` has what they are constructed with.
-/

namespace Clues

open Lib Lib.LittleEndian

/-! ## the items -/

structure AddressLengthPointer where
  scalar : PointerToScalar
  available : Option Bytes := none
  filled : Option Bytes := none

namespace AddressLengthPointer

def processData (m : Memory) (p : AddressLengthPointer) : Except Exc AddressLengthPointer :=
  (p.scalar.processData .paramInOut m 4).map fun scalar =>
    { scalar := scalar, available := scalar.val, filled := none }

def updateData (c : ItemContext) (p : AddressLengthPointer) : Except Exc AddressLengthPointer :=
  (p.scalar.updateData .paramInOut c.mem 4).map fun scalar =>
    { p with scalar := scalar, filled := if c.hasResultValue then scalar.val else p.filled }

end AddressLengthPointer

/-- `m_len` or `m_lenp` -/
inductive AddressLength where
  | value (len : Int)
  | pointer (len : AddressLengthPointer)

/-- an optional without a value is not checked for -/
def AddressLength.addrLen : AddressLength → Except Exc Int
  | .value len => .ok len
  | .pointer len =>
    match len.scalar.val with
    | some bs => .ok (intOfBytes bs)
    | none => .error (.undefined .null)

/-- `sizeof(struct sockaddr_storage)` -/
def storageSize : Nat := 128

/-- the types of addresses, each with the bytes of its struct -/
inductive AddressVariant where
  | ip4 (raw : Bytes)
  | ip6 (raw : Bytes)
  | unix (raw : Bytes) (len : Nat)
  | netlink (raw : Bytes)
  | linkLayer (raw : Bytes)
  deriving DecidableEq, Repr

/-- the item for the address -/
structure SocketAddress where
  ptr : UInt64
  addr : Option Bytes := none

/-- `ss_family` -/
def ssFamily (storage : Bytes) : Nat := le (storage.take 2)

namespace SocketAddress

def processData (type : ItemType) (isEnterStop : Bool) (c : ItemContext) (len : AddressLength)
    (p : SocketAddress) : Except Exc SocketAddress :=
  if (type = .paramOut ∧ isEnterStop) ∨ p.ptr = 0 ∨ (!isEnterStop ∧ !c.hasResultValue) then
    .ok { p with addr := none }
  else
    len.addrLen.map fun len =>
      let addrLen := min len.toNat storageSize
      if addrLen = 0 then { p with addr := none }
      else
        match readBlob c.mem p.ptr addrLen with
        | .ok bs => { p with addr := some (padTo storageSize bs) }
        | .error _ => { p with addr := none }

/-- `addr()` of an address -/
def variant (len : AddressLength) (storage : Bytes) : Except Exc (Option AddressVariant) :=
  match ssFamily storage with
  | 2 => .ok (some (.ip4 (storage.take 16)))
  | 10 => .ok (some (.ip6 (storage.take 28)))
  | 17 => .ok (some (.linkLayer (storage.take 20)))
  | 16 => .ok (some (.netlink (storage.take 12)))
  | 1 => len.addrLen.map fun n => some (.unix (storage.take 110) n.toNat)
  | _ => .ok none

/-- `valid()`, `domain()` and `addr()` -/
def decoded (len : AddressLength) (p : SocketAddress) :
    Except Exc (Option (Nat × Option AddressVariant)) :=
  match p.addr with
  | some storage => (variant len storage).map fun v => some (ssFamily storage, v)
  | none => .ok none

end SocketAddress

/-! ## calls -/

/-- a call, with the length that it is given and the length that the kernel returns -/
structure AddressCall where
  addr : UInt64
  addrlen : UInt64
  entry : ItemContext
  exit : ItemContext
  available : Nat
  returned : Nat
  room : available < 2 ^ 32
  range : returned < 2 ^ 31
  passed : exit.hasResultValue = true → addr ≠ 0 →
    bytesAt entry.mem addrlen 4 = some (toLE 4 available)
  reported : exit.hasResultValue = true → addr ≠ 0 →
    bytesAt exit.mem addrlen 4 = some (toLE 4 returned)

/-- the same bytes can be read -/
def SameReadable (m m' : Memory) : Prop := ∀ a, (m' a).isSome = (m a).isSome

/-- the bytes of a buffer are the same -/
def SameBytes (m m' : Memory) (a : UInt64) (n : Nat) : Prop :=
  ∀ i, i < n → m' (a + UInt64.ofNat i) = m (a + UInt64.ofNat i)

namespace AddressCall

/-- the item for the length on exit -/
def length (call : AddressCall) : Except Exc AddressLengthPointer := do
  let len ← { scalar := { ptr := call.addrlen } : AddressLengthPointer }.processData call.entry.mem
  len.updateData call.exit

/-- the address on exit if the buffer is that of the memory `m` -/
def decoded (call : AddressCall) (m : Memory) :
    Except Exc (Option (Nat × Option AddressVariant)) := do
  let len ← call.length
  let p ← { ptr := call.addr : SocketAddress }.processData .paramOut false
    { call.exit with mem := m } (.pointer len)
  p.decoded (.pointer len)

/-- what the kernel writes -/
def written (call : AddressCall) : Nat := min call.available call.returned

/-- the address is the same for each content of the bytes that the kernel has not written -/
def DependsOnWritten (call : AddressCall) : Prop :=
  ∃ d, ∀ m, SameReadable call.exit.mem m → SameBytes call.exit.mem m call.addr call.written →
    call.decoded m = .ok d

/-- what is read -/
def toRead (call : AddressCall) : Nat := min call.returned storageSize

/-- the size of the struct for a family -/
def structSize : Nat → Nat
  | 2 => 16
  | 10 => 28
  | 17 => 20
  | 16 => 12
  | 1 => 110
  | _ => 0

/-- so many bytes of an address that has been read are in its family and its struct -/
def used (bs : Bytes) : Nat :=
  min bs.length (max 2 (structSize (ssFamily (padTo storageSize bs))))

/-- the length can be read, and if the words of the address can be read then the kernel has written
what is used of it -/
def Fits (call : AddressCall) : Prop :=
  call.exit.hasResultValue = true → call.addr ≠ 0 →
    (scalarAt call.exit.mem call.addrlen 4).isSome = true ∧
    ∀ bs, BufferPointer.Readable call.exit.mem call.addr call.toRead →
      bytesAt call.exit.mem call.addr call.toRead = some bs → used bs ≤ call.written

/-! ## what is used of the bytes -/

section
variable {bs bs' storage storage' : Bytes} {n : Int}

theorem le_injective (h : bs.length = bs'.length) (hle : le bs = le bs') : bs = bs' := by
  rw [← toLE_le bs, ← toLE_le bs', h, hle]

theorem take_max_iff (i j : Nat) : bs.take (max i j) = bs'.take (max i j) ↔
    bs.take i = bs'.take i ∧ bs.take j = bs'.take j := by
  constructor
  · intro h
    have hi := congrArg (List.take i) h
    have hj := congrArg (List.take j) h
    rw [List.take_take, List.take_take, Nat.min_eq_left (Nat.le_max_left i j)] at hi
    rw [List.take_take, List.take_take, Nat.min_eq_left (Nat.le_max_right i j)] at hj
    exact ⟨hi, hj⟩
  · rintro ⟨hi, hj⟩
    rcases Nat.le_total i j with h | h
    · rw [Nat.max_eq_right h, hj]
    · rw [Nat.max_eq_left h, hi]

theorem ssFamily_eq_iff (h : storage.length = storage'.length) :
    ssFamily storage = ssFamily storage' ↔ storage.take 2 = storage'.take 2 := by
  constructor
  · exact le_injective (by rw [List.length_take, List.length_take, h])
  · exact congrArg le

theorem variant_eq_iff (h : ssFamily storage = ssFamily storage') :
    SocketAddress.variant (.value n) storage = SocketAddress.variant (.value n) storage' ↔
      storage.take (structSize (ssFamily storage)) =
        storage'.take (structSize (ssFamily storage)) := by
  unfold SocketAddress.variant structSize AddressLength.addrLen
  rw [← h]
  split <;> simp [Except.map]

theorem take_padTo_iff (h : bs.length = bs'.length) (j : Nat) :
    (padTo storageSize bs).take j = (padTo storageSize bs').take j ↔
      bs.take (min bs.length j) = bs'.take (min bs.length j) := by
  have hself : ∀ xs : Bytes, xs.take (min xs.length j) = xs.take j := by
    intro xs
    rw [Nat.min_comm, ← List.take_take, List.take_length]
  have hself' : bs'.take (min bs.length j) = bs'.take j := by rw [h, hself]
  unfold padTo
  rw [hself, hself', List.take_append, List.take_append, h]
  exact List.append_left_inj _

theorem variant_ok (n : Int) (storage : Bytes) :
    ∃ v, SocketAddress.variant (.value n) storage = .ok v := by
  unfold SocketAddress.variant
  split <;> exact ⟨_, rfl⟩

/-- the address that these bytes are decoded to -/
def view (n : Int) (bs : Bytes) : Except Exc (Option (Nat × Option AddressVariant)) :=
  (SocketAddress.variant (.value n) (padTo storageSize bs)).map fun v =>
    some (ssFamily (padTo storageSize bs), v)

theorem view_ok (n : Int) (bs : Bytes) : ∃ d, view n bs = .ok d := by
  obtain ⟨v, hv⟩ := variant_ok n (padTo storageSize bs)
  unfold view
  rw [hv]
  exact ⟨_, rfl⟩

theorem view_eq_iff (h : bs.length = bs'.length) :
    view n bs = view n bs' ↔ bs.take (used bs) = bs'.take (used bs) := by
  have hlen : (padTo storageSize bs).length = (padTo storageSize bs').length := by
    unfold padTo
    rw [List.length_append, List.length_append, h]
  obtain ⟨v, hv⟩ := variant_ok n (padTo storageSize bs)
  obtain ⟨v', hv'⟩ := variant_ok n (padTo storageSize bs')
  have hview : view n bs = view n bs' ↔
      ssFamily (padTo storageSize bs) = ssFamily (padTo storageSize bs') ∧ v = v' := by
    unfold view
    rw [hv, hv']
    simp [Except.map]
  unfold used
  rw [hview, ← take_padTo_iff h, take_max_iff, ← ssFamily_eq_iff hlen]
  refine and_congr_right fun hfam => ?_
  rw [← variant_eq_iff hfam, hv, hv']
  exact ⟨congrArg Except.ok, Except.ok.inj⟩

end

/-! ## memories -/

section
variable {m m' : Memory} {a : UInt64} {n : Nat} {bs bs' : Bytes}

theorem isSome_bytesAt_iff (m : Memory) (a : UInt64) (n : Nat) :
    (bytesAt m a n).isSome = true ↔ ∀ i, i < n → (m (a + UInt64.ofNat i)).isSome = true := by
  induction n with
  | zero => exact iff_of_true rfl fun i hi => absurd hi (Nat.not_lt_zero i)
  | succ n ih =>
    have hone : bytesAt m (a + UInt64.ofNat n) 1 =
        (m (a + UInt64.ofNat n)).map fun b => [b] := by
      unfold bytesAt
      cases m (a + UInt64.ofNat n) <;> rfl
    have hsome : (bytesAt m a (n + 1)).isSome = true ↔
        (bytesAt m a n).isSome = true ∧ (m (a + UInt64.ofNat n)).isSome = true := by
      rw [bytesAt_add, hone]
      cases bytesAt m a n <;> cases m (a + UInt64.ofNat n) <;> simp
    rw [hsome, ih]
    constructor
    · rintro ⟨hall, hn⟩ i hi
      rcases Nat.lt_succ_iff_lt_or_eq.mp hi with h | rfl
      · exact hall i h
      · exact hn
    · intro h
      exact ⟨fun i hi => h i (by omega), h n (Nat.lt_succ_self n)⟩

theorem isSome_bytesAt_eq (h : SameReadable m m') (a : UInt64) (n : Nat) :
    (bytesAt m' a n).isSome = (bytesAt m a n).isSome := by
  rw [Bool.eq_iff_iff, isSome_bytesAt_iff, isSome_bytesAt_iff]
  exact forall_congr' fun i => imp_congr_right fun _ => by rw [h]

/-- the first bytes that are read -/
theorem take_eq_iff_sameBytes (hbs : bytesAt m a n = some bs) (hbs' : bytesAt m' a n = some bs')
    {k : Nat} (hk : k ≤ n) : bs.take k = bs'.take k ↔ SameBytes m m' a k := by
  have hlen : bs.length = n := bytesAt_length hbs
  have hlen' : bs'.length = n := bytesAt_length hbs'
  constructor
  · intro h i hi
    rw [← bytesAt_getElem? hbs (by omega), ← bytesAt_getElem? hbs' (by omega),
      ← List.getElem?_take_of_lt hi, ← List.getElem?_take_of_lt hi (l := bs), h]
  · intro h
    apply List.ext_getElem?
    intro i
    by_cases hi : i < k
    · rw [List.getElem?_take_of_lt hi, List.getElem?_take_of_lt hi,
        bytesAt_getElem? hbs (by omega), bytesAt_getElem? hbs' (by omega), h i hi]
    · rw [List.getElem?_eq_none (by rw [List.length_take]; omega),
        List.getElem?_eq_none (by rw [List.length_take]; omega)]

end

/-! ## the item on exit -/

section
variable (call : AddressCall)

theorem length_eq : ∃ len, call.length = .ok len ∧
    len.scalar.val = scalarAt call.exit.mem call.addrlen 4 := by
  have hentry : ({ ptr := call.addrlen } : PointerToScalar).processData .paramInOut call.entry.mem 4
      = .ok { ptr := call.addrlen, val := scalarAt call.entry.mem call.addrlen 4 } :=
    PointerToScalar.fetchValue_eq _ _ _
  have hexit : ({ ptr := call.addrlen, val := scalarAt call.entry.mem call.addrlen 4 } :
      PointerToScalar).updateData .paramInOut call.exit.mem 4
      = .ok { ptr := call.addrlen, val := scalarAt call.exit.mem call.addrlen 4 } :=
    PointerToScalar.fetchValue_eq _ _ _
  unfold length AddressLengthPointer.processData
  dsimp only
  rw [hentry]
  show ∃ len, AddressLengthPointer.updateData call.exit
    { scalar := { ptr := call.addrlen, val := scalarAt call.entry.mem call.addrlen 4 }
      available := _, filled := _ } = .ok len ∧ _
  unfold AddressLengthPointer.updateData
  dsimp only
  rw [hexit]
  exact ⟨_, rfl, rfl⟩

theorem addrLen_eq {len : AddressLengthPointer}
    (hlen : len.scalar.val = scalarAt call.exit.mem call.addrlen 4)
    (hres : call.exit.hasResultValue = true) (haddr : call.addr ≠ 0)
    (hsome : (scalarAt call.exit.mem call.addrlen 4).isSome = true) :
    (AddressLength.pointer len).addrLen = .ok (call.returned : Int) := by
  have hscalar : scalarAt call.exit.mem call.addrlen 4 = some (toLE 4 call.returned) := by
    unfold scalarAt at hsome ⊢
    by_cases hz : call.addrlen = 0
    · rw [if_pos hz] at hsome
      cases hsome
    rw [if_neg hz] at hsome ⊢
    by_cases hread : (bytesAt call.exit.mem call.addrlen (fetched 4)).isSome = true
    · rw [if_pos hread]
      exact call.reported hres haddr
    · rw [if_neg hread] at hsome
      cases hsome
  have hint : intOfBytes (toLE 4 call.returned) = call.returned :=
    SocketPairCall.intOfBytes_toLE (Int.natCast_nonneg _) call.range
  unfold AddressLength.addrLen
  dsimp only
  rw [hlen, hscalar, ← hint]

theorem decoded_of_length {len : AddressLengthPointer} {m : Memory} {p : Except Exc SocketAddress}
    (hlen : call.length = .ok len)
    (hitem : ({ ptr := call.addr } : SocketAddress).processData .paramOut false
      { call.exit with mem := m } (.pointer len) = p) :
    call.decoded m = p.bind fun p => p.decoded (.pointer len) := by
  unfold decoded
  rw [hlen]
  show ((({ ptr := call.addr } : SocketAddress).processData .paramOut false
      { call.exit with mem := m } (.pointer len)).bind fun p => p.decoded (.pointer len)) = _
  rw [hitem]

/-- what is decoded for a length -/
theorem decoded_eq (m : Memory) (hres : call.exit.hasResultValue = true) (haddr : call.addr ≠ 0)
    (hsome : (scalarAt call.exit.mem call.addrlen 4).isSome = true) :
    call.decoded m =
      if call.toRead = 0 ∨ ¬ BufferPointer.Readable m call.addr call.toRead then .ok none
      else view call.returned ((bytesAt m call.addr call.toRead).getD []) := by
  obtain ⟨len, hlen, hval⟩ := call.length_eq
  have haddrLen := call.addrLen_eq hval hres haddr hsome
  have hvariant : ∀ storage, SocketAddress.variant (.pointer len) storage =
      SocketAddress.variant (.value call.returned) storage := by
    intro storage
    unfold SocketAddress.variant
    rw [haddrLen]
    rfl
  have hitem : ({ ptr := call.addr } : SocketAddress).processData .paramOut false
      { call.exit with mem := m } (.pointer len) = .ok
        (if call.toRead = 0 then { ptr := call.addr, addr := none }
        else
          match readBlob m call.addr call.toRead with
          | .ok bs => { ptr := call.addr, addr := some (padTo storageSize bs) }
          | .error _ => { ptr := call.addr, addr := none }) := by
    unfold SocketAddress.processData
    rw [if_neg (by simp [hres, haddr]), haddrLen]
    rfl
  rw [call.decoded_of_length hlen hitem]
  by_cases h0 : call.toRead = 0
  · rw [if_pos h0, if_pos (Or.inl h0)]
    rfl
  rw [if_neg h0]
  have hread := readBlob_eq (m := m) call.addr call.toRead
  cases hb : readBlob m call.addr call.toRead with
  | error e =>
    have hno : ¬ BufferPointer.Readable m call.addr call.toRead := by
      intro hr
      obtain ⟨bs, hbs⟩ := BufferPointer.readBlob_ok_iff.mpr hr
      rw [hb] at hbs
      cases hbs
    rw [if_pos (Or.inr hno)]
    rfl
  | ok bs =>
    have hr : BufferPointer.Readable m call.addr call.toRead :=
      BufferPointer.readBlob_ok_iff.mp ⟨bs, hb⟩
    rw [if_neg (not_or.mpr ⟨h0, not_not.mpr hr⟩), BufferPointer.readBlob_bytes hb]
    show (SocketAddress.variant (.pointer len) (padTo storageSize bs)).map _ = view call.returned bs
    rw [hvariant]
    rfl

/-- nothing is returned -/
theorem decoded_none (m : Memory) (h : ¬ (call.exit.hasResultValue = true ∧ call.addr ≠ 0)) :
    call.decoded m = .ok none := by
  obtain ⟨len, hlen, -⟩ := call.length_eq
  have hitem : ({ ptr := call.addr } : SocketAddress).processData .paramOut false
      { call.exit with mem := m } (.pointer len) = .ok { ptr := call.addr, addr := none } := by
    unfold SocketAddress.processData
    rw [if_pos]
    by_cases haddr : call.addr = 0
    · exact Or.inr (Or.inl haddr)
    · right; right
      simpa [haddr] using h
  rw [call.decoded_of_length hlen hitem]
  rfl

/-- the value of the length is missing -/
theorem decoded_undefined (m : Memory) (hres : call.exit.hasResultValue = true)
    (haddr : call.addr ≠ 0) (hnone : scalarAt call.exit.mem call.addrlen 4 = none) :
    call.decoded m = .error (.undefined .null) := by
  obtain ⟨len, hlen, hval⟩ := call.length_eq
  have haddrLen : (AddressLength.pointer len).addrLen = .error (.undefined .null) := by
    unfold AddressLength.addrLen
    dsimp only
    rw [hval, hnone]
  have hitem : ({ ptr := call.addr } : SocketAddress).processData .paramOut false
      { call.exit with mem := m } (.pointer len) = .error (.undefined .null) := by
    unfold SocketAddress.processData
    rw [if_neg (by simp [hres, haddr]), haddrLen]
    rfl
  rw [call.decoded_of_length hlen hitem]
  rfl

/-- another content of the byte behind the ones that are written -/
theorem exists_other {m : Memory} {a : UInt64} {n k : Nat} {bs : Bytes}
    (hbs : bytesAt m a n = some bs) (hk : k < n) (hn : n ≤ storageSize) :
    ∃ m', SameReadable m m' ∧ SameBytes m m' a k ∧ m' (a + UInt64.ofNat k) ≠ m (a + UInt64.ofNat k) := by
  have hsome := (isSome_bytesAt_iff m a n).mp (by rw [hbs]; rfl) k hk
  obtain ⟨b, hb⟩ := Option.isSome_iff_exists.mp hsome
  refine ⟨Function.update m (a + UInt64.ofNat k) (some (b + 1)), ?_, ?_, ?_⟩
  · intro q
    by_cases hq : q = a + UInt64.ofNat k
    · rw [hq, Function.update_self, hb]
      rfl
    · rw [Function.update_of_ne hq]
  · intro i hi
    have hne : a + UInt64.ofNat i ≠ a + UInt64.ofNat k := by
      intro h
      have hik := congrArg UInt64.toNat (UInt64.add_right_inj a |>.mp h)
      unfold storageSize at hn
      rw [UInt64.toNat_ofNat', UInt64.toNat_ofNat', Nat.mod_eq_of_lt (by omega),
        Nat.mod_eq_of_lt (by omega)] at hik
      omega
    rw [Function.update_of_ne hne]
  · rw [Function.update_self, hb]
    intro h
    have hone : b + 1 = b := Option.some.inj h
    simp at hone

/-- the length is known: the bytes that are used of an address that can be read -/
theorem dependsOnWritten_of_length (hres : call.exit.hasResultValue = true) (haddr : call.addr ≠ 0)
    (hsome : (scalarAt call.exit.mem call.addrlen 4).isSome = true) :
    call.DependsOnWritten ↔ call.Fits := by
  have heq := fun m => call.decoded_eq m hres haddr hsome
  have hself : SameReadable call.exit.mem call.exit.mem := fun a => rfl
  by_cases hread : BufferPointer.Readable call.exit.mem call.addr call.toRead
  · obtain ⟨bs, hbs⟩ : ∃ bs, bytesAt call.exit.mem call.addr call.toRead = some bs := by
      obtain ⟨bs, hb⟩ := BufferPointer.readBlob_ok_iff.mpr hread
      exact ⟨bs, BufferPointer.readBlob_bytes hb⟩
    by_cases h0 : call.toRead = 0
    · -- no byte is read
      apply iff_of_true
      · exact ⟨none, fun m _ _ => by rw [heq m, if_pos (Or.inl h0)]⟩
      · intro _ _
        refine ⟨hsome, fun bs' _ hbs' => ?_⟩
        have hlen := bytesAt_length hbs'
        unfold used
        omega
    have hview : ∀ m, SameReadable call.exit.mem m → ∃ bs',
        bytesAt m call.addr call.toRead = some bs' ∧ call.decoded m = view call.returned bs' := by
      intro m hm
      have hr : BufferPointer.Readable m call.addr call.toRead :=
        (isSome_bytesAt_eq hm call.addr (fetched call.toRead)).trans hread
      have hbytes := (isSome_bytesAt_eq hm call.addr call.toRead).trans (by rw [hbs])
      obtain ⟨bs', hbs'⟩ := Option.isSome_iff_exists.mp hbytes
      refine ⟨bs', hbs', ?_⟩
      rw [heq m, if_neg (not_or.mpr ⟨h0, not_not.mpr hr⟩), hbs']
      rfl
    have hused : used bs ≤ call.toRead := by
      rw [← bytesAt_length hbs]
      exact Nat.min_le_left _ _
    constructor
    · rintro ⟨d, hd⟩ _ _
      refine ⟨hsome, fun bs₀ _ hbs₀ => ?_⟩
      obtain rfl : bs = bs₀ := Option.some.inj (hbs.symm.trans hbs₀)
      by_contra hlt
      -- the first byte that is not written is used
      obtain ⟨m, hm, hsame, hne⟩ := exists_other hbs
        (show call.written < call.toRead by omega) (Nat.min_le_right _ _)
      obtain ⟨bs', hbs', hdec'⟩ := hview m hm
      obtain ⟨bs₁, hbs₁, hdec⟩ := hview call.exit.mem hself
      obtain rfl : bs = bs₁ := Option.some.inj (hbs.symm.trans hbs₁)
      rw [hd m hm hsame] at hdec'
      rw [hd call.exit.mem hself fun i _ => rfl] at hdec
      have htake := (view_eq_iff ((bytesAt_length hbs).trans (bytesAt_length hbs').symm)).mp
        (hdec.symm.trans hdec')
      exact hne ((take_eq_iff_sameBytes hbs hbs' hused).mp htake call.written (by omega))
    · intro hfits
      have hle := (hfits hres haddr).2 bs hread hbs
      obtain ⟨d, hd⟩ := view_ok call.returned bs
      refine ⟨d, fun m hm hsame => ?_⟩
      obtain ⟨bs', hbs', hdec⟩ := hview m hm
      rw [hdec, ← hd, eq_comm, view_eq_iff ((bytesAt_length hbs).trans (bytesAt_length hbs').symm)]
      exact (take_eq_iff_sameBytes hbs hbs' hused).mpr fun i hi => hsame i (by omega)
  · -- the address is missing
    apply iff_of_true
    · refine ⟨none, fun m hm hsame => ?_⟩
      have hno : ¬ BufferPointer.Readable m call.addr call.toRead := by
        intro h
        exact hread ((isSome_bytesAt_eq hm call.addr (fetched call.toRead)).symm.trans h)
      rw [heq m, if_pos (Or.inr hno)]
    · intro _ _
      exact ⟨hsome, fun bs hr => absurd hr hread⟩

/-- for every call, memory and lengths -/
theorem dependsOnWritten_iff (call : AddressCall) : call.DependsOnWritten ↔ call.Fits := by
  by_cases htrivial : call.exit.hasResultValue = true ∧ call.addr ≠ 0
  · obtain ⟨hres, haddr⟩ := htrivial
    cases hlen : scalarAt call.exit.mem call.addrlen 4 with
    | none =>
      apply iff_of_false
      · rintro ⟨d, hd⟩
        have h := hd call.exit.mem (fun a => rfl) (fun i hi => rfl)
        rw [call.decoded_undefined _ hres haddr hlen] at h
        cases h
      · intro h
        have hsome := (h hres haddr).1
        rw [hlen] at hsome
        cases hsome
    | some len =>
      exact call.dependsOnWritten_of_length hres haddr (by rw [hlen]; rfl)
  · apply iff_of_true
    · exact ⟨none, fun m _ _ => call.decoded_none m htrivial⟩
    · intro hres haddr
      exact absurd ⟨hres, haddr⟩ htrivial

end

/-- `getsockname()` with room for the family only: the address of an internet socket is cut off -/
def cutOff : AddressCall where
  addr := 64
  addrlen := 32
  entry := { mem := fun a => if a = 32 then some 2 else some 0, maxBufferPrefetch := 0
             is32BitEmulationABI := false, hasResultValue := false }
  exit := { mem := fun a => if a = 32 then some 16 else if a = 64 then some 2 else some 0
            maxBufferPrefetch := 0, is32BitEmulationABI := false, hasResultValue := true }
  available := 2
  returned := 16
  room := by decide
  range := by decide
  passed _ _ := by decide +kernel
  reported _ _ := by decide +kernel

/-- the port is what was in the buffer before -/
theorem dependsOnWritten_fails : ¬ ∀ call : AddressCall, call.DependsOnWritten := by
  intro h
  obtain ⟨d, hd⟩ := h cutOff
  let m : Memory := fun a => if a = 66 then some 1 else cutOff.exit.mem a
  have hzero : cutOff.decoded cutOff.exit.mem = .ok d :=
    hd _ (fun a => rfl) fun i _ => rfl
  have hone : cutOff.decoded m = .ok d := by
    apply hd
    · intro a
      show (if a = 66 then some 1 else cutOff.exit.mem a).isSome = (cutOff.exit.mem a).isSome
      by_cases ha : a = 66
      · rw [ha]
        rfl
      · rw [if_neg ha]
    · intro i hi
      have hi2 : i < 2 := hi
      interval_cases i <;> rfl
  have heq : (cutOff.decoded cutOff.exit.mem).toOption = (cutOff.decoded m).toOption := by
    rw [hzero, hone]
  revert heq
  decide +kernel

end AddressCall

end Clues
