import Mathlib.Data.List.TakeWhile
import Mathlib.Tactic.Ring

set_option autoImplicit false

/-! # Byte buffers, C strings and little-endian numbers

A buffer `CBuf n` is a byte list of exactly `n` bytes, so a write can never change its size. A C
string is what stands before the first NUL byte (`cstr`); a buffer that holds a NUL somewhere is
`Terminated`. `leBytes` and `leNat` are the little-endian digits of a number and their value. -/

/-! ## C strings -/

/-- The C string at the start of `bs`: the bytes before the first NUL. -/
def cstr (bs : List UInt8) : List UInt8 := bs.takeWhile (· ≠ 0)

theorem zero_notMem_cstr (bs : List UInt8) : (0 : UInt8) ∉ cstr bs := by
  intro h
  simpa using List.mem_takeWhile_imp h

theorem cstr_of_notMem {s : List UInt8} (hs : 0 ∉ s) : cstr s = s := by
  unfold cstr
  rw [List.takeWhile_eq_self_iff]
  intro b hb
  simpa using fun h : b = 0 => hs (h ▸ hb)

/-- What follows the first NUL does not matter. -/
theorem cstr_append_zero (s rest : List UInt8) : cstr (s ++ 0 :: rest) = cstr s := by
  induction s with
  | nil => simp [cstr]
  | cons b s ih =>
      by_cases hb : b = 0
      · simp [cstr, hb]
      · simpa [cstr, hb] using ih

theorem cstr_length_le (bs : List UInt8) : (cstr bs).length ≤ bs.length :=
  (List.takeWhile_prefix _).length_le

/-- A byte list holds a NUL exactly when its C string is shorter than the list. -/
theorem zero_mem_iff_cstr_length_lt (bs : List UInt8) :
    (0 : UInt8) ∈ bs ↔ (cstr bs).length < bs.length := by
  constructor
  · intro h
    refine lt_of_le_of_ne (cstr_length_le bs) ?_
    intro hlen
    have heq : cstr bs = bs := (List.takeWhile_prefix _).eq_of_length hlen
    rw [← heq] at h
    exact zero_notMem_cstr bs h
  · intro h
    by_contra hnot
    rw [cstr_of_notMem hnot] at h
    exact lt_irrefl _ h

/-- A C string: bytes without a NUL (the terminator is not part of it). -/
structure CString where
  bytes : List UInt8
  noNul : (0 : UInt8) ∉ bytes
  deriving DecidableEq

/-- The bytes of an ASCII text. -/
def ascii (s : String) : List UInt8 := s.toList.map fun c => UInt8.ofNat c.toNat

/-! ## Buffers -/

/-- A buffer of `n` bytes. -/
structure CBuf (n : Nat) where
  bytes : List UInt8
  size_eq : bytes.length = n
  deriving DecidableEq

namespace CBuf

variable {n : Nat}

/-- The zero-filled buffer. -/
def zero (n : Nat) : CBuf n := ⟨List.replicate n 0, List.length_replicate⟩

/-- Overwrite the start of the buffer; what does not fit is dropped, what is not reached stays. -/
def blit (dst : CBuf n) (src : List UInt8) : CBuf n :=
  ⟨src.take n ++ dst.bytes.drop src.length, by
    rw [List.length_append, List.length_take, List.length_drop, dst.size_eq]; omega⟩

/-- Copy a C string with its terminator. -/
def strcpy (dst : CBuf n) (src : List UInt8) : CBuf n := dst.blit (src ++ [0])

/-- The C string in the buffer. -/
def str (b : CBuf n) : List UInt8 := cstr b.bytes

/-- Copy at most `k` bytes of the C string at `src`, and fill up with zeros to `k` bytes. -/
def strncpy (dst : CBuf n) (src : List UInt8) (k : Nat) : CBuf n :=
  dst.blit ((cstr src).take k ++ List.replicate (k - (cstr src).length) 0)

/-- Append at most `k` bytes of the C string at `src` to the one in the buffer, and a NUL. -/
def strncat (dst : CBuf n) (src : List UInt8) (k : Nat) : CBuf n :=
  dst.strcpy (dst.str ++ (cstr src).take k)

/-- Some byte of the buffer is the NUL that ends its string. -/
def Terminated (b : CBuf n) : Prop := (0 : UInt8) ∈ b.bytes

instance (b : CBuf n) : Decidable b.Terminated := inferInstanceAs (Decidable (_ ∈ _))

theorem terminated_iff (b : CBuf n) : b.Terminated ↔ b.str.length < n := by
  have h := zero_mem_iff_cstr_length_lt b.bytes
  rwa [b.size_eq] at h

theorem zero_terminated (hn : 0 < n) : (zero n).Terminated := by
  show (0 : UInt8) ∈ List.replicate n 0
  exact List.mem_replicate.2 ⟨by omega, rfl⟩

theorem blit_bytes (dst : CBuf n) {src : List UInt8} (h : src.length ≤ n) :
    (dst.blit src).bytes = src ++ dst.bytes.drop src.length := by
  show src.take n ++ dst.bytes.drop src.length = _
  rw [List.take_of_length_le h]

/-- Writing the same bytes twice is writing them once. -/
theorem blit_blit (dst : CBuf n) (src : List UInt8) : (dst.blit src).blit src = dst.blit src := by
  have hn := dst.size_eq
  have hdrop : (src.take n ++ dst.bytes.drop src.length).drop src.length
      = dst.bytes.drop src.length := by
    by_cases h : src.length ≤ n
    · rw [List.take_of_length_le h, List.drop_left]
    · rw [List.drop_of_length_le (by simp; omega), List.drop_of_length_le (by omega)]
  simp only [blit, hdrop]

/-- Bytes that leave room for a NUL, or bring one along, leave the buffer terminated. -/
theorem blit_terminated {src : List UInt8} (h : src.length < n ∨ (0 : UInt8) ∈ src.take n) :
    ((zero n).blit src).Terminated := by
  rcases h with h | h
  · unfold Terminated
    rw [blit_bytes _ h.le]
    refine List.mem_append_right _ ?_
    show (0 : UInt8) ∈ (List.replicate n 0).drop src.length
    rw [List.drop_replicate]
    exact List.mem_replicate.2 ⟨by omega, rfl⟩
  · exact List.mem_append_left _ h

theorem strcpy_bytes (dst : CBuf n) {src : List UInt8} (h : src.length < n) :
    (dst.strcpy src).bytes = src ++ 0 :: dst.bytes.drop (src.length + 1) := by
  have hlen : (src ++ [0]).length ≤ n := by
    rw [List.length_append, List.length_singleton]
    exact h
  simpa [strcpy] using dst.blit_bytes hlen

/-- A string that fits with its terminator is what the buffer then holds. -/
theorem str_strcpy (dst : CBuf n) {src : List UInt8} (h : src.length < n) (hs : 0 ∉ src) :
    (dst.strcpy src).str = src := by
  unfold str
  rw [dst.strcpy_bytes h, cstr_append_zero, cstr_of_notMem hs]

theorem strcpy_terminated (dst : CBuf n) {src : List UInt8} (h : src.length < n) :
    (dst.strcpy src).Terminated := by
  unfold Terminated
  rw [dst.strcpy_bytes h]
  simp

/-- A string that fills the buffer at most is copied whole, though it may lose its terminator. -/
theorem str_strncpy (dst : CBuf n) {src : List UInt8} (h : (cstr src).length ≤ n) :
    (dst.strncpy src n).str = cstr src := by
  have hlen : (cstr src ++ List.replicate (n - (cstr src).length) 0).length = n := by
    rw [List.length_append, List.length_replicate]
    omega
  have hbytes : (dst.strncpy src n).bytes
      = cstr src ++ List.replicate (n - (cstr src).length) 0 := by
    unfold strncpy
    rw [List.take_of_length_le h, blit_bytes _ hlen.le, hlen,
      List.drop_of_length_le dst.size_eq.le, List.append_nil]
  unfold str
  rw [hbytes]
  cases n - (cstr src).length with
  | zero => rw [List.replicate_zero, List.append_nil, cstr_of_notMem (zero_notMem_cstr _)]
  | succ k => rw [List.replicate_succ, cstr_append_zero, cstr_of_notMem (zero_notMem_cstr _)]

/-- Appending what there is room for. -/
theorem str_strncat (dst : CBuf n) (src : List UInt8) {k : Nat} (h : dst.str.length + k < n) :
    (dst.strncat src k).str = dst.str ++ (cstr src).take k := by
  refine str_strcpy _ ?_ ?_
  · rw [List.length_append, List.length_take]
    omega
  · intro hmem
    rcases List.mem_append.1 hmem with hdst | hsrc
    · exact zero_notMem_cstr _ hdst
    · exact zero_notMem_cstr _ (List.mem_of_mem_take hsrc)

theorem strncat_terminated (dst : CBuf n) (src : List UInt8) {k : Nat}
    (h : dst.str.length + k < n) : (dst.strncat src k).Terminated := by
  refine strcpy_terminated _ ?_
  rw [List.length_append, List.length_take]
  omega

end CBuf

/-! ## Little-endian numbers -/

/-- The `n` low base-256 digits of `v`, least significant first. -/
def leBytes : Nat → Nat → List UInt8
  | 0, _ => []
  | n + 1, v => UInt8.ofNat v :: leBytes n (v / 256)

/-- The number whose little-endian digits are `bs`. -/
def leNat : List UInt8 → Nat
  | [] => 0
  | b :: bs => b.toNat + 256 * leNat bs

theorem length_leBytes (n v : Nat) : (leBytes n v).length = n := by
  induction n generalizing v with
  | zero => rfl
  | succ n ih => rw [leBytes, List.length_cons, ih]

theorem leNat_leBytes (n v : Nat) : leNat (leBytes n v) = v % 256 ^ n := by
  induction n generalizing v with
  | zero => simp [leBytes, leNat, Nat.mod_one]
  | succ n ih =>
      have hlow : (UInt8.ofNat v).toNat = v % 256 := by simp
      rw [leBytes, leNat, ih, hlow, pow_succ, Nat.mul_comm (256 ^ n) 256, Nat.mod_mul]

theorem leNat_lt (bs : List UInt8) : leNat bs < 256 ^ bs.length := by
  induction bs with
  | nil => simp [leNat]
  | cons b bs ih =>
      have hb := b.toNat_lt
      rw [leNat, List.length_cons, pow_succ]
      omega

theorem leBytes_leNat (bs : List UInt8) : leBytes bs.length (leNat bs) = bs := by
  induction bs with
  | nil => rfl
  | cons b bs ih =>
      have hb := b.toNat_lt
      have hlow : UInt8.ofNat (b.toNat + 256 * leNat bs) = b := by
        apply UInt8.toNat_inj.1
        rw [UInt8.toNat_ofNat']
        omega
      have hhigh : (b.toNat + 256 * leNat bs) / 256 = leNat bs := by omega
      rw [leNat, List.length_cons, leBytes, hlow, hhigh, ih]

/-- Fewer than `2 ^ w` fits in `w` bits, so the low bytes determine the number. -/
theorem leNat_leBytes_of_lt {n v : Nat} (h : v < 256 ^ n) : leNat (leBytes n v) = v := by
  rw [leNat_leBytes, Nat.mod_eq_of_lt h]

/-- The two bytes of an `int16_t` in memory. -/
def int16Bytes (v : Int16) : List UInt8 := leBytes 2 v.toBitVec.toNat

/-- `*(int16_t *)p`. -/
def readInt16 (p : List UInt8) : Int16 := Int16.ofBitVec (BitVec.ofNat 16 (leNat (p.take 2)))

/-- The four bytes of an `int32_t` in memory. -/
def int32Bytes (v : Int32) : List UInt8 := leBytes 4 v.toBitVec.toNat

/-- `*(int32_t *)p`. -/
def readInt32 (p : List UInt8) : Int32 := Int32.ofBitVec (BitVec.ofNat 32 (leNat (p.take 4)))

@[simp] theorem length_int16Bytes (v : Int16) : (int16Bytes v).length = 2 := length_leBytes 2 _

@[simp] theorem length_int32Bytes (v : Int32) : (int32Bytes v).length = 4 := length_leBytes 4 _

/-- Reading back what was written, whatever follows it in memory. -/
theorem readInt16_int16Bytes (v : Int16) (rest : List UInt8) :
    readInt16 (int16Bytes v ++ rest) = v := by
  have htake : (int16Bytes v ++ rest).take 2 = int16Bytes v :=
    List.take_left' (length_int16Bytes v)
  have hlt : v.toBitVec.toNat < 256 ^ 2 := v.toBitVec.isLt
  rw [readInt16, htake, int16Bytes, leNat_leBytes_of_lt hlt, BitVec.ofNat_toNat,
    BitVec.setWidth_eq]
  rfl

/-- Writing back what was read. -/
theorem int16Bytes_readInt16 {bs : List UInt8} (h : bs.length = 2) (rest : List UInt8) :
    int16Bytes (readInt16 (bs ++ rest)) = bs := by
  have hlt : leNat bs < 2 ^ 16 := by
    have := leNat_lt bs
    rwa [h] at this
  have hnat : (readInt16 (bs ++ rest)).toBitVec.toNat = leNat bs := by
    rw [readInt16, List.take_left' h]
    exact (BitVec.toNat_ofNat _ _).trans (Nat.mod_eq_of_lt hlt)
  rw [int16Bytes, hnat, ← h, leBytes_leNat]

theorem readInt32_int32Bytes (v : Int32) (rest : List UInt8) :
    readInt32 (int32Bytes v ++ rest) = v := by
  have htake : (int32Bytes v ++ rest).take 4 = int32Bytes v :=
    List.take_left' (length_int32Bytes v)
  have hlt : v.toBitVec.toNat < 256 ^ 4 := v.toBitVec.isLt
  rw [readInt32, htake, int32Bytes, leNat_leBytes_of_lt hlt, BitVec.ofNat_toNat,
    BitVec.setWidth_eq]
  rfl

theorem int32Bytes_readInt32 {bs : List UInt8} (h : bs.length = 4) (rest : List UInt8) :
    int32Bytes (readInt32 (bs ++ rest)) = bs := by
  have hlt : leNat bs < 2 ^ 32 := by
    have := leNat_lt bs
    rwa [h] at this
  have hnat : (readInt32 (bs ++ rest)).toBitVec.toNat = leNat bs := by
    rw [readInt32, List.take_left' h]
    exact (BitVec.toNat_ofNat _ _).trans (Nat.mod_eq_of_lt hlt)
  rw [int32Bytes, hnat, ← h, leBytes_leNat]

/-- Narrowing to `int16_t` keeps a non-negative value exactly up to 32767. -/
theorem toInt_toInt16_iff {v : Int32} (h : 0 ≤ v.toInt) :
    v.toInt16.toInt = v.toInt ↔ v.toInt ≤ 32767 := by
  rw [Int32.toInt_toInt16]
  constructor
  · intro heq
    have := Int.bmod_lt (x := v.toInt) (m := 2 ^ 16) (by decide)
    omega
  · intro hle
    exact Int.bmod_eq_of_le (by omega) (by omega)

example : readInt16 (int16Bytes (-2) ++ [7]) = -2 := by decide
