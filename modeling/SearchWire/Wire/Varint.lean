import SearchWire.Bytes

/-!
# Variable-length numbers

A number is written in groups of seven bits, the low-order group first, one group to a byte; the
high bit of a byte says that another byte follows. The written form is the shortest one. Reading
also accepts longer forms, whose leading groups are zero, but takes at most ten bytes, of which the
tenth holds a single bit: that is what a word of 64 bits fills.

`read_write` says that a word is read back from its written form whatever follows it, and
`read_append` that what follows never changes how a form is read.
-/

namespace SearchWire.Varint

/-- The written form of a number. -/
def write (n : Nat) : Bytes :=
  if n < 128 then [UInt8.ofNat n] else UInt8.ofNat (n % 128 + 128) :: write (n / 128)

/-- Read a number of at most `groups + 1` groups, the last of which holds one bit when `groups`
is `0`. -/
def readGroups : (groups : Nat) → Bytes → Option (Nat × Bytes)
  | _, [] => none
  | 0, b :: bs => if b.toNat ≤ 1 then some (b.toNat, bs) else none
  | groups + 1, b :: bs =>
    if b.toNat < 128 then some (b.toNat, bs)
    else (readGroups groups bs).map fun (n, rest) => (b.toNat - 128 + 128 * n, rest)

/-- How many numbers can be read from at most `groups + 1` groups. -/
def capacity : (groups : Nat) → Nat
  | 0 => 2
  | groups + 1 => 128 * capacity groups

/-- Read a word of 64 bits from the front of a byte string. -/
def read (bs : Bytes) : Option (Nat × Bytes) := readGroups 9 bs

theorem readGroups_length {groups : Nat} {bs rest : Bytes} {n : Nat}
    (h : readGroups groups bs = some (n, rest)) : rest.length < bs.length := by
  induction groups generalizing bs n with
  | zero =>
    cases bs with
    | nil => simp [readGroups] at h
    | cons b bs => simp [readGroups] at h; simp [h.2.2]
  | succ groups ih =>
    cases bs with
    | nil => simp [readGroups] at h
    | cons b bs =>
      simp only [readGroups] at h
      split at h
      · simp at h; simp [h.2]
      · simp only [Option.map_eq_some_iff, Prod.mk.injEq] at h
        obtain ⟨⟨n', rest'⟩, hr, _, rfl⟩ := h
        exact Nat.lt_trans (ih hr) (Nat.lt_succ_self _)

/-- Reading a number takes at least one byte. -/
theorem read_length {bs rest : Bytes} {n : Nat} (h : read bs = some (n, rest)) :
    rest.length < bs.length := readGroups_length h

/-- A number within the capacity is read back from its written form, whatever follows it. -/
theorem readGroups_write (groups n : Nat) (rest : Bytes) (h : n < capacity groups) :
    readGroups groups (write n ++ rest) = some (n, rest) := by
  induction groups generalizing n with
  | zero =>
    have hn : n < 2 := h
    rw [write, if_pos (by omega)]
    simp only [List.singleton_append, readGroups, UInt8.toNat_ofNat']
    rw [if_pos (by omega), Nat.mod_eq_of_lt (by omega)]
  | succ groups ih =>
    rw [write]
    split
    · rename_i hn
      simp only [List.singleton_append, readGroups, UInt8.toNat_ofNat']
      rw [if_pos (by omega), Nat.mod_eq_of_lt (by omega)]
    · rename_i hn
      have hdiv : n / 128 < capacity groups := by
        rw [capacity] at h
        omega
      have hb : (UInt8.ofNat (n % 128 + 128)).toNat = n % 128 + 128 := by
        rw [UInt8.toNat_ofNat']; omega
      simp only [List.cons_append, readGroups, hb, ih _ hdiv]
      rw [if_neg (by omega)]
      simp only [Option.map_some, Option.some.injEq, Prod.mk.injEq, and_true]
      omega

/-- Ten groups, the last of them of one bit, hold a word of 64 bits. -/
theorem capacity_nine : capacity 9 = UInt64.size := rfl

/-- A word of 64 bits is read back from its written form, whatever follows it. -/
theorem read_write (n : Nat) (rest : Bytes) (h : n < UInt64.size) :
    read (write n ++ rest) = some (n, rest) :=
  readGroups_write 9 n rest (capacity_nine ▸ h)

theorem readGroups_append {groups : Nat} {bs rest : Bytes} {n : Nat}
    (h : readGroups groups bs = some (n, rest)) (more : Bytes) :
    readGroups groups (bs ++ more) = some (n, rest ++ more) := by
  induction groups generalizing bs n with
  | zero =>
    cases bs with
    | nil => simp [readGroups] at h
    | cons b bs =>
      simp only [readGroups, List.cons_append, Option.ite_none_right_eq_some, Option.some.injEq,
        Prod.mk.injEq] at h ⊢
      obtain ⟨hb, rfl, rfl⟩ := h
      exact ⟨hb, rfl, rfl⟩
  | succ groups ih =>
    cases bs with
    | nil => simp [readGroups] at h
    | cons b bs =>
      simp only [readGroups, List.cons_append] at h ⊢
      split at h
      · rename_i hb
        simp only [Option.some.injEq, Prod.mk.injEq] at h
        rw [if_pos hb, h.1, h.2]
      · rename_i hb
        simp only [Option.map_eq_some_iff, Prod.mk.injEq] at h
        obtain ⟨⟨n', rest'⟩, hr, rfl, rfl⟩ := h
        simp [hb, ih hr]

/-- What follows a number does not change how it is read. -/
theorem read_append {bs rest : Bytes} {n : Nat} (h : read bs = some (n, rest)) (more : Bytes) :
    read (bs ++ more) = some (n, rest ++ more) := readGroups_append h more

end SearchWire.Varint
