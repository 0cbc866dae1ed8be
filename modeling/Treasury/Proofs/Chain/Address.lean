import Treasury.Proofs.Text.Hex

/-!
# Checksummed addresses that are read back

Which letters are capitals depends on the digest of all the digits, but reading does not look at
it: a digit is read alike in either case. So the checksummed form of an address is read as that
address (`ofText?_checksummed`), and no two addresses share one.
-/

namespace Treasury

theorem Keccak.length_digest (bytes : List UInt8) : (digest bytes).length = 32 := by
  unfold digest bytesOfLane
  simp

namespace Hex

/-- Only digits are read. -/
theorem isSome_digit?_of_decode? {cs : List Char} {bytes : List UInt8}
    (h : decode? cs = some bytes) : ∀ c ∈ cs, (digit? c).isSome := by
  induction cs using decode?.induct generalizing bytes with
  | case1 => simp
  | case2 => exact absurd h (by simp [decode?])
  | case3 high low rest _ _ _ hrest hlow hhigh ih =>
    intro c hc
    rcases List.mem_cons.1 hc with rfl | hc
    · rw [hhigh]
      rfl
    rcases List.mem_cons.1 hc with rfl | hc
    · rw [hlow]
      rfl
    · exact ih hrest c hc
  | case4 high low rest hbroken =>
    rw [decode?] at h
    split at h
    · rename_i hhigh hlow hrest
      exact (hbroken _ _ _ hhigh hlow hrest).elim
    · exact absurd h (by simp)

theorem length_encode (bytes : List UInt8) : (encode bytes).length = 2 * bytes.length := by
  induction bytes with
  | nil => rfl
  | cons b rest ih =>
    rw [encode, List.length_cons, List.length_cons, ih, List.length_cons]
    omega

end Hex

namespace Address

theorem digit?_capital {n : Nat} (h : n < 16) :
    Hex.digit? (capital (Hex.digit n)) = some n := by
  have hall : ∀ n < 16, Hex.digit? (capital (Hex.digit n)) = some n := by decide
  exact hall n h

/-- A digit as the checksummed form shows it, by the half-byte of the digest. -/
def shown (c : Char) (half : Nat) : Char := if half < 8 then c else capital c

theorem digit?_shown {n : Nat} (h : n < 16) (half : Nat) :
    Hex.digit? (shown (Hex.digit n) half) = some n := by
  unfold shown
  split
  · exact Hex.digit?_digit h
  · exact digit?_capital h

/-- The bytes are read back, whatever the half-bytes are. -/
theorem decode?_shown (bytes : List UInt8) (halves : List Nat)
    (h : 2 * bytes.length ≤ halves.length) :
    Hex.decode? ((Hex.encode bytes).zipWith shown halves) = some bytes := by
  induction bytes generalizing halves with
  | nil => rfl
  | cons b rest ih =>
    rw [List.length_cons] at h
    obtain ⟨high, others, rfl⟩ := List.exists_cons_of_length_pos (l := halves) (by omega)
    rw [List.length_cons] at h
    obtain ⟨low, others, rfl⟩ := List.exists_cons_of_length_pos (l := others) (by omega)
    rw [List.length_cons] at h
    have hroom : 2 * rest.length ≤ others.length := by omega
    have hlt : b.toNat < 256 := b.toNat_lt
    have hhigh := digit?_shown (n := b.toNat / 16) (by omega) high
    have hlow := digit?_shown (n := b.toNat % 16) (by omega) low
    have hbyte : UInt8.ofNat (16 * (b.toNat / 16) + b.toNat % 16) = b := by
      rw [Nat.div_add_mod, UInt8.ofNat_toNat]
    rw [Hex.encode, List.zipWith_cons_cons, List.zipWith_cons_cons, Hex.decode?, hhigh, hlow,
      ih others hroom]
    dsimp only
    rw [hbyte]

/-- The two half-bytes of each byte of the digest of some digits. -/
def halves (digits : List Char) : List Nat :=
  (Keccak.digest (digits.map fun c => UInt8.ofNat c.toNat)).flatMap fun b =>
    [b.toNat / 16, b.toNat % 16]

theorem toList_checksummed (address : Address) :
    address.checksummed.toList =
      '0' :: 'x' :: (Hex.encode address.bytes).zipWith shown (halves (Hex.encode address.bytes)) :=
  String.toList_ofList

theorem length_halves (digits : List Char) : (halves digits).length = 64 := by
  unfold halves
  rw [List.length_flatMap]
  simp only [List.length_cons, List.length_nil, List.map_const', List.sum_replicate_nat,
    Keccak.length_digest]

/-- The digest has more half-bytes than an address has digits. -/
theorem decode?_checksummed (address : Address) :
    Hex.decode? ((Hex.encode address.bytes).zipWith shown (halves (Hex.encode address.bytes))) =
      some address.bytes := by
  refine decode?_shown _ _ ?_
  rw [length_halves, address.size]
  decide

/-- **A checksummed address is read back.** -/
theorem ofText?_checksummed (address : Address) :
    FixedBytes.ofText? address.checksummed = some address := by
  have hdigits : Hex.ofText? address.checksummed = some address.bytes := by
    unfold Hex.ofText?
    rw [toList_checksummed]
    exact decode?_checksummed address
  unfold FixedBytes.ofText?
  rw [hdigits]
  exact FixedBytes.ofBytes?_bytes address

theorem checksummed_inj {a b : Address} : a.checksummed = b.checksummed ↔ a = b := by
  refine ⟨fun h => ?_, congrArg checksummed⟩
  have hread : some a = some b := by
    rw [← ofText?_checksummed a, h, ofText?_checksummed]
  exact Option.some.inj hread

theorem zipWith_shown {cs : List Char} (h : cs.map capital = cs) (halves : List Nat)
    (hlength : cs.length ≤ halves.length) : cs.zipWith shown halves = cs := by
  induction cs generalizing halves with
  | nil => rfl
  | cons c cs ih =>
    rw [List.length_cons] at hlength
    obtain ⟨half, halves, rfl⟩ := List.exists_cons_of_length_pos (l := halves) (by omega)
    rw [List.length_cons] at hlength
    obtain ⟨hc, hcs⟩ := List.cons.inj h
    have hshown : shown c half = c := by
      unfold shown
      rw [hc, ite_self]
    rw [List.zipWith_cons_cons, hshown, ih hcs halves (by omega)]

/-- Where no digit is a letter, the digest does not matter. -/
theorem checksummed_eq_toText {address : Address}
    (h : (Hex.encode address.bytes).map capital = Hex.encode address.bytes) :
    address.checksummed = address.toText := by
  rw [← String.toList_inj, toList_checksummed, zipWith_shown h]
  · exact String.toList_ofList.symm
  · rw [length_halves, Hex.length_encode, address.size]
    decide

/-- An address is shown in one line. -/
theorem break_not_mem_checksummed (address : Address) : '\n' ∉ address.checksummed.toList := by
  intro hmem
  rw [toList_checksummed] at hmem
  have hdigits := Hex.isSome_digit?_of_decode? (decode?_checksummed address)
  rcases List.mem_cons.1 hmem with h | h
  · exact absurd h (by decide)
  rcases List.mem_cons.1 h with h | h
  · exact absurd h (by decide)
  · exact absurd (hdigits _ h) (by decide)

end Address

end Treasury
