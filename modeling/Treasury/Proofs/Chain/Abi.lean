import Mathlib.Algebra.Group.Nat.Defs
import Mathlib.Data.List.Induction
import Mathlib.Data.List.Nodup
import Mathlib.Data.List.Perm.Subperm
import Treasury.Chain.Abi
import Treasury.Proofs.Text.Digits
import Treasury.Proofs.Text.Hex

/-!
# Arguments that are read back

The encoding is a list of slots: where the arrays start, and then the arrays. Whoever reads it back
looks up slots by their places, and finds what was put there (`slotAt?_slots`). So `decodeArrays?`
finds the arrays that were encoded, whatever is in them, as long as the places can be written down.
-/

namespace Treasury.Abi

/-! ## Numbers in bytes -/

theorem ofBigEndian_append (bytes : List UInt8) (b : UInt8) :
    ofBigEndian (bytes ++ [b]) = 256 * ofBigEndian bytes + b.toNat := by
  unfold ofBigEndian
  rw [List.foldl_append]
  rfl

/-- The lowest bytes of a number make its lowest part. -/
theorem ofBigEndian_bigEndian (k n : Nat) : ofBigEndian (bigEndian k n) = n % 256 ^ k := by
  induction k generalizing n with
  | zero =>
    rw [Nat.pow_zero, Nat.mod_one]
    rfl
  | succ k ih =>
    have hpow : 256 ^ (k + 1) = 256 * 256 ^ k := Nat.pow_succ'
    rw [bigEndian, ofBigEndian_append, ih, hpow, Nat.mod_mul, UInt8.toNat_ofNat']
    omega

/-- Bytes are those of the number that they make. -/
theorem bigEndian_ofBigEndian (bytes : List UInt8) :
    bigEndian bytes.length (ofBigEndian bytes) = bytes := by
  induction bytes using List.reverseRecOn with
  | nil => rfl
  | append_singleton bytes b ih =>
    have hlt : b.toNat < 256 := b.toNat_lt
    have hdiv : (256 * ofBigEndian bytes + b.toNat) / 256 = ofBigEndian bytes := by omega
    have hmod : (256 * ofBigEndian bytes + b.toNat) % 256 = b.toNat := by omega
    rw [ofBigEndian_append, List.length_append, List.length_singleton, bigEndian, hdiv, hmod, ih,
      UInt8.ofNat_toNat]

theorem ofBigEndian_lt (bytes : List UInt8) : ofBigEndian bytes < 256 ^ bytes.length := by
  have h := ofBigEndian_bigEndian bytes.length (ofBigEndian bytes)
  rw [bigEndian_ofBigEndian] at h
  rw [h]
  exact Nat.mod_lt _ (Nat.pow_pos (by decide))

/-- There are only so many values of a number of bytes. -/
theorem length_le_of_nodup {n : Nat} {values : List (FixedBytes n)} (h : values.Nodup) :
    values.length ≤ 256 ^ n := by
  have hinjective : Function.Injective fun value : FixedBytes n => ofBigEndian value.bytes := by
    rintro ⟨bytes, rfl⟩ ⟨bytes', hsize⟩ heq
    have hbytes := bigEndian_ofBigEndian bytes'
    rw [hsize, ← show ofBigEndian bytes = ofBigEndian bytes' from heq, bigEndian_ofBigEndian]
      at hbytes
    subst hbytes
    rfl
  have hsub : values.map (fun value => ofBigEndian value.bytes) ⊆ List.range (256 ^ n) := by
    intro m hm
    obtain ⟨value, -, rfl⟩ := List.mem_map.mp hm
    have hlt := ofBigEndian_lt value.bytes
    rw [value.size] at hlt
    exact List.mem_range.2 hlt
  have hle := ((List.Nodup.map hinjective h).subperm hsub).length_le
  rwa [List.length_map, List.length_range] at hle

/-! ## Slots -/

namespace Slot

theorem toNat_ofNat {n : Nat} (h : n < Word256.size) : (ofNat n).toNat = n := by
  unfold toNat ofNat
  rw [ofBigEndian_bigEndian]
  exact Nat.mod_eq_of_lt h

theorem toWord?_ofWord (w : Word256) : (ofWord w).toWord? = some w := by
  unfold toWord? ofWord
  rw [toNat_ofNat w.fits, Word256.ofNat?_toNat]

theorem toAddress?_ofAddress (a : Address) : (ofAddress a).toAddress? = some a := by
  have htake : (ofAddress a).bytes.take 12 = List.replicate 12 0 :=
    List.take_left' List.length_replicate
  have hdrop : (ofAddress a).bytes.drop 12 = a.bytes := List.drop_left' List.length_replicate
  unfold toAddress?
  rw [if_pos htake, hdrop, FixedBytes.ofBytes?_bytes]

end Slot

/-- The bytes of some slots. -/
def slotBytes (slots : List Slot) : List UInt8 := slots.flatMap (·.bytes)

theorem length_slotBytes (slots : List Slot) : (slotBytes slots).length = 32 * slots.length := by
  induction slots with
  | nil => rfl
  | cons slot rest ih =>
    unfold slotBytes at ih ⊢
    rw [List.flatMap_cons, List.length_append, ih, slot.size, List.length_cons]
    omega

/-- **A slot is found at its place.** -/
theorem slotAt?_slots (slots : List Slot) (i : Nat) :
    slotAt? (slotBytes slots) (32 * i) = slots[i]? := by
  unfold slotBytes
  induction slots generalizing i with
  | nil => simp [slotAt?, FixedBytes.ofBytes?]
  | cons slot rest ih =>
    rw [List.flatMap_cons]
    cases i with
    | zero =>
      unfold slotAt?
      rw [Nat.mul_zero, List.drop_zero, List.take_left' slot.size, FixedBytes.ofBytes?_bytes,
        List.getElem?_cons_zero]
    | succ i =>
      have hdrop : (slot.bytes ++ rest.flatMap (·.bytes)).drop (32 * (i + 1)) =
          (rest.flatMap (·.bytes)).drop (32 * i) := by
        have hplace : 32 * (i + 1) = slot.bytes.length + 32 * i := by
          rw [slot.size]
          omega
        rw [hplace, List.drop_length_add_append]
      have hrest := ih i
      unfold slotAt? at hrest ⊢
      rw [hdrop, hrest, List.getElem?_cons_succ]

/-- The bytes tell which slots they are. -/
theorem slotBytes_injective : Function.Injective slotBytes := by
  intro slots slots' h
  refine List.ext_getElem? fun i => ?_
  rw [← slotAt?_slots, ← slotAt?_slots, h]

/-- What is looked up for each place of a list. -/
theorem mapM_range_eq_some {α : Type} {f : Nat → Option α} {as : List α}
    (h : ∀ i (hi : i < as.length), f i = some as[i]) : (List.range as.length).mapM f = some as := by
  induction as generalizing f with
  | nil => rfl
  | cons a as ih =>
    have hfirst := h 0 (Nat.zero_lt_succ _)
    have hrest : (List.range as.length).mapM (fun i => f (i + 1)) = some as :=
      ih fun i hi => h (i + 1) (Nat.succ_lt_succ hi)
    rw [List.length_cons, List.range_succ_eq_map, List.mapM_cons, hfirst, List.mapM_map]
    show (List.mapM (fun i => f (i + 1)) (List.range as.length)).bind _ = _
    rw [hrest]
    rfl

/-- **An array is found where it starts.** -/
theorem arrayAt?_slots {before elements after : List Slot}
    (hsize : elements.length < Word256.size) :
    arrayAt? (slotBytes (before ++ arraySlots elements ++ after)) (32 * before.length) =
      some elements := by
  have hat : ∀ i, (before ++ arraySlots elements ++ after)[before.length + i]? =
      (arraySlots elements ++ after)[i]? := by
    intro i
    rw [List.append_assoc, List.getElem?_append_right (Nat.le_add_right _ _),
      Nat.add_sub_cancel_left]
  have hlength : slotAt? (slotBytes (before ++ arraySlots elements ++ after))
      (32 * before.length) = some (Slot.ofNat elements.length) := by
    rw [slotAt?_slots]
    exact hat 0
  unfold arrayAt?
  rw [hlength, Option.bind_some, Slot.toNat_ofNat hsize, if_neg]
  · refine mapM_range_eq_some fun i hi => ?_
    have hplace : 32 * before.length + 32 * (i + 1) = 32 * (before.length + (i + 1)) := by omega
    have hmem : i + 1 < (arraySlots elements).length := Nat.succ_lt_succ hi
    rw [hplace, slotAt?_slots, hat, List.getElem?_append_left hmem,
      List.getElem?_eq_getElem hmem]
    rfl
  · rw [length_slotBytes, List.length_append, List.length_append]
    simp only [arraySlots, List.length_cons]
    omega

/-! ## Arrays -/

theorem length_positions (start : Nat) (arrays : List (List Slot)) :
    (positions start arrays).length = arrays.length := by
  induction arrays generalizing start with
  | nil => rfl
  | cons array rest ih => rw [positions, List.length_cons, ih, List.length_cons]

/-- An array starts where those before it end. -/
theorem getElem_positions {start : Nat} {arrays : List (List Slot)} {i : Nat}
    (hi : i < (positions start arrays).length) :
    (positions start arrays)[i] =
      start + 32 * ((arrays.take i).flatMap arraySlots).length := by
  induction arrays generalizing start i with
  | nil => exact absurd hi (Nat.not_lt_zero i)
  | cons array rest ih =>
    cases i with
    | zero => rfl
    | succ i =>
      have hi' : i < (positions (start + 32 * (array.length + 1)) rest).length :=
        Nat.lt_of_succ_lt_succ hi
      rw [List.take_succ_cons, List.flatMap_cons, List.length_append]
      refine (ih hi').trans ?_
      simp only [arraySlots, List.length_cons]
      omega

/-- The slots of an encoding: the places of the arrays, and the arrays. -/
def encodedSlots (arrays : List (List Slot)) : List Slot :=
  (positions (32 * arrays.length) arrays).map Slot.ofNat ++ arrays.flatMap arraySlots

theorem encodeArrays_eq (arrays : List (List Slot)) :
    encodeArrays arrays = slotBytes (encodedSlots arrays) := rfl

/-- What stands before an array and after it. -/
theorem encodedSlots_eq {arrays : List (List Slot)} {i : Nat} (hi : i < arrays.length) :
    encodedSlots arrays =
      ((positions (32 * arrays.length) arrays).map Slot.ofNat
          ++ (arrays.take i).flatMap arraySlots)
        ++ arraySlots arrays[i] ++ (arrays.drop (i + 1)).flatMap arraySlots := by
  have hsplit : arrays.flatMap arraySlots = (arrays.take i).flatMap arraySlots
      ++ (arraySlots arrays[i] ++ (arrays.drop (i + 1)).flatMap arraySlots) := by
    rw [← List.flatMap_cons, ← List.flatMap_append, List.getElem_cons_drop,
      List.take_append_drop]
  unfold encodedSlots
  rw [hsplit]
  simp only [List.append_assoc]

/-- **Arrays are found as they were encoded.** -/
theorem decodeArrays?_encodeArrays {arrays : List (List Slot)}
    (hsize : (encodeArrays arrays).length < Word256.size) :
    decodeArrays? arrays.length (encodeArrays arrays) = some arrays := by
  rw [encodeArrays_eq] at hsize ⊢
  rw [length_slotBytes] at hsize
  refine mapM_range_eq_some fun i hi => ?_
  have hposition : i < (positions (32 * arrays.length) arrays).length := by
    rw [length_positions]
    exact hi
  have hstart := getElem_positions hposition
  have hslots := encodedSlots_eq hi
  have hlength := congrArg List.length hslots
  simp only [List.length_append, List.length_map, length_positions, arraySlots,
    List.length_cons] at hlength
  -- the place of the array, which fits as it lies within the encoding
  have hhead : slotAt? (slotBytes (encodedSlots arrays)) (32 * i) =
      some (Slot.ofNat (32 * arrays.length
        + 32 * ((arrays.take i).flatMap arraySlots).length)) := by
    have hmap : i < ((positions (32 * arrays.length) arrays).map Slot.ofNat).length := by
      rw [List.length_map]
      exact hposition
    rw [slotAt?_slots, encodedSlots, List.getElem?_append_left hmap,
      List.getElem?_eq_getElem hmap, List.getElem_map, hstart]
  have hplace : 32 * arrays.length + 32 * ((arrays.take i).flatMap arraySlots).length =
      32 * ((positions (32 * arrays.length) arrays).map Slot.ofNat
        ++ (arrays.take i).flatMap arraySlots).length := by
    rw [List.length_append, List.length_map, length_positions]
    omega
  rw [hhead, Option.bind_some, Slot.toNat_ofNat (by omega), hplace, hslots]
  exact arrayAt?_slots (by omega)

end Treasury.Abi
