import RkaiqToolServer.MessageReads

/-!
# What the packet handlers read of the buffer

Both packet handlers read the size of the packet from the buffer, and the file
transfer the size of the data behind it.  They compare the sizes with bounds,
which the bytes that came can decide before the last byte of a size is there.
-/

namespace RkaiqToolServer

open ByteCodec PrefixReads

/-! ## Numbers that are cut off -/

theorem uint64At_toNat {offset : ℕ} {bytes : List UInt8} :
    (uint64At offset bytes).toNat = leNat (slice offset 8 bytes) := by
  have hlt := leNat_lt (slice offset 8 bytes)
  have hlength : (slice offset 8 bytes).length ≤ 8 := List.length_take_le ..
  have hpow : 256 ^ (slice offset 8 bytes).length ≤ 256 ^ 8 :=
    Nat.pow_le_pow_right (by omega) hlength
  have hword : (256 : ℕ) ^ 8 = 2 ^ 64 := by norm_num
  exact UInt64.toNat_ofNat_of_lt' (by
    rw [UInt64.size]
    omega)

/-- A size that lies inside the chunk. -/
theorem uint64At_completes {size offset : ℕ} {chunk buffer : List UInt8}
    (hcompletes : Completes size chunk buffer)
    (hinside : offset + 8 ≤ chunk.length) :
    uint64At offset buffer = uint64At offset chunk := by
  obtain ⟨rest, rfl⟩ := hcompletes.begins
  rw [uint64At, slice_append_left hinside, uint64At]

/-- The bytes of a size that came fix its value modulo a power of 256. -/
theorem uint64At_mod {size offset : ℕ} {chunk buffer : List UInt8}
    (hcompletes : Completes size chunk buffer)
    (hcut : chunk.length ≤ offset + 8) :
    (uint64At offset buffer).toNat % 256 ^ (chunk.length - offset) =
      leNat (chunk.drop offset) := by
  have hlength : (chunk.drop offset).length = chunk.length - offset :=
    List.length_drop
  have hbegins : chunk.drop offset <+: slice offset 8 buffer := by
    rw [slice, List.prefix_take_iff]
    exact ⟨hcompletes.begins.drop offset, by omega⟩
  obtain ⟨rest, hrest⟩ := hbegins
  have hlow := leNat_lt (chunk.drop offset)
  rw [uint64At_toNat, ← hrest, leNat_append, ← hlength,
    Nat.add_mul_mod_self_left, Nat.mod_eq_of_lt hlow]

/-- Any size with these low bytes can still come. -/
theorem exists_uint64At {size offset value : ℕ} {chunk : List UInt8}
    (hfits : offset + 8 ≤ size) (hcut : chunk.length ≤ offset + 8)
    (hvalue : value < 2 ^ 64)
    (hmod : value % 256 ^ (chunk.length - offset) =
      leNat (chunk.drop offset)) :
    ∃ buffer, Completes size chunk buffer ∧
      (uint64At offset buffer).toNat = value := by
  have hlength : (chunk.drop offset).length = chunk.length - offset :=
    List.length_drop
  have hlow : chunk.drop offset = leBytes (chunk.length - offset) value := by
    refine leNat_injective (by rw [hlength, length_leBytes]) ?_
    rw [leNat_leBytes_mod, hmod]
  have hopen : chunk.drop offset <+: leBytes 8 value := by
    rw [hlow, ← take_leBytes (show chunk.length - offset ≤ 8 by omega) value]
    exact List.take_prefix _ _
  rw [← length_leBytes 8 value] at hfits
  obtain ⟨buffer, hcompletes, hfield⟩ := exists_completes hopen hfits
  refine ⟨buffer, hcompletes, ?_⟩
  have hslice := fieldAt_iff.mp hfield
  rw [length_leBytes] at hslice
  rw [uint64At_toNat, hslice, leNat_leBytes hvalue]

/-- Adding the highest byte changes none of the lower ones. -/
theorem add_highByte_mod {count : ℕ} (hcount : count ≤ 7) (value : ℕ) :
    (value + 2 ^ 56) % 256 ^ count = value % 256 ^ count := by
  have hpow : (2 : ℕ) ^ 56 = 256 ^ count * 256 ^ (7 - count) := by
    rw [← pow_add, Nat.add_sub_cancel' hcount]
    norm_num
  rw [hpow, Nat.add_mul_mod_self_left]

theorem pow_dvd_word {count : ℕ} (hcount : count ≤ 8) :
    256 ^ count ∣ 2 ^ 64 := by
  have hword : (2 : ℕ) ^ 64 = 256 ^ 8 := by norm_num
  rw [hword]
  exact pow_dvd_pow 256 hcount

/-- The low bytes of a size that is not all there. -/
theorem leNat_drop_lt {offset : ℕ} {chunk : List UInt8}
    (hcut : chunk.length ≤ offset + 7) :
    leNat (chunk.drop offset) < 256 ^ (chunk.length - offset) ∧
      leNat (chunk.drop offset) < 2 ^ 56 := by
  have hlow := leNat_lt (chunk.drop offset)
  rw [List.length_drop] at hlow
  have hpow : 256 ^ (chunk.length - offset) ≤ 256 ^ 7 :=
    Nat.pow_le_pow_right (by omega) (by omega)
  have hbytes : (256 : ℕ) ^ 7 = 2 ^ 56 := by norm_num
  omega

/-! ## The size of an offline raw packet -/

/-- The size is in the chunk, or the bytes of it that are there decide that it
is zero or above the bound. -/
def OfflineHeld (chunk : List UInt8) : Prop :=
  16 ≤ chunk.length ∨
    9 ≤ chunk.length ∧
      (leNat (chunk.drop 8) = 0 ∨ 50 < leNat (chunk.drop 8))

instance (chunk : List UInt8) : Decidable (OfflineHeld chunk) :=
  inferInstanceAs (Decidable (_ ∨ _))

theorem offlineRawSize_eq_none_iff (buffer : List UInt8) :
    offlineRawSize buffer = none ↔
      (uint64At 8 buffer).toNat = 0 ∨ 50 < (uint64At 8 buffer).toNat := by
  rw [offlineRawSize]
  split
  case isTrue hrefused =>
    simp only [gt_iff_lt, UInt64.le_iff_toNat_le, UInt64.lt_iff_toNat_lt]
      at hrefused
    refine iff_of_true rfl ?_
    rcases hrefused with hzero | hlarge
    · exact .inl (Nat.le_zero.mp hzero)
    · exact .inr hlarge
  case isFalse haccepted =>
    simp only [gt_iff_lt, UInt64.le_iff_toNat_le, UInt64.lt_iff_toNat_lt,
      not_or, not_le, not_lt] at haccepted
    obtain ⟨hpos, hbound⟩ := haccepted
    refine iff_of_false (by simp) ?_
    rintro (hzero | hlarge)
    · rw [hzero] at hpos
      exact absurd hpos (by decide)
    · exact absurd hlarge (not_lt.mpr hbound)

theorem offlineRawSize_eq_some {buffer : List UInt8}
    (hpos : (uint64At 8 buffer).toNat ≠ 0)
    (hbound : (uint64At 8 buffer).toNat ≤ 50) :
    offlineRawSize buffer = some (uint64At 8 buffer) := by
  have hsome : offlineRawSize buffer ≠ none := by
    rw [Ne, offlineRawSize_eq_none_iff]
    omega
  rw [offlineRawSize] at hsome ⊢
  split at hsome
  · exact absurd rfl hsome
  · rename_i haccepted
    rw [if_neg haccepted]

theorem OfflineHeld.determined {chunk : List UInt8} (h : OfflineHeld chunk) :
    Determined maxPacketSize offlineRawSize chunk := by
  intro first second hfirst hsecond
  by_cases hwhole : 16 ≤ chunk.length
  · rw [offlineRawSize, offlineRawSize, uint64At_completes hfirst hwhole,
      uint64At_completes hsecond hwhole]
  obtain ⟨hlong, hrefused⟩ := h.resolve_left hwhole
  have hnone : ∀ buffer, Completes maxPacketSize chunk buffer →
      offlineRawSize buffer = none := by
    intro buffer hcompletes
    have hmod : (uint64At 8 buffer).toNat % 256 ^ (chunk.length - 8) =
        leNat (chunk.drop 8) := uint64At_mod hcompletes (by omega)
    have hle := Nat.mod_le (uint64At 8 buffer).toNat
      (256 ^ (chunk.length - 8))
    have hpow : 256 ∣ 256 ^ (chunk.length - 8) :=
      dvd_pow_self 256 (by omega)
    have hbyte := Nat.mod_mod_of_dvd (uint64At 8 buffer).toNat hpow
    rw [offlineRawSize_eq_none_iff]
    rcases hrefused with hzero | hlarge
    · rw [hmod, hzero] at hbyte
      omega
    · omega
  rw [hnone first hfirst, hnone second hsecond]

/-- No byte of the size came: two accepted sizes can still come. -/
theorem not_determined_of_offlineSize_missing {chunk : List UInt8}
    (hnone : chunk.length ≤ 8) :
    ¬ Determined maxPacketSize offlineRawSize chunk := by
  intro hdetermined
  have hsize : maxPacketSize = 8192 := rfl
  have hvalue : ∀ value < 2 ^ 64, ∃ buffer,
      Completes maxPacketSize chunk buffer ∧
        (uint64At 8 buffer).toNat = value := by
    intro value hvalue
    refine exists_uint64At (by omega) (by omega) hvalue ?_
    rw [Nat.sub_eq_zero_of_le hnone, pow_zero, Nat.mod_one,
      List.drop_of_length_le hnone]
    rfl
  obtain ⟨first, hfirst, hone⟩ := hvalue 1 (by norm_num)
  obtain ⟨second, hsecond, htwo⟩ := hvalue 2 (by norm_num)
  have hsame := hdetermined first second hfirst hsecond
  rw [offlineRawSize_eq_some (by omega) (by omega),
    offlineRawSize_eq_some (by omega) (by omega)] at hsame
  rw [Option.some.inj hsame, htwo] at hone
  exact absurd hone (by decide)

/-- The part of the size that came is accepted, and with a highest byte it is
refused. -/
theorem not_determined_of_offlineSize_accepted {chunk : List UInt8}
    (hshort : chunk.length < 16) (hpos : leNat (chunk.drop 8) ≠ 0)
    (hbound : leNat (chunk.drop 8) ≤ 50) :
    ¬ Determined maxPacketSize offlineRawSize chunk := by
  intro hdetermined
  have hsize : maxPacketSize = 8192 := rfl
  obtain ⟨hlow, hsmall⟩ := leNat_drop_lt
    (show chunk.length ≤ 8 + 7 by omega)
  obtain ⟨first, hfirst, hvalue⟩ := exists_uint64At
    (show 8 + 8 ≤ maxPacketSize by omega)
    (show chunk.length ≤ 8 + 8 by omega)
    (show leNat (chunk.drop 8) < 2 ^ 64 by omega)
    (Nat.mod_eq_of_lt hlow)
  obtain ⟨second, hsecond, hvalue'⟩ := exists_uint64At
    (show 8 + 8 ≤ maxPacketSize by omega)
    (show chunk.length ≤ 8 + 8 by omega)
    (show leNat (chunk.drop 8) + 2 ^ 56 < 2 ^ 64 by omega)
    (by rw [add_highByte_mod (by omega), Nat.mod_eq_of_lt hlow])
  have hrefused : offlineRawSize second = none := by
    rw [offlineRawSize_eq_none_iff]
    omega
  have hsame := hdetermined first second hfirst hsecond
  rw [offlineRawSize_eq_some (by omega) (by omega), hrefused] at hsame
  exact absurd hsame (by simp)

theorem determined_offlineRawSize_iff (chunk : List UInt8) :
    Determined maxPacketSize offlineRawSize chunk ↔ OfflineHeld chunk := by
  constructor
  · intro hdetermined
    by_contra hopen
    rw [OfflineHeld, not_or] at hopen
    obtain ⟨hshort, hrange⟩ := hopen
    by_cases hnone : chunk.length ≤ 8
    · exact not_determined_of_offlineSize_missing hnone hdetermined
    · have hlong : 9 ≤ chunk.length := by omega
      simp only [hlong, true_and, not_or, not_lt] at hrange
      exact not_determined_of_offlineSize_accepted (not_le.mp hshort)
        hrange.1 hrange.2 hdetermined
  · exact OfflineHeld.determined

/-! ## The sizes of a file packet -/

/-- The chunk holds the header, or the bytes that came rule the sizes out: the
size of the packet is zero, or no size of the data with these low bytes is
close enough to it. -/
def FileHeld (chunk : List UInt8) : Prop :=
  let packetSize := (uint64At 8 chunk).toNat
  424 ≤ chunk.length ∨
    16 ≤ chunk.length ∧
      (packetSize = 0 ∨
        500 < (packetSize + (2 ^ 64 - leNat (chunk.drop 416))) %
          256 ^ (chunk.length - 416))

instance (chunk : List UInt8) : Decidable (FileHeld chunk) :=
  inferInstanceAs (Decidable (_ ∨ _))

theorem sizesPass_iff (packetSize dataSize : UInt64) :
    SizesPass packetSize dataSize ↔
      packetSize.toNat ≠ 0 ∧
        (packetSize.toNat + (2 ^ 64 - dataSize.toNat)) % 2 ^ 64 ≤ 500 := by
  have hzero : (0 : UInt64).toNat = 0 := rfl
  have hbound : (500 : UInt64).toNat = 500 := rfl
  simp only [SizesPass, gt_iff_lt, UInt64.le_iff_toNat_le,
    UInt64.lt_iff_toNat_lt, UInt64.toNat_sub, hzero, hbound, not_or, not_le,
    not_lt, Nat.add_comm (2 ^ 64 - dataSize.toNat), Nat.pos_iff_ne_zero]

theorem fileSizes_eq_some {buffer : List UInt8}
    (hpacket : (uint64At 8 buffer).toNat ≠ 0)
    (hdata : ((uint64At 8 buffer).toNat +
      (2 ^ 64 - (uint64At 416 buffer).toNat)) % 2 ^ 64 ≤ 500) :
    fileSizes buffer = some (uint64At 8 buffer, uint64At 416 buffer) :=
  if_pos ((sizesPass_iff _ _).mpr ⟨hpacket, hdata⟩)

theorem fileSizes_eq_none {buffer : List UInt8}
    (hrefused : (uint64At 8 buffer).toNat = 0 ∨
      500 < ((uint64At 8 buffer).toNat +
        (2 ^ 64 - (uint64At 416 buffer).toNat)) % 2 ^ 64) :
    fileSizes buffer = none := by
  refine if_neg fun hpass => ?_
  obtain ⟨hpacket, hdata⟩ := (sizesPass_iff _ _).mp hpass
  omega

/-- The difference of the sizes, seen through the low bytes of the second. -/
theorem difference_mod (packetSize : ℕ) {dataSize low modulus : ℕ}
    (hmodulus : modulus ∣ 2 ^ 64) (hdata : dataSize < 2 ^ 64)
    (hlow : dataSize % modulus = low) :
    (packetSize + (2 ^ 64 - dataSize)) % 2 ^ 64 % modulus =
      (packetSize + (2 ^ 64 - low)) % modulus := by
  have hsplit := Nat.div_add_mod dataSize modulus
  have hsum : packetSize + (2 ^ 64 - low) =
      packetSize + (2 ^ 64 - dataSize) +
        modulus * (dataSize / modulus) := by omega
  rw [Nat.mod_mod_of_dvd _ hmodulus, hsum, Nat.add_mul_mod_self_left]

/-- A size of the data with the given low bytes whose difference to the size
of the packet is as small as they allow. -/
theorem closest_mod (packetSize : ℕ) {low modulus : ℕ}
    (hmodulus : modulus ∣ 2 ^ 64) (hlow : low < modulus) :
    let gap := (packetSize + (2 ^ 64 - low)) % modulus
    (packetSize + (2 ^ 64 - gap)) % 2 ^ 64 % modulus = low := by
  intro gap
  have hword : modulus ≤ 2 ^ 64 := Nat.le_of_dvd (by norm_num) hmodulus
  have hgap : gap < modulus := Nat.mod_lt _ (by omega)
  have hsplit : modulus * ((packetSize + (2 ^ 64 - low)) / modulus) + gap =
      packetSize + (2 ^ 64 - low) := Nat.div_add_mod _ _
  have hsum : packetSize + (2 ^ 64 - gap) =
      low + modulus * ((packetSize + (2 ^ 64 - low)) / modulus) := by omega
  rw [Nat.mod_mod_of_dvd _ hmodulus, hsum, Nat.add_mul_mod_self_left,
    Nat.mod_eq_of_lt hlow]

theorem FileHeld.determined {chunk : List UInt8} (h : FileHeld chunk) :
    Determined maxPacketSize fileSizes chunk := by
  intro first second hfirst hsecond
  by_cases hheader : 424 ≤ chunk.length
  · rw [fileSizes, fileSizes, uint64At_completes hfirst (by omega),
      uint64At_completes hfirst hheader, uint64At_completes hsecond (by omega),
      uint64At_completes hsecond hheader]
  obtain ⟨hsizes, hrefused⟩ := h.resolve_left hheader
  have hnone : ∀ buffer, Completes maxPacketSize chunk buffer →
      fileSizes buffer = none := by
    intro buffer hcompletes
    apply fileSizes_eq_none
    rw [uint64At_completes hcompletes hsizes]
    refine hrefused.imp_right fun hfar => ?_
    have hdifference := difference_mod (uint64At 8 chunk).toNat
      (pow_dvd_word (show chunk.length - 416 ≤ 8 by omega))
      (uint64At 416 buffer).toNat_lt
      (uint64At_mod hcompletes (by omega))
    rw [← hdifference] at hfar
    exact hfar.trans_le (Nat.mod_le _ _)
  rw [hnone first hfirst, hnone second hsecond]

/-- Two sizes of the data of which only the first is accepted can still
come. -/
theorem not_determined_of_near_far {chunk first second : List UInt8}
    (hfirst : Completes maxPacketSize chunk first)
    (hsecond : Completes maxPacketSize chunk second)
    (hpacket : (uint64At 8 first).toNat ≠ 0)
    (hnear : ((uint64At 8 first).toNat +
      (2 ^ 64 - (uint64At 416 first).toNat)) % 2 ^ 64 ≤ 500)
    (hfar : 500 < ((uint64At 8 second).toNat +
      (2 ^ 64 - (uint64At 416 second).toNat)) % 2 ^ 64) :
    ¬ Determined maxPacketSize fileSizes chunk := by
  intro hdetermined
  have hsame := hdetermined first second hfirst hsecond
  rw [fileSizes_eq_some hpacket hnear, fileSizes_eq_none (.inr hfar)]
    at hsame
  exact absurd hsame (by simp)

/-- The size of the data is cut off where its low bytes are still close to the
size of the packet. -/
theorem not_determined_of_dataSize_cut {chunk : List UInt8}
    (hsizes : 16 ≤ chunk.length) (hshort : chunk.length < 424)
    (hpacket : (uint64At 8 chunk).toNat ≠ 0)
    (hgap : ((uint64At 8 chunk).toNat +
      (2 ^ 64 - leNat (chunk.drop 416))) % 256 ^ (chunk.length - 416) ≤ 500) :
    ¬ Determined maxPacketSize fileSizes chunk := by
  have hsize : maxPacketSize = 8192 := rfl
  obtain ⟨hlow, -⟩ := leNat_drop_lt (show chunk.length ≤ 416 + 7 by omega)
  have hdvd := pow_dvd_word (show chunk.length - 416 ≤ 8 by omega)
  have hlowest := closest_mod (uint64At 8 chunk).toNat hdvd hlow
  have hword := (uint64At 8 chunk).toNat_lt
  generalize (uint64At 8 chunk).toNat + (2 ^ 64 - leNat (chunk.drop 416)) =
    sum at hgap hlowest
  generalize sum % 256 ^ (chunk.length - 416) = gap at hgap hlowest
  dsimp only at hlowest
  obtain ⟨first, hfirst, hnear⟩ := exists_uint64At
    (show 416 + 8 ≤ maxPacketSize by omega)
    (show chunk.length ≤ 416 + 8 by omega)
    (Nat.mod_lt _ (by norm_num)) hlowest
  obtain ⟨second, hsecond, hfar⟩ := exists_uint64At
    (show 416 + 8 ≤ maxPacketSize by omega)
    (show chunk.length ≤ 416 + 8 by omega)
    (Nat.mod_lt (((uint64At 8 chunk).toNat + (2 ^ 64 - gap)) % 2 ^ 64 +
      2 ^ 56) (show 0 < 2 ^ 64 by norm_num))
    (by rw [Nat.mod_mod_of_dvd _ hdvd, add_highByte_mod (by omega),
      hlowest])
  refine not_determined_of_near_far hfirst hsecond ?_ ?_ ?_
  · rwa [uint64At_completes hfirst hsizes]
  · rw [uint64At_completes hfirst hsizes, hnear]
    omega
  · rw [uint64At_completes hsecond hsizes, hfar]
    omega

/-- The size of the packet is cut off, and nothing of the size of the data is
there. -/
theorem not_determined_of_packetSize_cut {chunk : List UInt8}
    (hshort : chunk.length < 16) :
    ¬ Determined maxPacketSize fileSizes chunk := by
  have hsize : maxPacketSize = 8192 := rfl
  obtain ⟨hlow, hsmall⟩ := leNat_drop_lt
    (show chunk.length ≤ 8 + 7 by omega)
  -- a packet size that is not zero, whatever came of it
  obtain ⟨start, hstart, hpacket⟩ := exists_uint64At
    (show 8 + 8 ≤ 416 by omega) (show chunk.length ≤ 8 + 8 by omega)
    (show leNat (chunk.drop 8) + 2 ^ 56 < 2 ^ 64 by omega)
    (by rw [add_highByte_mod (by omega), Nat.mod_eq_of_lt hlow])
  have hlength := hstart.length_eq
  have hdata : ∀ value < 2 ^ 64, ∃ buffer,
      Completes maxPacketSize chunk buffer ∧
        uint64At 8 buffer = uint64At 8 start ∧
        (uint64At 416 buffer).toNat = value := by
    intro value hvalue
    obtain ⟨buffer, hcompletes, hdata⟩ := exists_uint64At
      (show 416 + 8 ≤ maxPacketSize by omega)
      (show start.length ≤ 416 + 8 by omega) hvalue
      (by rw [hlength, Nat.sub_self, pow_zero, Nat.mod_one,
        List.drop_of_length_le hlength.le]
          rfl)
    exact ⟨buffer, hcompletes.of_extended hstart.begins,
      uint64At_completes hcompletes (by omega), hdata⟩
  obtain ⟨first, hfirst, hpacket', hnear⟩ :=
    hdata (uint64At 8 start).toNat (uint64At 8 start).toNat_lt
  obtain ⟨second, hsecond, hpacket'', hfar⟩ :=
    hdata (((uint64At 8 start).toNat + (2 ^ 64 - 501)) % 2 ^ 64)
      (Nat.mod_lt _ (by norm_num))
  refine not_determined_of_near_far hfirst hsecond ?_ ?_ ?_
  · rw [hpacket']
    omega
  · rw [hpacket', hnear]
    omega
  · rw [hpacket'', hfar]
    omega

theorem FileHeld.of_determined {chunk : List UInt8}
    (hdetermined : Determined maxPacketSize fileSizes chunk) :
    FileHeld chunk := by
  by_contra hopen
  simp only [FileHeld, not_or, not_and, not_le, not_lt] at hopen
  obtain ⟨hshort, hclose⟩ := hopen
  by_cases hsizes : 16 ≤ chunk.length
  · obtain ⟨hpacket, hgap⟩ := hclose hsizes
    exact not_determined_of_dataSize_cut hsizes hshort hpacket hgap
      hdetermined
  · exact not_determined_of_packetSize_cut (not_le.mp hsizes) hdetermined

theorem determined_fileSizes_iff (chunk : List UInt8) :
    Determined maxPacketSize fileSizes chunk ↔ FileHeld chunk :=
  ⟨FileHeld.of_determined, FileHeld.determined⟩

end RkaiqToolServer
