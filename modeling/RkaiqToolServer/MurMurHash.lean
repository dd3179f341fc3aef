import RkaiqToolServer.ByteCodec
import RkaiqToolServer.WordMixing

/-!
# The hash of a transferred file

`MurMurHash` reads its input four bytes at a time and mixes every word into
its state, then mixes in what is left.  Its length is an `int`, so it covers
the bytes below that length and no others.  Every mixing step is injective in
the state and in the word, and therefore a change inside one word of the
covered bytes always changes the hash.
-/

namespace RkaiqToolServer

open ByteCodec
open WordMixing

def murMurM : BitVec 32 := 0x5bd1e995#32

/-- `k *= m; k ^= k >> r; k *= m; h *= m; h ^= k;` -/
def mixWord (h k : BitVec 32) : BitVec 32 :=
  let k := k * murMurM
  let k := k ^^^ (k >>> 24)
  let k := k * murMurM
  (h * murMurM) ^^^ k

def byteWord (byte : UInt8) : BitVec 32 := byte.toBitVec.setWidth 32

/-- The `switch` over the number of bytes that are left. -/
def mixTail (h : BitVec 32) : List UInt8 → BitVec 32
  | [] => h
  | [d0] => (h ^^^ byteWord d0) * murMurM
  | [d0, d1] => ((h ^^^ (byteWord d1 <<< 8)) ^^^ byteWord d0) * murMurM
  | d0 :: d1 :: d2 :: _ =>
      (((h ^^^ (byteWord d2 <<< 16)) ^^^ (byteWord d1 <<< 8)) ^^^
        byteWord d0) * murMurM

/-- `*(unsigned int*)data`. -/
def dataWord (bytes : List UInt8) : BitVec 32 :=
  BitVec.ofNat 32 (leNat bytes)

theorem dataWord_leBytes (word : BitVec 32) :
    dataWord (leBytes 4 word.toNat) = word := by
  have hword : word.toNat < 256 ^ 4 := word.isLt
  rw [dataWord, leNat_leBytes hword, BitVec.ofNat_toNat]
  simp

def mixData : BitVec 32 → List UInt8 → BitVec 32
  | h, d0 :: d1 :: d2 :: d3 :: rest =>
      mixData (mixWord h (dataWord [d0, d1, d2, d3])) rest
  | h, tail => mixTail h tail

def mixFinal (h : BitVec 32) : BitVec 32 :=
  let h := h ^^^ (h >>> 13)
  let h := h * murMurM
  h ^^^ (h >>> 15)

/-- `MurMurHash(key, len)`; a negative length leaves the loop and the `switch`
without effect. -/
def murMurHash (key : List UInt8) (len : ℤ) : BitVec 32 :=
  mixFinal (mixData (97#32 ^^^ BitVec.ofInt 32 len) (key.take len.toNat))

/-! ## Every step is injective -/

theorem mul_murMurM_injective :
    Function.Injective fun word : BitVec 32 => word * murMurM := by
  have hinverse : murMurM * 0xe59b19bd#32 = 1 := by decide
  exact mul_injective hinverse

theorem mixWord_state_injective (k : BitVec 32) :
    Function.Injective fun h => mixWord h k :=
  (xor_left_injective _).comp mul_murMurM_injective

theorem mixWord_word_injective (h : BitVec 32) :
    Function.Injective (mixWord h) := by
  have hshift : Function.Injective
      fun word : BitVec 32 => word ^^^ (word >>> 24) :=
    xor_ushiftRight_injective (by decide)
  exact (xor_right_injective _).comp
    (mul_murMurM_injective.comp (hshift.comp mul_murMurM_injective))

theorem mixFinal_injective : Function.Injective mixFinal := by
  have hfirst : Function.Injective
      fun word : BitVec 32 => word ^^^ (word >>> 13) :=
    xor_ushiftRight_injective (by decide)
  have hlast : Function.Injective
      fun word : BitVec 32 => word ^^^ (word >>> 15) :=
    xor_ushiftRight_injective (by decide)
  exact hlast.comp (mul_murMurM_injective.comp hfirst)

theorem mixTail_state_injective (tail : List UInt8) :
    Function.Injective fun h => mixTail h tail := by
  match tail with
  | [] => exact Function.injective_id
  | [d0] => exact mul_murMurM_injective.comp (xor_left_injective _)
  | [d0, d1] =>
      exact mul_murMurM_injective.comp
        ((xor_left_injective _).comp (xor_left_injective _))
  | d0 :: d1 :: d2 :: _ =>
      exact mul_murMurM_injective.comp
        ((xor_left_injective _).comp
          ((xor_left_injective _).comp (xor_left_injective _)))

theorem mixData_short (h : BitVec 32) {data : List UInt8}
    (hshort : data.length < 4) : mixData h data = mixTail h data := by
  match data with
  | [] | [_] | [_, _] | [_, _, _] => rfl
  | _ :: _ :: _ :: _ :: _ =>
      simp only [List.length_cons] at hshort
      omega

theorem mixData_state_injective :
    ∀ data : List UInt8, Function.Injective fun h => mixData h data
  | [] => mixTail_state_injective []
  | [d0] => mixTail_state_injective [d0]
  | [d0, d1] => mixTail_state_injective [d0, d1]
  | [d0, d1, d2] => mixTail_state_injective [d0, d1, d2]
  | _ :: _ :: _ :: _ :: rest =>
      (mixData_state_injective rest).comp (mixWord_state_injective _)

theorem byteWord_bit (byte : UInt8) (i : ℕ) :
    (byteWord byte).getLsbD i = byte.toBitVec.getLsbD i := by
  rw [byteWord, BitVec.getLsbD_setWidth]
  by_cases hi : i < 32
  · simp [hi]
  · rw [BitVec.getLsbD_of_ge byte.toBitVec i (by omega)]
    simp

theorem byte_ext {first second : UInt8}
    (h : ∀ i < 8, first.toBitVec.getLsbD i = second.toBitVec.getLsbD i) :
    first = second := by
  apply UInt8.toBitVec_inj.mp
  exact BitVec.eq_of_getLsbD_eq h

theorem mixTail_injective (h : BitVec 32) {first second : List UInt8}
    (hshort : first.length < 4) (hlength : first.length = second.length)
    (hmix : mixTail h first = mixTail h second) : first = second := by
  match first, second with
  | [], [] => rfl
  | [a], [b] =>
      have hxor := xor_right_injective h (mul_murMurM_injective hmix)
      have hbyte : a = b := by
        apply byte_ext
        intro i hi
        have hbit := congrArg (fun word => word.getLsbD i) hxor
        simpa [byteWord_bit] using hbit
      rw [hbyte]
  | [a, a'], [b, b'] =>
      have hmul := mul_murMurM_injective hmix
      simp only [BitVec.xor_assoc] at hmul
      have hxor := xor_right_injective h hmul
      have hlow : a = b := by
        apply byte_ext
        intro i hi
        have hbit := congrArg (fun word => word.getLsbD i) hxor
        simpa [byteWord_bit, hi] using hbit
      subst b
      have hhigh : a' = b' := by
        apply byte_ext
        intro i hi
        have hbit := congrArg (fun word => word.getLsbD (8 + i)) hxor
        have hrange : 8 + i < 32 := by omega
        simp only [BitVec.getLsbD_xor, BitVec.getLsbD_shiftLeft,
          byteWord_bit] at hbit
        simpa [hrange] using hbit
      rw [hhigh]
  | [a, a', a''], [b, b', b''] =>
      have hmul := mul_murMurM_injective hmix
      simp only [BitVec.xor_assoc] at hmul
      have hxor := xor_right_injective h hmul
      have hlow : a = b := by
        apply byte_ext
        intro i hi
        have hbit := congrArg (fun word => word.getLsbD i) hxor
        have hupper : i < 16 := by omega
        simpa [byteWord_bit, hi, hupper] using hbit
      subst b
      -- the three bytes occupy disjoint bits
      have hmiddle : a' = b' := by
        apply byte_ext
        intro i hi
        have hbit := congrArg (fun word => word.getLsbD (8 + i)) hxor
        have hrange : 8 + i < 32 := by omega
        have hupper : 8 + i < 16 := by omega
        simp only [BitVec.getLsbD_xor, BitVec.getLsbD_shiftLeft,
          byteWord_bit] at hbit
        simpa [hrange, hupper] using hbit
      subst b'
      have hhigh : a'' = b'' := by
        apply byte_ext
        intro i hi
        have hbit := congrArg (fun word => word.getLsbD (16 + i)) hxor
        have hrange : 16 + i < 32 := by omega
        simp only [BitVec.getLsbD_xor, BitVec.getLsbD_shiftLeft,
          byteWord_bit] at hbit
        simpa [hrange] using hbit
      rw [hhigh]

theorem dataWord_injective {first second : List UInt8}
    (hfour : first.length = 4) (hlength : first.length = second.length)
    (h : dataWord first = dataWord second) : first = second := by
  have hfirst := leNat_lt first
  have hsecond := leNat_lt second
  rw [← hlength, hfour] at hsecond
  rw [hfour] at hfirst
  have hnat := congrArg BitVec.toNat h
  simp only [dataWord, BitVec.toNat_ofNat] at hnat
  rw [Nat.mod_eq_of_lt (by simpa using hfirst),
    Nat.mod_eq_of_lt (by simpa using hsecond)] at hnat
  exact leNat_injective hlength hnat

/-- Data that differ inside one aligned block only, a whole word or the bytes
after the last word, are mixed to different states. -/
theorem mixData_block_injective {block other after : List UInt8}
    (hlength : block.length = other.length)
    (hblock : block.length = 4 ∨ block.length < 4 ∧ after = []) :
    ∀ (before : List UInt8) (h : BitVec 32), 4 ∣ before.length →
      mixData h (before ++ (block ++ after)) =
        mixData h (before ++ (other ++ after)) → block = other
  | [], h, _, hmix => by
      rcases hblock with hfour | ⟨hshort, hafter⟩
      · obtain ⟨d0, d1, d2, d3, rfl⟩ := List.length_eq_four.mp hfour
        obtain ⟨e0, e1, e2, e3, rfl⟩ :=
          List.length_eq_four.mp (hlength.symm.trans hfour)
        have hword := mixWord_word_injective h
          (mixData_state_injective after hmix)
        exact dataWord_injective hfour hlength hword
      · subst after
        rw [List.nil_append, List.nil_append, List.append_nil,
          List.append_nil, mixData_short h hshort,
          mixData_short h (hlength ▸ hshort)] at hmix
        exact mixTail_injective h hshort hlength hmix
  | [_], _, hdvd, _ => by simp at hdvd
  | [_, _], _, hdvd, _ => by simp at hdvd
  | [_, _, _], _, hdvd, _ => by simp at hdvd
  | d0 :: d1 :: d2 :: d3 :: rest, h, hdvd, hmix => by
      have hrest : 4 ∣ rest.length := by
        simp only [List.length_cons] at hdvd
        omega
      exact mixData_block_injective hlength hblock rest
        (mixWord h (dataWord [d0, d1, d2, d3])) hrest hmix

/-! ## What the hash covers -/

theorem murMurHash_eq_of_take
    {first second : List UInt8} {len : ℤ}
    (h : first.take len.toNat = second.take len.toNat) :
    murMurHash first len = murMurHash second len := by
  rw [murMurHash, murMurHash, h]

/-- Equal hashes over their whole length leave no room for a change inside one
aligned block. -/
theorem murMurHash_block_injective
    {before block other after : List UInt8} {len : ℤ}
    (hdvd : 4 ∣ before.length) (hlength : block.length = other.length)
    (hblock : block.length = 4 ∨ block.length < 4 ∧ after = [])
    (hcovered : len = (before ++ (block ++ after)).length)
    (h : murMurHash (before ++ (block ++ after)) len =
      murMurHash (before ++ (other ++ after)) len) :
    block = other := by
  have hother : len = (before ++ (other ++ after)).length := by
    simpa [← hlength] using hcovered
  rw [murMurHash, murMurHash, List.take_of_length_le (by omega),
    List.take_of_length_le (by omega)] at h
  exact mixData_block_injective hlength hblock before _ hdvd
    (mixFinal_injective h)

/-! ## A corrupted word -/

/-- The strings agree outside one aligned block of four bytes; the bytes after
the last whole word are such a block, cut short by the end. -/
def DifferInOneBlock (first second : List UInt8) : Prop :=
  ∃ block, first.take (4 * block) = second.take (4 * block) ∧
    first.drop (4 * block + 4) = second.drop (4 * block + 4)

theorem murMurHash_ne_of_differInOneBlock {first second : List UInt8}
    (hlength : first.length = second.length)
    (hdiffer : DifferInOneBlock first second) (hne : first ≠ second) :
    murMurHash first first.length ≠ murMurHash second second.length := by
  obtain ⟨block, hbefore, hafter⟩ := hdiffer
  have hfirst := eq_take_append_slice_append_drop (4 * block) 4 first
  have hsecond := eq_take_append_slice_append_drop (4 * block) 4 second
  rw [← hbefore, ← hafter] at hsecond
  have hwords : (slice (4 * block) 4 first).length =
      (slice (4 * block) 4 second).length := by
    simp only [slice, List.length_take, List.length_drop, hlength]
  intro hhash
  have hinside : 4 * block < first.length := by
    by_contra hend
    rw [List.take_of_length_le (by omega),
      List.take_of_length_le (by omega)] at hbefore
    exact hne hbefore
  have hdvd : 4 ∣ (first.take (4 * block)).length := by
    rw [List.length_take, min_eq_left (by omega)]
    exact Dvd.intro block rfl
  have hblock : (slice (4 * block) 4 first).length = 4 ∨
      (slice (4 * block) 4 first).length < 4 ∧
        first.drop (4 * block + 4) = [] := by
    simp only [slice, List.length_take, List.length_drop,
      List.drop_eq_nil_iff]
    omega
  rw [← hlength, hsecond] at hhash
  nth_rewrite 1 [hfirst] at hhash
  have hcovered : (first.length : ℤ) = (first.take (4 * block) ++
      (slice (4 * block) 4 first ++
        first.drop (4 * block + 4))).length := by
    rw [← hfirst]
  have hword := murMurHash_block_injective hdvd hwords hblock hcovered hhash
  apply hne
  rw [hfirst, hsecond, hword]

/-- One byte of the second word of eleven bytes is changed. -/
theorem murMurHash_ne_of_changed_word :
    murMurHash [1, 2, 3, 4, 5, 6, 7, 8, 9, 10, 11] 11 ≠
      murMurHash [1, 2, 3, 4, 5, 0, 7, 8, 9, 10, 11] 11 :=
  murMurHash_ne_of_differInOneBlock (by decide) ⟨1, by decide⟩ (by decide)

end RkaiqToolServer
