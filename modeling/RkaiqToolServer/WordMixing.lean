import Mathlib.Tactic

/-!
# Mixing steps on machine words that lose nothing

Multiplicative hashes mix a word by multiplying it with an odd constant, by
xoring it with its own right shift and by xoring a second word into it.  Each
of these is injective on words of any width, so a composition of them maps
different words to different words.
-/

namespace WordMixing

variable {w : ℕ}

theorem mul_injective {factor inverse : BitVec w}
    (hinverse : factor * inverse = 1) :
    Function.Injective fun word : BitVec w => word * factor := by
  intro first second h
  have hmul : first * factor * inverse = second * factor * inverse :=
    congrArg (· * inverse) h
  simpa [BitVec.mul_assoc, hinverse] using hmul

theorem xor_left_injective (mask : BitVec w) :
    Function.Injective fun word : BitVec w => word ^^^ mask := by
  intro first second h
  exact (BitVec.xor_left_inj mask).mp h

theorem xor_right_injective (mask : BitVec w) :
    Function.Injective fun word : BitVec w => mask ^^^ word := by
  intro first second h
  exact (BitVec.xor_right_inj mask).mp h

/-- The bits of a word xored with its own right shift determine the word from
the top bit down. -/
theorem xor_ushiftRight_injective {shift : ℕ} (hshift : 0 < shift) :
    Function.Injective fun word : BitVec w => word ^^^ (word >>> shift) := by
  intro first second h
  have hbit : ∀ remaining i, w - i ≤ remaining →
      first.getLsbD i = second.getLsbD i := by
    intro remaining
    induction remaining with
    | zero =>
        intro i hi
        rw [BitVec.getLsbD_of_ge first i (by omega),
          BitVec.getLsbD_of_ge second i (by omega)]
    | succ remaining ih =>
        intro i hi
        by_cases hlt : i < w
        · have hupper := ih (shift + i) (by omega)
          have hword :
              (first ^^^ (first >>> shift)).getLsbD i =
                (second ^^^ (second >>> shift)).getLsbD i :=
            congrArg (fun word => word.getLsbD i) h
          simp only [BitVec.getLsbD_xor, BitVec.getLsbD_ushiftRight,
            hupper] at hword
          exact Bool.xor_left_inj.mp hword
        · rw [BitVec.getLsbD_of_ge first i (by omega),
            BitVec.getLsbD_of_ge second i (by omega)]
  apply BitVec.eq_of_getLsbD_eq
  intro i _
  exact hbit w i (by omega)

end WordMixing
