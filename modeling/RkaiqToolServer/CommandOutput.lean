import Mathlib.Data.List.TakeWhile
import RkaiqToolServer.ByteCodec
import RkaiqToolServer.MemoryAccess

/-!
# The output of a command

Each of the three copies of `ExecuteCMD` appends what `fgets` reads to the
result of its caller and looks at the length only after it has appended.  A
result of twice the copy's own size has room for the last piece; the result of
`DoCaptureYuv` has 128 bytes.
-/

namespace RkaiqToolServer

open ByteCodec MemoryAccess

def newline : UInt8 := 0x0a

/-- A piece of at most `room` bytes that ends after a line, and the bytes left
of the stream. -/
def fgets : ℕ → List UInt8 → List UInt8 × List UInt8
  | 0, stream => ([], stream)
  | _ + 1, [] => ([], [])
  | room + 1, byte :: rest =>
      if byte = newline then ([byte], rest)
      else (byte :: (fgets room rest).1, (fgets room rest).2)

/-- The pieces that `fgets` reads into `size` bytes until the stream ends. -/
def fgetsPieces (size : ℕ) : ℕ → List UInt8 → List (List UInt8)
  | 0, _ => []
  | fuel + 1, stream =>
      match fgets (size - 1) stream with
      | ([], _) => []
      | (piece, rest) => piece :: fgetsPieces size fuel rest

/-- A piece as a text: what stands before its first zero byte. -/
def shown (piece : List UInt8) : List UInt8 :=
  piece.takeWhile fun byte => byte ≠ 0

/-- The writes of `strcat` and the text they leave. -/
def appendPieces (limit : ℕ) :
    List (List UInt8) → List UInt8 → List (Access Unit) × List UInt8
  | [], result => ([], result)
  | piece :: rest, result =>
      let appended := result ++ shown piece
      let write : Access Unit := ⟨(), result.length, (shown piece).length + 1⟩
      if limit < appended.length then ([write], appended)
      else
        let later := appendPieces limit rest appended
        (write :: later.1, later.2)

/-- The functions that call a copy of `ExecuteCMD`, each with a cleared
result. -/
inductive CommandCaller
  | doCaptureYuv
  | replySensorPara
  | replyOnlineRawSensorPara
  | handlerOnLineMessage
  | setCapConf
  | handlerTCPMessage
  deriving DecidableEq

/-- The size of the copy's own buffer, which is also its limit. -/
def CommandCaller.limit : CommandCaller → ℕ
  | .doCaptureYuv => 1024
  | .replySensorPara => 1024
  | .replyOnlineRawSensorPara => 1024
  | .handlerOnLineMessage => 1024
  | .setCapConf => 2048
  | .handlerTCPMessage => 2048

def CommandCaller.capacity : CommandCaller → ℕ
  | .doCaptureYuv => 128
  | .replySensorPara => 2048
  | .replyOnlineRawSensorPara => 2048
  | .handlerOnLineMessage => 2048
  | .setCapConf => 2048
  | .handlerTCPMessage => 2048

def CommandCaller.pieces (caller : CommandCaller) (output : List UInt8) :
    List (List UInt8) :=
  fgetsPieces caller.limit output.length output

def CommandCaller.executeCMD (caller : CommandCaller)
    (output : List UInt8) : List (Access Unit) × List UInt8 :=
  appendPieces caller.limit (caller.pieces output) []

def CommandCaller.shownOutput (caller : CommandCaller)
    (output : List UInt8) : List UInt8 :=
  ((caller.pieces output).map shown).flatten

/-! ## Pieces -/

theorem fgets_append (room : ℕ) (stream : List UInt8) :
    (fgets room stream).1 ++ (fgets room stream).2 = stream := by
  induction room generalizing stream with
  | zero => rfl
  | succ room ih =>
      cases stream with
      | nil => rfl
      | cons byte rest =>
          rw [fgets]
          split
          · rfl
          · exact congrArg (byte :: ·) (ih rest)

theorem length_fgets_le (room : ℕ) (stream : List UInt8) :
    (fgets room stream).1.length ≤ room := by
  induction room generalizing stream with
  | zero => simp [fgets]
  | succ room ih =>
      cases stream with
      | nil => simp [fgets]
      | cons byte rest =>
          rw [fgets]
          split
          · simp
          · exact Nat.succ_le_succ (ih rest)

theorem fgets_ne_nil {room : ℕ} {stream : List UInt8} (hroom : 0 < room)
    (hstream : stream ≠ []) : (fgets room stream).1 ≠ [] := by
  obtain ⟨byte, rest, rfl⟩ := List.exists_cons_of_ne_nil hstream
  obtain ⟨less, rfl⟩ := Nat.exists_eq_succ_of_ne_zero hroom.ne'
  rw [fgets]
  split <;> simp

theorem length_le_of_mem_fgetsPieces {size fuel : ℕ} {stream : List UInt8} :
    ∀ piece ∈ fgetsPieces size fuel stream, piece.length ≤ size - 1 := by
  induction fuel generalizing stream with
  | zero => simp [fgetsPieces]
  | succ fuel ih =>
      intro piece hmem
      have hlength := length_fgets_le (size - 1) stream
      rw [fgetsPieces] at hmem
      split at hmem
      · simp at hmem
      · rename_i first rest _ heq
        rw [heq] at hlength
        rcases List.mem_cons.mp hmem with rfl | hlater
        · exact hlength
        · exact ih piece hlater

/-- The pieces are the whole stream: the fuel is enough. -/
theorem flatten_fgetsPieces {size fuel : ℕ} {stream : List UInt8}
    (hsize : 1 < size) (hfuel : stream.length ≤ fuel) :
    (fgetsPieces size fuel stream).flatten = stream := by
  induction fuel generalizing stream with
  | zero =>
      rw [List.eq_nil_of_length_eq_zero (Nat.le_zero.mp hfuel)]
      rfl
  | succ fuel ih =>
      have hstream := fgets_append (size - 1) stream
      rw [fgetsPieces]
      split
      · rename_i rest heq
        have hnil : stream = [] := by
          by_contra hne
          exact fgets_ne_nil (by omega : 0 < size - 1) hne (by rw [heq])
        rw [hnil]
        rfl
      · rename_i piece rest hpiece heq
        rw [heq] at hstream
        have hpos : 0 < piece.length := List.length_pos_of_ne_nil hpiece
        have hrest : rest.length ≤ fuel := by
          have hlength := congrArg List.length hstream
          simp only [List.length_append] at hlength
          omega
        rw [List.flatten_cons, ih hrest]
        exact hstream

theorem shown_eq_self {piece : List UInt8} (h : (0 : UInt8) ∉ piece) :
    shown piece = piece := by
  rw [shown, List.takeWhile_eq_self_iff]
  intro byte hbyte
  rw [decide_eq_true_eq]
  rintro rfl
  exact h hbyte

theorem length_shown_le (piece : List UInt8) :
    (shown piece).length ≤ piece.length :=
  (List.takeWhile_sublist _).length_le

/-- An output without zero bytes is shown whole. -/
theorem CommandCaller.shownOutput_eq_self (caller : CommandCaller)
    {output : List UInt8} (h : (0 : UInt8) ∉ output) :
    caller.shownOutput output = output := by
  have hlimit : 1 < caller.limit := by
    cases caller <;> decide
  have hflatten : (caller.pieces output).flatten = output :=
    flatten_fgetsPieces hlimit le_rfl
  have hshown : (caller.pieces output).map shown = caller.pieces output := by
    conv_rhs => rw [← List.map_id (caller.pieces output)]
    refine List.map_congr_left fun piece hpiece => shown_eq_self fun hzero => h ?_
    rw [← hflatten]
    exact List.mem_flatten.mpr ⟨piece, hpiece, hzero⟩
  rw [CommandCaller.shownOutput, hshown, hflatten]

/-! ## Bounds -/

section Bounds

variable {limit capacity : ℕ}

theorem strcat_inside_iff {result piece : List UInt8} :
    Access.Inside (fun _ => capacity)
        (⟨(), result.length, (shown piece).length + 1⟩ : Access Unit) ↔
      result.length + (shown piece).length < capacity := by
  rw [Access.inside_iff]
  constructor
  · rintro (hempty | ⟨-, hend⟩)
    · exact absurd hempty (Nat.succ_ne_zero _)
    · push_cast at hend
      omega
  · intro hlt
    refine .inr ⟨Int.natCast_nonneg _, ?_⟩
    push_cast
    omega

theorem inBounds_appendPieces_cons {piece : List UInt8}
    {rest : List (List UInt8)} {result : List UInt8} :
    InBounds (fun _ => capacity)
        (appendPieces limit (piece :: rest) result).1 ↔
      result.length + (shown piece).length < capacity ∧
        (result.length + (shown piece).length ≤ limit →
          InBounds (fun _ => capacity)
            (appendPieces limit rest (result ++ shown piece)).1) := by
  rw [appendPieces]
  simp only [List.length_append]
  by_cases hlimit : limit < result.length + (shown piece).length
  · rw [if_pos hlimit, inBounds_cons, strcat_inside_iff]
    simp [not_le.mpr hlimit]
  · rw [if_neg hlimit, inBounds_cons, strcat_inside_iff]
    simp [not_lt.mp hlimit]

/-- A text shorter than the result is appended whole or in part. -/
theorem inBounds_of_short {pieces : List (List UInt8)}
    {result : List UInt8}
    (hshort : result.length + ((pieces.map shown).flatten).length <
      capacity) :
    InBounds (fun _ => capacity) (appendPieces limit pieces result).1 := by
  induction pieces generalizing result with
  | nil => simp [appendPieces]
  | cons piece rest ih =>
      rw [List.map_cons, List.flatten_cons, List.length_append] at hshort
      refine inBounds_appendPieces_cons.mpr ⟨by omega, fun _ => ih ?_⟩
      rw [List.length_append]
      omega

/-- The text was at most `limit` bytes long before the last piece. -/
theorem inBounds_of_twice {pieces : List (List UInt8)}
    {result : List UInt8} (hlimit : 0 < limit)
    (hpieces : ∀ piece ∈ pieces, piece.length ≤ limit - 1)
    (hresult : result.length ≤ limit) (htwice : 2 * limit ≤ capacity) :
    InBounds (fun _ => capacity) (appendPieces limit pieces result).1 := by
  induction pieces generalizing result with
  | nil => simp [appendPieces]
  | cons piece rest ih =>
      have hpiece := hpieces piece (by simp)
      have hshown := length_shown_le piece
      refine inBounds_appendPieces_cons.mpr ⟨by omega, fun hle => ?_⟩
      refine ih (fun other hother => hpieces other (by simp [hother])) ?_
      rw [List.length_append]
      exact hle

/-- A result no longer than the limit gets every piece until it is full. -/
theorem short_of_inBounds {pieces : List (List UInt8)} {result : List UInt8}
    (hcapacity : capacity ≤ limit + 1) (hresult : result.length < capacity)
    (h : InBounds (fun _ => capacity) (appendPieces limit pieces result).1) :
    result.length + ((pieces.map shown).flatten).length < capacity := by
  induction pieces generalizing result with
  | nil => simpa using hresult
  | cons piece rest ih =>
      obtain ⟨hpiece, hlater⟩ := inBounds_appendPieces_cons.mp h
      have hrest := ih (by rw [List.length_append]; exact hpiece)
        (hlater (by omega))
      rw [List.map_cons, List.flatten_cons, List.length_append]
      rw [List.length_append] at hrest
      omega

end Bounds

/-- The writes stay in the result of a caller that has twice the limit, and in
those of the other callers when the text is shorter than the result. -/
theorem commandOutput_inBounds_iff (caller : CommandCaller)
    (output : List UInt8) :
    InBounds (fun _ => caller.capacity) (caller.executeCMD output).1 ↔
      2 * caller.limit ≤ caller.capacity ∨
        (caller.shownOutput output).length < caller.capacity := by
  have hlimit : 0 < caller.limit := by
    cases caller <;> decide
  have hsizes : 2 * caller.limit ≤ caller.capacity ∨
      caller.capacity ≤ caller.limit + 1 := by
    cases caller <;> decide
  have hempty : ([] : List UInt8).length < caller.capacity := by
    cases caller <;> decide
  rw [CommandCaller.executeCMD, CommandCaller.shownOutput]
  constructor
  · intro h
    rcases hsizes with htwice | hsmall
    · exact .inl htwice
    · have hshort := short_of_inBounds hsmall hempty h
      rw [List.length_nil, Nat.zero_add] at hshort
      exact .inr hshort
  · rintro (htwice | hshort)
    · exact inBounds_of_twice hlimit length_le_of_mem_fgetsPieces
        (Nat.zero_le _) htwice
    · refine inBounds_of_short ?_
      rw [List.length_nil, Nat.zero_add]
      exact hshort

/-- One line of 128 characters for `DoCaptureYuv`. -/
theorem commandOutput_not_inBounds :
    ¬ ∀ (caller : CommandCaller) (output : List UInt8),
      InBounds (fun _ => caller.capacity) (caller.executeCMD output).1 := by
  intro h
  have hline := h .doCaptureYuv (List.replicate 128 0x61)
  have hshort := short_of_inBounds (by decide) (by decide) hline
  have hshown : CommandCaller.doCaptureYuv.shownOutput
      (List.replicate 128 0x61) = List.replicate 128 0x61 :=
    CommandCaller.shownOutput_eq_self _ (by simp)
  rw [List.length_nil, Nat.zero_add] at hshort
  rw [CommandCaller.shownOutput] at hshown
  rw [hshown, List.length_replicate] at hshort
  exact absurd hshort (by decide)

end RkaiqToolServer
