import Mp3Decoder.Mad.Stereo

/-!
# Each band once (`III_stereo`)

The passes of `III_stereo` go over the same bands: the first finds the last bands of the right
channel that are not zero, the second processes intensity bands and takes back illegal ones, and the
third processes what is middle/side.  Together each band is processed at most once, from the lines
that were there: `stereoBand`.
-/

namespace Mp3Decoder

/-! ### Bands of a table -/

/-- The first line of band `b`. -/
def bandStart (widths : List ℕ) (b : ℕ) : ℕ := (widths.take b).sum

@[simp] theorem bandStart_zero (widths : List ℕ) : bandStart widths 0 = 0 := rfl

@[simp] theorem bandStart_nil (b : ℕ) : bandStart [] b = 0 := by simp [bandStart]

@[simp] theorem bandStart_cons (n : ℕ) (widths : List ℕ) (b : ℕ) :
    bandStart (n :: widths) (b + 1) = n + bandStart widths b := by
  simp [bandStart]

theorem bandStart_le (widths : List ℕ) (b : ℕ) : bandStart widths b ≤ widths.sum := by
  have hsplit := List.sum_take_add_sum_drop widths b
  rw [bandStart]
  omega

/-- Band `b` has a line that is not 0, where the table begins at line `l`. -/
def NonzeroAt (right : ℕ → Fixed) (widths : List ℕ) (l b : ℕ) : Prop :=
  ∃ i, l + bandStart widths b ≤ i ∧ i < l + bandStart widths (b + 1) ∧ right i ≠ 0

theorem bandNonzero_iff (right : ℕ → Fixed) (l n : ℕ) (widths : List ℕ) :
    bandNonzero right l n = true ↔ NonzeroAt right (n :: widths) l 0 := by
  simp only [bandNonzero, List.any_eq_true, List.mem_range, decide_eq_true_eq, NonzeroAt,
    bandStart_zero, bandStart_cons, Nat.add_zero]
  constructor
  · rintro ⟨i, hi, hne⟩
    exact ⟨l + i, by omega, by omega, hne⟩
  · rintro ⟨i, hlo, hhi, hne⟩
    exact ⟨i - l, by omega, by rw [show l + (i - l) = i by omega]; exact hne⟩

theorem nonzeroAt_cons (right : ℕ → Fixed) (n : ℕ) (widths : List ℕ) (l b : ℕ) :
    NonzeroAt right (n :: widths) l (b + 1) ↔ NonzeroAt right widths (l + n) b := by
  simp only [NonzeroAt, bandStart_cons, Nat.add_assoc]

/-! ### The last bands that are not zero -/

section
variable {right : ℕ → Fixed} {limit : ℕ}

/-- The end of the last band with `p` that is not zero. -/
def lastNonzeroIn (p : ℕ → Prop) [DecidablePred p] (right : ℕ → Fixed) (sfbi l n bound : ℕ) : ℕ :=
  if p sfbi then lastNonzero right sfbi l n bound else bound

/-- **The first pass**: what is below the result is below a band that is not zero. -/
theorem lastNonzeroIn_run {p : ℕ → Prop} [DecidablePred p] {widths : List ℕ} {sfbi l bound : ℕ}
    (hbound : bound ≤ sfbi) (j : ℕ) :
    j < (forBands limit (lastNonzeroIn p right) widths sfbi l bound).state ↔
      j < bound ∨ ∃ b, p (sfbi + b) ∧ j ≤ sfbi + b ∧ l + bandStart widths b < limit ∧
        NonzeroAt right widths l b := by
  induction widths generalizing sfbi l bound with
  | nil =>
    have hnone : ¬∃ b, p (sfbi + b) ∧ j ≤ sfbi + b ∧ l + bandStart [] b < limit ∧
        NonzeroAt right [] l b := by
      rintro ⟨b, -, -, -, i, hlo, hhi, -⟩
      simp only [bandStart_nil] at hlo hhi
      omega
    rw [forBands]
    simp only [hnone, or_false]
  | cons n widths ih =>
    rw [forBands]
    by_cases hl : l < limit
    · have hfirst : ∀ k, k < lastNonzeroIn p right sfbi l n bound ↔
          k < bound ∨ p sfbi ∧ k ≤ sfbi ∧ NonzeroAt right (n :: widths) l 0 := by
        intro k
        rw [lastNonzeroIn, lastNonzero, ← bandNonzero_iff]
        by_cases hp : p sfbi
        · by_cases hfound : bandNonzero right l n
          · simp only [hp, hfound, if_true, true_and, and_true]
            omega
          · simp only [hp, hfound, if_true, Bool.false_eq_true, if_false, and_false, or_false]
        · simp only [hp, if_false, false_and, or_false]
      have hbound' : lastNonzeroIn p right sfbi l n bound ≤ sfbi + 1 := by
        by_contra hover
        have hlt := (hfirst (sfbi + 1)).mp (by omega)
        omega
      rw [if_pos hl, ih hbound', hfirst, or_assoc, ← Nat.or_exists_add_one (p := fun b =>
        p (sfbi + b) ∧ j ≤ sfbi + b ∧ l + bandStart (n :: widths) b < limit ∧
          NonzeroAt right (n :: widths) l b)]
      simp only [bandStart_zero, bandStart_cons, nonzeroAt_cons, Nat.add_zero, hl, true_and,
        Nat.add_assoc, Nat.add_comm 1]
    · have hnone : ¬∃ b, p (sfbi + b) ∧ j ≤ sfbi + b ∧ l + bandStart (n :: widths) b < limit ∧
          NonzeroAt right (n :: widths) l b := by
        rintro ⟨b, -, -, hlt, -⟩
        omega
      rw [if_neg hl]
      simp only [hnone, or_false]

/-- The windows of a short block, one by one. -/
theorem lastNonzeroShort_run {start sfbi : ℕ} (widths : List ℕ) (l : ℕ) (s : ShortBounds)
    (hstart : start ≤ sfbi) (hw : s.w = (sfbi - start) % 3) :
    (forBands limit (lastNonzeroShort right) widths sfbi l s).state.max =
        (forBands limit (lastNonzeroIn (fun _ => True) right) widths sfbi l s.max).state ∧
      ∀ w < 3, (forBands limit (lastNonzeroShort right) widths sfbi l s).state.bound w =
        (forBands limit (lastNonzeroIn (fun b => (b - start) % 3 = w) right) widths sfbi l
          (s.bound w)).state := by
  induction widths generalizing sfbi l s with
  | nil => exact ⟨rfl, fun _ _ => rfl⟩
  | cons n widths ih =>
    simp only [forBands]
    by_cases hl : l < limit
    · simp only [if_pos hl]
      have hw' : (lastNonzeroShort right sfbi l n s).w = (sfbi + 1 - start) % 3 := by
        show (s.w + 1) % 3 = _
        omega
      obtain ⟨hmax, hbounds⟩ := ih (l + n) _ (by omega) hw'
      refine ⟨?_, ?_⟩
      · rw [hmax]
        rfl
      · intro w hw'
        have hstep : (lastNonzeroShort right sfbi l n s).bound w =
            lastNonzeroIn (fun b => (b - start) % 3 = w) right sfbi l n (s.bound w) := by
          simp only [lastNonzeroShort, lastNonzeroIn, lastNonzero, ← hw]
          by_cases hfound : bandNonzero right l n
          · by_cases hcur : s.w = w
            · rw [if_pos hfound, if_pos hcur, if_pos hfound, ← hcur, Function.update_self]
            · rw [if_pos hfound, if_neg hcur, Function.update_of_ne (Ne.symm hcur)]
          · simp only [hfound, Bool.false_eq_true, if_false, ite_self]
        rw [hbounds w hw', hstep]
    · simp only [if_neg hl]
      exact ⟨trivial, fun _ _ => trivial⟩

/-- Where a loop over the bands ends. -/
theorem forBands_end {σ : Type} (limit : ℕ) (step : ℕ → ℕ → ℕ → σ → σ) (widths : List ℕ)
    (sfbi l : ℕ) (s : σ) :
    let out := forBands limit step widths sfbi l s
    ∃ count ≤ widths.length, out.sfbi = sfbi + count ∧ out.l = l + bandStart widths count ∧
      out.rest = widths.drop count ∧
      ∀ b < widths.length, l + bandStart widths b < limit ↔ b < count := by
  induction widths generalizing sfbi l s with
  | nil => exact ⟨0, le_refl 0, rfl, by simp [forBands], rfl, by simp⟩
  | cons n widths ih =>
    simp only [forBands]
    by_cases hl : l < limit
    · obtain ⟨count, hcount, hsfbi, hend, hrest, hbelow⟩ :=
        ih (sfbi + 1) (l + n) (step sfbi l n s)
      simp only [if_pos hl]
      refine ⟨count + 1, by simpa using hcount, by omega, by rw [bandStart_cons]; omega, hrest, ?_⟩
      intro b hb
      cases b with
      | zero =>
        rw [bandStart_zero]
        omega
      | succ b =>
        have hiff := hbelow b (by simpa using hb)
        rw [bandStart_cons]
        omega
    · simp only [if_neg hl]
      refine ⟨0, Nat.zero_le _, rfl, by simp, rfl, ?_⟩
      intro b _
      omega

end

theorem bandStart_add (widths : List ℕ) (count b : ℕ) : bandStart widths (count + b) =
    bandStart widths count + bandStart (widths.drop count) b := by
  rw [bandStart, List.take_add, List.sum_append]
  rfl

theorem nonzeroAt_drop (right : ℕ → Fixed) (widths : List ℕ) (count b : ℕ) :
    NonzeroAt right (widths.drop count) (bandStart widths count) b ↔
      NonzeroAt right widths 0 (count + b) := by
  simp only [NonzeroAt, Nat.zero_add, bandStart_add, Nat.add_assoc]

/-- A band that is not zero is there. -/
theorem NonzeroAt.lt {right : ℕ → Fixed} {widths : List ℕ} {b : ℕ} (h : NonzeroAt right widths 0 b) :
    b < widths.length ∧ bandStart widths b < widths.sum := by
  obtain ⟨i, hlo, hhi, -⟩ := h
  have hle := bandStart_le widths (b + 1)
  refine ⟨?_, by omega⟩
  by_contra hover
  have heq : bandStart widths (b + 1) = bandStart widths b := by
    rw [bandStart, bandStart, List.take_of_length_le (by omega), List.take_of_length_le (by omega)]
  omega

theorem lastNonzero_eq (right : ℕ → Fixed) :
    lastNonzero right = lastNonzeroIn (fun _ => True) right := by
  funext sfbi l n bound
  rw [lastNonzeroIn, if_pos trivial]

/-! ### Above the last band that is not zero -/

/-- Only zeros in the right channel from band `b` on: of the same window in a short block, and of
all windows for the long bands of a mixed block. -/
def AboveNonzero (blockType : ℕ) (mixed : Bool) (widths : List ℕ) (right : ℕ → Fixed) (b : ℕ) :
    Prop :=
  if blockType = 2 then
    if mixed ∧ bandStart widths b < 36 then
      (∀ b', b ≤ b' → bandStart widths b' < 36 → ¬NonzeroAt right widths 0 b') ∧
        ∀ b', 36 ≤ bandStart widths b' → ¬NonzeroAt right widths 0 b'
    else ∀ b', b ≤ b' → b' % 3 = b % 3 → ¬NonzeroAt right widths 0 b'
  else ∀ b', b ≤ b' → ¬NonzeroAt right widths 0 b'

section
variable {widths : List ℕ} {right : ℕ → Fixed}

theorem lastNonzero_table (limit j : ℕ) :
    j < (forBands limit (lastNonzero right) widths 0 0 0).state ↔
      ∃ b, j ≤ b ∧ bandStart widths b < limit ∧ NonzeroAt right widths 0 b := by
  rw [lastNonzero_eq, lastNonzeroIn_run (le_refl 0)]
  simp only [Nat.not_lt_zero, false_or, true_and, Nat.zero_add]

/-- What holds of a band behind the first `count` ones. -/
theorem exists_behind {count : ℕ} {P : ℕ → Prop} :
    (∃ k, P (count + k)) ↔ ∃ b, count ≤ b ∧ P b := by
  constructor
  · rintro ⟨k, h⟩
    exact ⟨count + k, Nat.le_add_right count k, h⟩
  · rintro ⟨b, hle, h⟩
    exact ⟨b - count, by rw [show count + (b - count) = b by omega]; exact h⟩

variable (hsum : widths.sum = 576)
include hsum

/-- The windows behind the first `count` bands -/
theorem lastNonzeroShort_table (count j : ℕ) :
    let short := (forBands 576 (lastNonzeroShort right) (widths.drop count) count
      (bandStart widths count) ⟨0, fun _ => 0, 0⟩).state
    (j < short.max ↔ ∃ b, count ≤ b ∧ j ≤ b ∧ NonzeroAt right widths 0 b) ∧
      ∀ w < 3, j < short.bound w ↔
        ∃ b, count ≤ b ∧ (b - count) % 3 = w ∧ j ≤ b ∧ NonzeroAt right widths 0 b := by
  have hstart : (⟨0, fun _ => 0, 0⟩ : ShortBounds).w = (count - count) % 3 := by
    rw [Nat.sub_self]
  have hwithin : ∀ b, NonzeroAt right (widths.drop count) (bandStart widths count) b →
      bandStart widths count + bandStart (widths.drop count) b < 576 := by
    intro b h
    rw [← bandStart_add, ← hsum]
    exact ((nonzeroAt_drop right widths count b).mp h).lt.2
  have hlimit : ∀ b, bandStart widths count + bandStart (widths.drop count) b < 576 ∧
      NonzeroAt right (widths.drop count) (bandStart widths count) b ↔
        NonzeroAt right widths 0 (count + b) := by
    intro b
    rw [← nonzeroAt_drop]
    exact ⟨And.right, fun h => ⟨hwithin b h, h⟩⟩
  obtain ⟨hmax, hbounds⟩ := lastNonzeroShort_run (widths.drop count) (bandStart widths count) _
    (le_refl count) hstart
  refine ⟨?_, ?_⟩
  · rw [hmax, lastNonzeroIn_run (Nat.zero_le count), ← exists_behind]
    simp only [Nat.not_lt_zero, false_or, true_and, hlimit]
  · intro w hw
    rw [hbounds w hw, lastNonzeroIn_run (Nat.zero_le count), ← exists_behind]
    simp only [Nat.not_lt_zero, false_or, hlimit]

/-- The modes after the first pass, in a long block. -/
theorem stereoModes_long {blockType : ℕ} (hblock : blockType ≠ 2) (modeExtension : ℕ) (mixed : Bool)
    (b : ℕ) : (AboveNonzero blockType mixed widths right b →
        stereoModes modeExtension blockType mixed widths right b = modeExtension) ∧
      (¬AboveNonzero blockType mixed widths right b →
        stereoModes modeExtension blockType mixed widths right b = noIntensity modeExtension) := by
  have hbelow : b < (forBands 576 (lastNonzero right) widths 0 0 0).state ↔
      ¬AboveNonzero blockType mixed widths right b := by
    rw [lastNonzero_table, AboveNonzero, if_neg hblock]
    push Not
    constructor
    · rintro ⟨b', hle, -, hnonzero⟩
      exact ⟨b', hle, hnonzero⟩
    · rintro ⟨b', hle, hnonzero⟩
      exact ⟨b', hle, hsum ▸ hnonzero.lt.2, hnonzero⟩
  simp only [stereoModes, if_neg hblock]
  refine ⟨fun habove => ?_, fun hnot => ?_⟩
  · exact if_neg fun hlt => hbelow.mp hlt habove
  · exact if_pos (hbelow.mpr hnot)

omit hsum in
/-- The first loop of a short block goes over the long bands. -/
theorem longLoop (right : ℕ → Fixed) (mixed : Bool) (widths : List ℕ) :
    let long : BandLoop ℕ :=
      if mixed then forBands 36 (lastNonzero right) widths 0 0 0 else ⟨widths, 0, 0, 0⟩
    long.l = bandStart widths long.sfbi ∧ long.rest = widths.drop long.sfbi ∧
      (∀ b < widths.length, mixed ∧ bandStart widths b < 36 ↔ b < long.sfbi) ∧
      ∀ j, j < long.state ↔ ∃ b, j ≤ b ∧ b < long.sfbi ∧ NonzeroAt right widths 0 b := by
  cases mixed with
  | false => simp
  | true =>
    obtain ⟨count, -, hsfbi, hl, hrest, hcount⟩ :=
      forBands_end 36 (lastNonzero right) widths 0 0 0
    simp only [Nat.zero_add] at hsfbi hl hcount
    simp only [if_true, hsfbi, true_and]
    refine ⟨hl, hrest, hcount, fun j => ?_⟩
    rw [lastNonzero_table]
    constructor
    · rintro ⟨b, hle, hstart, hnonzero⟩
      exact ⟨b, hle, (hcount b hnonzero.lt.1).mp hstart, hnonzero⟩
    · rintro ⟨b, hle, hlt, hnonzero⟩
      exact ⟨b, hle, (hcount b hnonzero.lt.1).mpr hlt, hnonzero⟩

/-- What the loops of a short block find: `count` long bands, the last of them that is not zero, and
the last short bands. -/
structure ShortFound (right : ℕ → Fixed) (mixed : Bool) (widths : List ℕ) (count lower : ℕ)
    (short : ShortBounds) : Prop where
  long : ∀ b < widths.length, mixed ∧ bandStart widths b < 36 ↔ b < count
  lower : ∀ j, j < lower ↔ ∃ b, j ≤ b ∧ b < count ∧ NonzeroAt right widths 0 b
  max : ∀ j, j < short.max ↔ ∃ b, count ≤ b ∧ j ≤ b ∧ NonzeroAt right widths 0 b
  bound : ∀ j, ∀ w < 3, j < short.bound w ↔
    ∃ b, count ≤ b ∧ (b - count) % 3 = w ∧ j ≤ b ∧ NonzeroAt right widths 0 b

section
omit hsum
variable {mixed : Bool} {count lower : ℕ} {short : ShortBounds}

/-- A long band of a mixed block -/
theorem ShortFound.below_long (h : ShortFound right mixed widths count lower short) {b : ℕ}
    (hb : b < widths.length) (hlong : b < count) :
    b < (if short.max ≠ 0 then count else lower) ↔ ¬AboveNonzero 2 mixed widths right b := by
  have hmixed := (h.long b hb).mpr hlong
  have hlong' : ∀ b', NonzeroAt right widths 0 b' → (bandStart widths b' < 36 ↔ b' < count) :=
    fun b' hnonzero => by simpa [hmixed.1] using h.long b' hnonzero.lt.1
  rw [AboveNonzero, if_pos rfl, if_pos hmixed]
  by_cases hshorts : ∃ b', count ≤ b' ∧ NonzeroAt right widths 0 b'
  · obtain ⟨b', hle, hnonzero⟩ := hshorts
    have hpos : 0 < short.max := (h.max 0).mpr ⟨b', hle, Nat.zero_le b', hnonzero⟩
    have hstart := (hlong' b' hnonzero).not.mpr (by omega)
    rw [if_pos (by omega)]
    exact iff_of_true hlong fun habove => habove.2 b' (by omega) hnonzero
  · have hzero : short.max = 0 := by
      by_contra hne
      obtain ⟨b', hle, -, hnonzero⟩ := (h.max 0).mp (by omega)
      exact hshorts ⟨b', hle, hnonzero⟩
    rw [if_neg fun hne => hne hzero, h.lower]
    constructor
    · rintro ⟨b', hle, hlt, hnonzero⟩ habove
      exact habove.1 b' hle ((hlong' b' hnonzero).mpr hlt) hnonzero
    · intro hnot
      by_contra hnone
      push Not at hnone hshorts
      refine hnot ⟨fun b' hle hstart hnonzero => ?_, fun b' hstart hnonzero => ?_⟩
      · exact hnone b' hle ((hlong' b' hnonzero).mp hstart) hnonzero
      · have hbehind := (hlong' b' hnonzero).not.mp (by omega)
        exact hshorts b' (by omega) hnonzero

/-- A band of one window -/
theorem ShortFound.below_short (h : ShortFound right mixed widths count lower short) {b : ℕ}
    (hb : b < widths.length) (hshort : count ≤ b) :
    b < short.max ∧ b < short.bound ((b - count) % 3) ↔ ¬AboveNonzero 2 mixed widths right b := by
  have hwindow : (b - count) % 3 < 3 := Nat.mod_lt _ (by decide)
  rw [AboveNonzero, if_pos rfl, if_neg ((h.long b hb).not.mpr (by omega))]
  push Not
  constructor
  · rintro ⟨-, hbound⟩
    obtain ⟨b', hcount, hsame, hle, hnonzero⟩ := (h.bound b _ hwindow).mp hbound
    exact ⟨b', hle, by omega, hnonzero⟩
  · rintro ⟨b', hle, hsame, hnonzero⟩
    refine ⟨(h.max b).mpr ⟨b', by omega, hle, hnonzero⟩, ?_⟩
    exact (h.bound b _ hwindow).mpr ⟨b', by omega, by omega, hle, hnonzero⟩

theorem ShortFound.below (h : ShortFound right mixed widths count lower short) {b : ℕ}
    (hb : b < widths.length) :
    (b < (if short.max ≠ 0 then count else lower) ∨
      count ≤ b ∧ b < short.max ∧ b < short.bound ((b - count) % 3)) ↔
      ¬AboveNonzero 2 mixed widths right b := by
  by_cases hlong : b < count
  · rw [← h.below_long hb hlong]
    simp only [show ¬count ≤ b by omega, false_and, or_false]
  · have hnot : ¬b < if short.max ≠ 0 then count else lower := by
      split_ifs
      · exact hlong
      · rw [h.lower]
        rintro ⟨b', hle, hlt, -⟩
        omega
    rw [← h.below_short hb (by omega)]
    simp only [hnot, false_or, show count ≤ b by omega, true_and]

end

/-- The modes after the first pass, in a short block. -/
theorem stereoModes_short (modeExtension : ℕ) (mixed : Bool) {b : ℕ} (hb : b < widths.length) :
    (AboveNonzero 2 mixed widths right b →
        stereoModes modeExtension 2 mixed widths right b = modeExtension) ∧
      (¬AboveNonzero 2 mixed widths right b →
        stereoModes modeExtension 2 mixed widths right b = noIntensity modeExtension) := by
  obtain ⟨long, hlong⟩ : ∃ long, long = (if mixed then forBands 36 (lastNonzero right) widths 0 0 0
      else ⟨widths, 0, 0, 0⟩ : BandLoop ℕ) := ⟨_, rfl⟩
  obtain ⟨short, hshort⟩ : ∃ short, short = (forBands 576 (lastNonzeroShort right) long.rest
    long.sfbi long.l ⟨0, fun _ => 0, 0⟩).state := ⟨_, rfl⟩
  obtain ⟨hl, hrest, hcount, hstate⟩ := longLoop right mixed widths
  rw [← hlong] at hl hrest hcount hstate
  have hfound : ShortFound right mixed widths long.sfbi long.state short := by
    rw [hrest, hl] at hshort
    rw [hshort]
    exact ⟨hcount, hstate, fun j => (lastNonzeroShort_table hsum long.sfbi j).1,
      fun j => (lastNonzeroShort_table hsum long.sfbi j).2⟩
  have hmodes : stereoModes modeExtension 2 mixed widths right b =
      if b < (if short.max ≠ 0 then long.sfbi else long.state) ∨
        long.sfbi ≤ b ∧ b < short.max ∧ b < short.bound ((b - long.sfbi) % 3) then
        noIntensity modeExtension
      else modeExtension := by
    simp only [stereoModes, if_true, hshort, hlong]
  rw [hmodes]
  exact ⟨fun habove => if_neg fun hlt => (hfound.below hb).mp hlt habove,
    fun hnot => if_pos ((hfound.below hb).mpr hnot)⟩

end

/-! ### Steps of one band -/

/-- What a pass does to a band: to the pairs of lines, and to the mode. -/
abbrev BandChange : Type := ℕ → ℕ → (Fixed → Fixed → Fixed × Fixed) × ℕ

def bandStep (change : BandChange) (sfbi l n : ℕ) (s : StereoState) : StereoState where
  xr := mapBand s.xr l n (change sfbi (s.modes sfbi)).1
  modes := Function.update s.modes sfbi (change sfbi (s.modes sfbi)).2

theorem mapBand_pair (xr : ℕ → ℕ → Fixed) {l n i : ℕ} (f : Fixed → Fixed → Fixed × Fixed)
    (hi : l ≤ i ∧ i < l + n) :
    (mapBand xr l n f 0 i, mapBand xr l n f 1 i) = f (xr 0 i) (xr 1 i) := by
  simp [mapBand, hi]

theorem mapBand_other (xr : ℕ → ℕ → Fixed) {l n ch i : ℕ} (f : Fixed → Fixed → Fixed × Fixed)
    (h : 2 ≤ ch ∨ ¬(l ≤ i ∧ i < l + n)) : mapBand xr l n f ch i = xr ch i := by
  rw [mapBand]
  split_ifs with hband hleft hright
  · omega
  · omega
  · rfl
  · rfl

theorem mapBand_id (xr : ℕ → ℕ → Fixed) (l n : ℕ) : mapBand xr l n Prod.mk = xr := by
  funext ch i
  rw [mapBand]
  split_ifs with hband hleft hright
  · rw [hleft]
  · rw [hright]
  · rfl
  · rfl

/-- **A pass** changes each band from its own lines and mode. -/
theorem bandStep_run (change : BandChange) (limit : ℕ) (widths : List ℕ) (sfbi l : ℕ)
    (s : StereoState) :
    let out := (forBands limit (bandStep change) widths sfbi l s).state
    (∀ b < widths.length, l + bandStart widths b < limit →
      out.modes (sfbi + b) = (change (sfbi + b) (s.modes (sfbi + b))).2 ∧
      ∀ i, l + bandStart widths b ≤ i → i < l + bandStart widths (b + 1) →
        (out.xr 0 i, out.xr 1 i) =
          (change (sfbi + b) (s.modes (sfbi + b))).1 (s.xr 0 i) (s.xr 1 i)) ∧
    (∀ j < sfbi, out.modes j = s.modes j) ∧
    ∀ ch i, 2 ≤ ch ∨ i < l ∨ l + widths.sum ≤ i → out.xr ch i = s.xr ch i := by
  induction widths generalizing sfbi l s with
  | nil => exact ⟨fun b hb => absurd hb (Nat.not_lt_zero b), fun _ _ => rfl, fun _ _ _ => rfl⟩
  | cons n widths ih =>
    simp only [forBands]
    by_cases hl : l < limit
    · simp only [if_pos hl]
      obtain ⟨hbands, hmodes, hlines⟩ := ih (sfbi + 1) (l + n) (bandStep change sfbi l n s)
      refine ⟨?_, ?_, ?_⟩
      · intro b hb hstart
        cases b with
        | zero =>
          simp only [bandStart_zero, bandStart_cons, Nat.add_zero, Nat.zero_add]
          refine ⟨?_, fun i hlo hhi => ?_⟩
          · rw [hmodes sfbi (by omega)]
            exact Function.update_self _ _ _
          · rw [hlines 0 i (by omega), hlines 1 i (by omega)]
            exact mapBand_pair s.xr _ ⟨hlo, hhi⟩
        | succ b =>
          rw [bandStart_cons] at hstart ⊢
          obtain ⟨hmode, hpair⟩ := hbands b (by simpa using hb) (by omega)
          have hbefore : (bandStep change sfbi l n s).modes (sfbi + 1 + b) =
              s.modes (sfbi + 1 + b) := Function.update_of_ne (by omega) _ _
          rw [hbefore] at hmode hpair
          rw [show sfbi + (b + 1) = sfbi + 1 + b by omega]
          refine ⟨hmode, fun i hlo hhi => ?_⟩
          rw [bandStart_cons] at hhi
          have hsame : ∀ ch, (bandStep change sfbi l n s).xr ch i = s.xr ch i :=
            fun ch => mapBand_other s.xr _ (by omega)
          rw [hpair i (by omega) (by omega), hsame, hsame]
      · intro j hj
        rw [hmodes j (by omega)]
        exact Function.update_of_ne (by omega) _ _
      · intro ch i h
        rw [List.sum_cons] at h
        rw [hlines ch i (by omega)]
        exact mapBand_other _ _ (by omega)
    · simp only [if_neg hl]
      refine ⟨fun b _ hstart => ?_, fun _ _ => trivial, fun _ _ _ => trivial⟩
      omega

/-! ### The passes -/

/-- The transform of an LSF intensity band with position `isPos` -/
def lsfPair (scale : List Fixed) (isPos : ℕ) (left : Fixed) : Fixed × Fixed :=
  if isPos = 0 then (left, left)
  else
    let opposite := madFMul left (scale.getD ((isPos - 1) / 2) 0)
    if isPos &&& 1 ≠ 0 then (opposite, left) else (left, opposite)

/-- The transform of an MPEG-1 intensity band with position `isPos` -/
def mpeg1Pair (isPos : ℕ) (left : Fixed) : Fixed × Fixed :=
  (madFMul left (intensityTable.getD isPos 0), madFMul left (intensityTable.getD (6 - isPos) 0))

/-- The transform of a middle/side band -/
def middleSidePair (m s : Fixed) : Fixed × Fixed :=
  (madFMul (m + s) (rootTable.getD 1 0), madFMul (m - s) (rootTable.getD 1 0))

/-- An intensity pass, with the legal bands and their transform -/
def intensityChange (legal : ℕ → Prop) [DecidablePred legal] (pair : ℕ → Fixed → Fixed × Fixed) :
    BandChange := fun sfbi mode =>
  if mode &&& iStereo = 0 then (Prod.mk, mode)
  else if legal sfbi then (fun left _ => pair sfbi left, mode)
  else (Prod.mk, noIntensity mode)

def middleSideChange : BandChange := fun _ mode =>
  if mode ≠ msStereo then (Prod.mk, mode) else (middleSidePair, mode)

theorem bandStep_same (change : BandChange) (sfbi l n : ℕ) (s : StereoState)
    (h : change sfbi (s.modes sfbi) = (Prod.mk, s.modes sfbi)) : bandStep change sfbi l n s = s := by
  rw [bandStep, h, mapBand_id, Function.update_eq_self]

theorem intensityLsf_eq (scale : List Fixed) (illegalPos scalefac : ℕ → ℕ) :
    intensityLsf scale illegalPos scalefac = bandStep (intensityChange (fun sfbi =>
      illegalPos sfbi = 0) fun sfbi => lsfPair scale (scalefac sfbi)) := by
  funext sfbi l n s
  rw [intensityLsf]
  by_cases hmode : s.modes sfbi &&& iStereo = 0
  · rw [if_pos hmode, bandStep_same _ _ _ _ _ (if_pos hmode)]
  · rw [if_neg hmode]
    by_cases hlegal : illegalPos sfbi = 0
    · rw [if_neg (not_not.mpr hlegal)]
      simp only [bandStep, intensityChange, if_neg hmode, if_pos hlegal, Function.update_eq_self]
      rfl
    · rw [if_pos hlegal]
      simp only [bandStep, intensityChange, if_neg hmode, if_neg hlegal, mapBand_id]
      rfl

theorem intensityMpeg1_eq (scalefac : ℕ → ℕ) :
    intensityMpeg1 scalefac = bandStep (intensityChange (fun sfbi => scalefac sfbi < 7) fun sfbi =>
      mpeg1Pair (scalefac sfbi)) := by
  funext sfbi l n s
  rw [intensityMpeg1]
  by_cases hmode : s.modes sfbi &&& iStereo = 0
  · rw [if_pos hmode, bandStep_same _ _ _ _ _ (if_pos hmode)]
  · rw [if_neg hmode]
    by_cases hlegal : scalefac sfbi < 7
    · simp only [bandStep, intensityChange, if_neg hmode, if_pos hlegal, Function.update_eq_self,
        if_neg (show ¬7 ≤ scalefac sfbi by omega)]
      rfl
    · simp only [bandStep, intensityChange, if_neg hmode, if_neg hlegal, mapBand_id,
        if_pos (show 7 ≤ scalefac sfbi by omega)]
      rfl

theorem middleSide_eq : middleSide = bandStep middleSideChange := by
  funext sfbi l n s
  rw [middleSide]
  by_cases hmode : s.modes sfbi ≠ msStereo
  · rw [if_pos hmode, bandStep_same _ _ _ _ _ (if_pos hmode)]
  · simp only [if_neg hmode, bandStep, middleSideChange, Function.update_eq_self]
    rfl

/-! ### The reference -/

/-- Band `b` is intensity coded. -/
def IntensityCoded (lsf : Bool) (modeExtension : ℕ) (info : StereoInfo) (widths : List ℕ)
    (right : ℕ → Fixed) (b : ℕ) : Prop :=
  modeExtension &&& iStereo ≠ 0 ∧ AboveNonzero info.blockType info.mixed widths right b ∧
    if lsf then info.illegalPos b = 0 else info.scalefac b < 7

/-- The intensity transform of band `b` -/
def intensityPair (lsf : Bool) (info : StereoInfo) (b : ℕ) (left : Fixed) : Fixed × Fixed :=
  if lsf then
    lsfPair (intensityLsfTable.getD (info.scalefacCompress &&& 0x1) []) (info.scalefac b) left
  else mpeg1Pair (info.scalefac b) left

/-- The pass over the intensity bands. -/
def intensityState (lsf : Bool) (modeExtension : ℕ) (info : StereoInfo) (widths : List ℕ)
    (xr : ℕ → ℕ → Fixed) : StereoState :=
  if modeExtension &&& iStereo ≠ 0 then
    let start : StereoState :=
      { xr, modes := stereoModes modeExtension info.blockType info.mixed widths (xr 1) }
    let step := if lsf then
        intensityLsf (intensityLsfTable.getD (info.scalefacCompress &&& 0x1) []) info.illegalPos
          info.scalefac
      else intensityMpeg1 info.scalefac
    (forBands 576 step widths 0 0 start).state
  else { xr, modes := fun _ => modeExtension }

variable {lsf : Bool} {modeExtension : ℕ} {info : StereoInfo} {widths : List ℕ}
  {xr : ℕ → ℕ → Fixed}

theorem stereoLines_eq : stereoLines lsf modeExtension info widths xr =
    if modeExtension &&& msStereo ≠ 0 then
      (forBands 576 (bandStep middleSideChange) widths 0 0
        (intensityState lsf modeExtension info widths xr)).state.xr
    else (intensityState lsf modeExtension info widths xr).xr := by
  rw [← middleSide_eq]
  rfl

/-- Both kinds of intensity passes -/
theorem intensityStep_eq (lsf : Bool) (info : StereoInfo) :
    ∃ legal : ℕ → Prop, ∃ _ : DecidablePred legal,
    (if lsf then intensityLsf (intensityLsfTable.getD (info.scalefacCompress &&& 0x1) [])
        info.illegalPos info.scalefac
      else intensityMpeg1 info.scalefac) =
      bandStep (intensityChange legal (intensityPair lsf info)) ∧
    ∀ b, legal b ↔ if lsf then info.illegalPos b = 0 else info.scalefac b < 7 := by
  cases lsf with
  | true => exact ⟨_, inferInstance, intensityLsf_eq _ _ _, fun _ => Iff.rfl⟩
  | false => exact ⟨_, inferInstance, intensityMpeg1_eq _, fun _ => Iff.rfl⟩

/-- The modes of the first pass, for any block type -/
theorem stereoModes_eq (modeExtension : ℕ) (info : StereoInfo) (hsum : widths.sum = 576)
    (right : ℕ → Fixed) {b : ℕ} (hb : b < widths.length) :
    (AboveNonzero info.blockType info.mixed widths right b →
        stereoModes modeExtension info.blockType info.mixed widths right b = modeExtension) ∧
      (¬AboveNonzero info.blockType info.mixed widths right b →
        stereoModes modeExtension info.blockType info.mixed widths right b =
          noIntensity modeExtension) := by
  by_cases hblock : info.blockType = 2
  · rw [hblock]
    exact stereoModes_short hsum modeExtension info.mixed hb
  · exact stereoModes_long hsum hblock modeExtension info.mixed b

theorem noIntensity_bit (mode : ℕ) : noIntensity mode &&& iStereo = 0 := by
  rw [noIntensity, Nat.and_assoc, show 0xfffe &&& iStereo = 0 from rfl, Nat.and_zero]

/-- The two bits of `mode_extension` -/
theorem modeExtension_bits : ∀ mode < 4, (mode &&& iStereo = 0 → noIntensity mode = mode) ∧
    (mode &&& iStereo ≠ 0 → mode ≠ msStereo) ∧
    (noIntensity mode = msStereo ↔ mode &&& msStereo ≠ 0) := by decide

/-- **The intensity pass**, band by band. -/
theorem intensityState_band (lsf : Bool) (info : StereoInfo) (xr : ℕ → ℕ → Fixed)
    (hsum : widths.sum = 576) (hext : modeExtension < 4) {b : ℕ} (hb : b < widths.length)
    (hstart : bandStart widths b < 576) :
    let s := intensityState lsf modeExtension info widths xr
    (IntensityCoded lsf modeExtension info widths (xr 1) b → s.modes b = modeExtension ∧
      ∀ i, bandStart widths b ≤ i → i < bandStart widths (b + 1) →
        (s.xr 0 i, s.xr 1 i) = intensityPair lsf info b (xr 0 i)) ∧
    (¬IntensityCoded lsf modeExtension info widths (xr 1) b →
      s.modes b = noIntensity modeExtension ∧
      ∀ i, bandStart widths b ≤ i → i < bandStart widths (b + 1) →
        (s.xr 0 i, s.xr 1 i) = (xr 0 i, xr 1 i)) := by
  by_cases hbit : modeExtension &&& iStereo ≠ 0
  · obtain ⟨legal, _, hstep, hlegal⟩ := intensityStep_eq lsf info
    obtain ⟨habove, hbelow⟩ := stereoModes_eq modeExtension info hsum (xr 1) hb
    simp only [intensityState, if_pos hbit, hstep]
    obtain ⟨hbands, -, -⟩ := bandStep_run (intensityChange legal (intensityPair lsf info)) 576 widths
      0 0 ⟨xr, stereoModes modeExtension info.blockType info.mixed widths (xr 1)⟩
    simp only [Nat.zero_add] at hbands
    obtain ⟨hmode, hlines⟩ := hbands b hb hstart
    refine ⟨fun hcoded => ?_, fun hnot => ?_⟩
    · have hchange : intensityChange legal (intensityPair lsf info) b modeExtension =
          (fun left _ => intensityPair lsf info b left, modeExtension) := by
        rw [intensityChange, if_neg hbit, if_pos ((hlegal b).mpr hcoded.2.2)]
      rw [habove hcoded.2.1, hchange] at hmode hlines
      exact ⟨hmode, hlines⟩
    · have hchange : intensityChange legal (intensityPair lsf info) b
          (stereoModes modeExtension info.blockType info.mixed widths (xr 1) b) =
          (Prod.mk, noIntensity modeExtension) := by
        by_cases hmodes : AboveNonzero info.blockType info.mixed widths (xr 1) b
        · have hillegal : ¬legal b := fun h => hnot ⟨hbit, hmodes, (hlegal b).mp h⟩
          rw [habove hmodes, intensityChange, if_neg hbit, if_neg hillegal]
        · rw [hbelow hmodes, intensityChange, if_pos (noIntensity_bit modeExtension)]
      rw [hchange] at hmode hlines
      exact ⟨hmode, hlines⟩
  · have hsame := (modeExtension_bits modeExtension hext).1 (not_not.mp hbit)
    simp only [intensityState, if_neg hbit, hsame]
    refine ⟨fun hcoded => absurd hcoded.1 hbit, fun _ => ?_⟩
    exact ⟨trivial, fun _ _ _ => trivial⟩

theorem intensityState_other (hsum : widths.sum = 576) {ch i : ℕ} (h : 2 ≤ ch ∨ 576 ≤ i) :
    (intensityState lsf modeExtension info widths xr).xr ch i = xr ch i := by
  rw [intensityState]
  by_cases hbit : modeExtension &&& iStereo ≠ 0
  · obtain ⟨legal, _, hstep, -⟩ := intensityStep_eq lsf info
    simp only [if_pos hbit, hstep]
    exact (bandStep_run _ 576 widths 0 0 _).2.2 ch i (by omega)
  · rw [if_neg hbit]

/-- The band of line `i` -/
def lineBand : List ℕ → ℕ → ℕ
  | [], _ => 0
  | n :: widths, i => if i < n then 0 else lineBand widths (i - n) + 1

theorem lineBand_spec {i : ℕ} (hi : i < widths.sum) : lineBand widths i < widths.length ∧
    bandStart widths (lineBand widths i) ≤ i ∧ i < bandStart widths (lineBand widths i + 1) := by
  induction widths generalizing i with
  | nil => exact absurd hi (Nat.not_lt_zero i)
  | cons n widths ih =>
    rw [List.sum_cons] at hi
    rw [lineBand]
    split_ifs with hfirst
    · simp [hfirst]
    · obtain ⟨hlength, hlo, hhi⟩ := ih (i := i - n) (by omega)
      simp only [bandStart_cons, List.length_cons] at *
      omega

open Classical in
/-- The lines of band `b` after joint stereo: an intensity coded band gets only the intensity
transform, any other only the middle/side transform. -/
noncomputable def stereoBand (lsf : Bool) (modeExtension : ℕ) (info : StereoInfo) (widths : List ℕ)
    (right : ℕ → Fixed) (b : ℕ) (l r : Fixed) : Fixed × Fixed :=
  if IntensityCoded lsf modeExtension info widths right b then intensityPair lsf info b l
  else if modeExtension &&& msStereo ≠ 0 then middleSidePair l r
  else (l, r)

/-- Joint stereo, line by line -/
noncomputable def stereoReference (lsf : Bool) (modeExtension : ℕ) (info : StereoInfo)
    (widths : List ℕ) (xr : ℕ → ℕ → Fixed) : ℕ → ℕ → Fixed := fun ch i =>
  let pair := stereoBand lsf modeExtension info widths (xr 1) (lineBand widths i) (xr 0 i) (xr 1 i)
  if 576 ≤ i then xr ch i else if ch = 0 then pair.1 else if ch = 1 then pair.2 else xr ch i

theorem stereoLines_other (hsum : widths.sum = 576) {ch i : ℕ} (h : 2 ≤ ch ∨ 576 ≤ i) :
    stereoLines lsf modeExtension info widths xr ch i = xr ch i := by
  have hintensity : (intensityState lsf modeExtension info widths xr).xr ch i = xr ch i :=
    intensityState_other hsum h
  rw [stereoLines_eq, ← hintensity]
  split_ifs
  · exact (bandStep_run _ 576 widths 0 0 _).2.2 ch i (by omega)
  · rfl

theorem stereoLines_band (lsf : Bool) (info : StereoInfo) (xr : ℕ → ℕ → Fixed)
    (hsum : widths.sum = 576) (hext : modeExtension < 4) {i : ℕ} (hi : i < 576) :
    (stereoLines lsf modeExtension info widths xr 0 i,
        stereoLines lsf modeExtension info widths xr 1 i) =
      stereoBand lsf modeExtension info widths (xr 1) (lineBand widths i) (xr 0 i) (xr 1 i) := by
  obtain ⟨hb, hlo, hhi⟩ := lineBand_spec (hsum ▸ hi)
  generalize lineBand widths i = b at hb hlo hhi ⊢
  obtain ⟨hcoded, hother⟩ := intensityState_band lsf info xr hsum hext hb (by omega)
  obtain ⟨-, hbit, hside⟩ := modeExtension_bits modeExtension hext
  obtain ⟨hbands, -, -⟩ := bandStep_run middleSideChange 576 widths 0 0
    (intensityState lsf modeExtension info widths xr)
  simp only [Nat.zero_add] at hbands
  obtain ⟨-, hlines⟩ := hbands b hb (by omega)
  have hpair := hlines i hlo hhi
  rw [stereoLines_eq, stereoBand]
  by_cases hint : IntensityCoded lsf modeExtension info widths (xr 1) b
  · obtain ⟨hmode, hintensity⟩ := hcoded hint
    rw [if_pos hint, ← hintensity i hlo hhi]
    split_ifs
    · rw [hpair, hmode, middleSideChange, if_pos (hbit hint.1)]
    · rfl
  · obtain ⟨hmode, hsame⟩ := hother hint
    rw [if_neg hint]
    split_ifs with hms
    · obtain ⟨hleft, hright⟩ := Prod.mk.inj (hsame i hlo hhi)
      rw [hpair, hmode, middleSideChange, if_neg (not_not.mpr (hside.mpr hms)), hleft, hright]
    · exact hsame i hlo hhi

/-- **`III_stereo` treats every band once**, for channels that agree and a table of 576 lines. -/
theorem iiiStereo_reference {header : MadHeader} {si : SideInfo} {gr : ℕ} {sfbwidth : List ℕ}
    (hagree : badStereo si gr = false) (hext : header.modeExtension < 4)
    (hsum : sfbwidth.sum = 576) (xr : ℕ → ℕ → Fixed) :
    iiiStereo header si gr sfbwidth xr =
      (stereoReference header.flags.lsfExt header.modeExtension (stereoInfo si gr) sfbwidth xr,
        .none) := by
  rw [iiiStereo, if_neg (by rw [hagree]; decide)]
  congr 1
  funext ch i
  rw [stereoReference]
  by_cases hi : i < 576
  · have hband := stereoLines_band header.flags.lsfExt (stereoInfo si gr) xr hsum hext hi
    rw [if_neg (by omega), ← hband]
    split_ifs with hleft hright
    · rw [hleft]
    · rw [hright]
    · exact stereoLines_other hsum (by omega)
  · rw [if_pos (by omega)]
    exact stereoLines_other hsum (by omega)

/-- A mixed block of MPEG-1 with both bits of `mode_extension`, at 44100 Hz -/
theorem iiiStereo_reference_mixed :
    let header : MadHeader := { layer := 3, mode := 2, modeExtension := 3, samplerate := 44100 }
    let channel : Channel :=
      { blockType := 2, flags := mixedBlockFlag, scalefac := fun sfbi => sfbi % 8 }
    let si : SideInfo := { gr := fun _ _ => channel }
    let xr : ℕ → ℕ → Fixed := fun ch i => if ch = 0 ∨ i < 60 then BitVec.ofNat 32 (4096 * i) else 0
    iiiStereo header si 0 sfb44100Mixed xr =
      (stereoReference false 3 (stereoInfo si 0) sfb44100Mixed xr, .none) := by
  intro header channel si xr
  have hagree : badStereo si 0 = false := by decide
  have hext : header.modeExtension < 4 := by decide
  exact iiiStereo_reference hagree hext (by decide) xr

end Mp3Decoder
