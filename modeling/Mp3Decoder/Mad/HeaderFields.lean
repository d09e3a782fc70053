import Mp3Decoder.Mad.Header

/-!
# The fields of a header word

`headerAt mem f` reads the header at address `f` field by field off the bits of memory, and
`headerError mem f` is the first thing wrong with it.  `decode_header` computes exactly these
(`decodeHeader_spec`), apart from the two CRC words, which only protected frames set.
-/

namespace Mp3Decoder

open BigEndianBits

def headerField (mem : Mem) (f i n : ℕ) : ℕ := bitsVal mem (8 * f + i) n

def mpeg25At (mem : Mem) (f : ℕ) : Bool := headerField mem f 11 1 = 0

def lsfAt (mem : Mem) (f : ℕ) : Bool := headerField mem f 12 1 = 0

def layerAt (mem : Mem) (f : ℕ) : ℕ := 4 - headerField mem f 13 2

def protectionAt (mem : Mem) (f : ℕ) : Bool := headerField mem f 15 1 = 0

def headerError (mem : Mem) (f : ℕ) : MadError :=
  if !lsfAt mem f ∧ mpeg25At mem f then .lostsync
  else if layerAt mem f = 4 then .badlayer
  else if headerField mem f 16 4 = 15 then .badbitrate
  else if headerField mem f 20 2 = 3 then .badsamplerate
  else .none

/-- The header at `f`, without its CRC words. -/
def headerAt (mem : Mem) (f : ℕ) : MadHeader where
  layer := layerAt mem f
  mode := 3 - headerField mem f 24 2
  modeExtension := headerField mem f 26 2
  emphasis := headerField mem f 30 2
  bitrate := bitrateEntry (bitrateRow (lsfAt mem f) (layerAt mem f)) (headerField mem f 16 4)
  samplerate := samplerateOf (lsfAt mem f) (mpeg25At mem f) (headerField mem f 20 2)
  flags := {
    protection := protectionAt mem f
    copyright := headerField mem f 28 1 ≠ 0
    original := headerField mem f 29 1 ≠ 0
    padding := headerField mem f 22 1 ≠ 0
    lsfExt := lsfAt mem f
    mpeg25Ext := mpeg25At mem f }
  privateBits := if headerField mem f 23 1 ≠ 0 then madPrivateHeader else 0

/-- Two headers that differ at most in their CRC words. -/
def SameButCrc (h h' : MadHeader) : Prop :=
  h = { h' with crcCheck := h.crcCheck, crcTarget := h.crcTarget }

/-- The bit of the header at which `decode_header` gives up -/
def errorBit : MadError → ℕ
  | .lostsync => 13
  | .badlayer => 15
  | .badbitrate => 20
  | _ => 22

/-- The fields that `decode_header` has set when it comes to the padding bit -/
structure HeaderBegun (mem : Mem) (f : ℕ) (header : MadHeader) : Prop where
  layer : header.layer = layerAt mem f
  flags : header.flags = {
    protection := protectionAt mem f
    lsfExt := lsfAt mem f
    mpeg25Ext := mpeg25At mem f }
  bitrate : header.bitrate =
    bitrateEntry (bitrateRow (lsfAt mem f) (layerAt mem f)) (headerField mem f 16 4)
  samplerate : header.samplerate =
    samplerateOf (lsfAt mem f) (mpeg25At mem f) (headerField mem f 20 2)

theorem decodeHeaderRest_spec {mem : Mem} {ptr : MadBitptr} {f : ℕ} {header : MadHeader}
    (hptr : AtBit mem ptr (8 * f + 22)) (h : HeaderBegun mem f header) :
    ∃ header' ptr', decodeHeaderRest mem header ptr = (header', ptr') ∧
      SameButCrc header' (headerAt mem f) ∧
      AtBit mem ptr' (8 * f + 32 + if protectionAt mem f then 16 else 0) ∧ 0 < ptr'.left ∧
      header'.crcCheck = header.crcCheck ∧
      (protectionAt mem f = true →
        header'.crcTarget = UInt16.ofNat (bitsVal mem (8 * f + 32) 16)) := by
  simp only [decodeHeaderRest]
  have v22 : _ = headerField mem f 22 1 := hptr.read_value 1
  have p23 : AtBit mem _ (8 * f + 23) := (hptr.read 1).1
  generalize madBitRead mem ptr 1 = padding at *
  have v23 : _ = headerField mem f 23 1 := p23.read_value 1
  have p24 : AtBit mem _ (8 * f + 24) := (p23.read 1).1
  generalize madBitRead mem padding.2 1 = priv at *
  have v24 : _ = headerField mem f 24 2 := p24.read_value 2
  have p26 : AtBit mem _ (8 * f + 26) := (p24.read 2).1
  generalize madBitRead mem priv.2 2 = mode at *
  have v26 : _ = headerField mem f 26 2 := p26.read_value 2
  have p28 : AtBit mem _ (8 * f + 28) := (p26.read 2).1
  generalize madBitRead mem mode.2 2 = modeExtension at *
  have v28 : _ = headerField mem f 28 1 := p28.read_value 1
  have p29 : AtBit mem _ (8 * f + 29) := (p28.read 1).1
  generalize madBitRead mem modeExtension.2 1 = copyright at *
  have v29 : _ = headerField mem f 29 1 := p29.read_value 1
  have p30 : AtBit mem _ (8 * f + 30) := (p29.read 1).1
  generalize madBitRead mem copyright.2 1 = original at *
  have v30 : _ = headerField mem f 30 2 := p30.read_value 2
  have p32 : AtBit mem _ (8 * f + 32) ∧ _ := p30.read 2
  generalize madBitRead mem original.2 2 = emphasis at *
  rw [v22, v23, v24, v26, v28, v29, v30]
  have hprotection : header.flags.protection = protectionAt mem f := by rw [h.flags]
  by_cases hprot : protectionAt mem f = true
  · rw [if_pos (hprotection.trans hprot), if_pos hprot]
    refine ⟨_, _, rfl, ?_, (p32.1.read 16).1, (p32.1.read 16).2, rfl, fun _ => ?_⟩
    · rw [SameButCrc, headerAt, h.layer, h.flags, h.bitrate, h.samplerate]
    · rw [p32.1.read_value 16]
  · rw [if_neg (hprotection ▸ hprot), if_neg hprot]
    refine ⟨_, _, rfl, ?_, p32.1, p32.2, rfl, fun h => absurd h hprot⟩
    rw [SameButCrc, headerAt, h.layer, h.flags, h.bitrate, h.samplerate]

/-- The header behind the version bits -/
def versionFields (mem : Mem) (f : ℕ) (header : MadHeader) : MadHeader :=
  { header with
    flags := { lsfExt := lsfAt mem f, mpeg25Ext := mpeg25At mem f }
    privateBits := 0 }

/-- The header behind the protection bit, where `ptr` stands -/
def protectionFields (mem : Mem) (f : ℕ) (ptr : MadBitptr) (header : MadHeader) : MadHeader :=
  { versionFields mem f header with
    layer := layerAt mem f
    flags := {
      protection := protectionAt mem f
      lsfExt := lsfAt mem f
      mpeg25Ext := mpeg25At mem f }
    crcCheck := if protectionAt mem f then madBitCrc mem ptr 16 0xffff else header.crcCheck }

/-- The header behind the bit rate index -/
def bitrateFields (mem : Mem) (f : ℕ) (ptr : MadBitptr) (header : MadHeader) : MadHeader :=
  { protectionFields mem f ptr header with
    bitrate := bitrateEntry (bitrateRow (lsfAt mem f) (layerAt mem f)) (headerField mem f 16 4) }

/-- The header behind the sampling frequency -/
def samplerateFields (mem : Mem) (f : ℕ) (ptr : MadBitptr) (header : MadHeader) : MadHeader :=
  { bitrateFields mem f ptr header with
    samplerate := samplerateOf (lsfAt mem f) (mpeg25At mem f) (headerField mem f 20 2) }

theorem samplerateFields_begun (mem : Mem) (f : ℕ) (ptr : MadBitptr) (header : MadHeader) :
    HeaderBegun mem f (samplerateFields mem f ptr header) := ⟨rfl, rfl, rfl, rfl⟩

/-- The pointers of `decode_header` behind the fields that can be wrong, and at the bit rate index -/
structure HeaderPointers (mem : Mem) (f : ℕ) (version layer rates bitrate samplerate : MadBitptr) :
    Prop where
  version : AtBit mem version (8 * f + 13) ∧ 0 < version.left
  layer : AtBit mem layer (8 * f + 15) ∧ 0 < layer.left
  rates : AtBit mem rates (8 * f + 16)
  bitrate : AtBit mem bitrate (8 * f + 20) ∧ 0 < bitrate.left
  samplerate : AtBit mem samplerate (8 * f + 22) ∧ 0 < samplerate.left

/-- `decode_header` with the fields of the header word for what it reads -/
def headerSteps (mem : Mem) (f : ℕ) (header : MadHeader) (stream : MadStream)
    (version layer rates bitrate samplerate : MadBitptr) : Bool × MadHeader × MadStream :=
  if !lsfAt mem f ∧ mpeg25At mem f then
    (false, versionFields mem f header, { stream with ptr := version, error := .lostsync })
  else if layerAt mem f = 4 then
    (false, { versionFields mem f header with layer := layerAt mem f },
      { stream with ptr := layer, error := .badlayer })
  else if headerField mem f 16 4 = 15 then
    (false, protectionFields mem f rates header,
      { stream with ptr := bitrate, error := .badbitrate })
  else if headerField mem f 20 2 = 3 then
    (false, bitrateFields mem f rates header,
      { stream with ptr := samplerate, error := .badsamplerate })
  else
    let rest := decodeHeaderRest mem (samplerateFields mem f rates header) samplerate
    (true, rest.1, { stream with ptr := rest.2 })

theorem decodeHeader_steps {mem : Mem} {stream : MadStream} {f : ℕ}
    (hptr : AtBit mem stream.ptr (8 * f)) (header : MadHeader) :
    ∃ version layer rates bitrate samplerate,
      HeaderPointers mem f version layer rates bitrate samplerate ∧
      decodeHeader mem header stream =
        headerSteps mem f header stream version layer rates bitrate samplerate := by
  simp only [decodeHeader]
  have p11 : AtBit mem _ (8 * f + 11) := hptr.skip 11
  have v11 : _ = headerField mem f 11 1 := p11.read_value 1
  have p12 : AtBit mem _ (8 * f + 12) := (p11.read 1).1
  generalize madBitRead mem (madBitSkip mem stream.ptr 11) 1 = mpeg25 at *
  have v12 : _ = headerField mem f 12 1 := p12.read_value 1
  have p13 : AtBit mem _ (8 * f + 13) ∧ _ := p12.read 1
  generalize madBitRead mem mpeg25.2 1 = id at *
  have v13 : _ = headerField mem f 13 2 := p13.1.read_value 2
  have p15 : AtBit mem _ (8 * f + 15) ∧ _ := p13.1.read 2
  generalize madBitRead mem id.2 2 = layer at *
  have v15 : _ = headerField mem f 15 1 := p15.1.read_value 1
  have p16 : AtBit mem _ (8 * f + 16) := (p15.1.read 1).1
  generalize madBitRead mem layer.2 1 = protection at *
  have v16 : _ = headerField mem f 16 4 := p16.read_value 4
  have p20 : AtBit mem _ (8 * f + 20) ∧ _ := p16.read 4
  generalize madBitRead mem protection.2 4 = bitrate at *
  have v20 : _ = headerField mem f 20 2 := p20.1.read_value 2
  have p22 : AtBit mem _ (8 * f + 22) ∧ _ := p20.1.read 2
  generalize madBitRead mem bitrate.2 2 = samplerate at *
  refine ⟨id.2, layer.2, protection.2, bitrate.2, samplerate.2, ⟨p13, p15, p16, p20, p22⟩, ?_⟩
  have hversion : (!decide (id.1 = 0)) = true ↔ id.1 ≠ 0 := by simp
  simp only [headerSteps, samplerateFields, bitrateFields, protectionFields, versionFields, layerAt,
    lsfAt, mpeg25At, protectionAt, ← v11, ← v12, ← v13, ← v15, ← v16, ← v20, hversion,
    decide_eq_true_iff]
  by_cases hprot : protection.1 = 0
  · simp only [if_pos hprot, decide_eq_true hprot]
  · simp only [if_neg hprot, decide_eq_false hprot]

/-- **`decode_header` reads the header word.**  From a pointer at byte `f` it fails with
`headerError mem f`, behind the field that is wrong, or succeeds with the fields of the word and
leaves the pointer behind it, or behind its CRC word. -/
theorem decodeHeader_spec {mem : Mem} {stream : MadStream} {f : ℕ}
    (hptr : AtBit mem stream.ptr (8 * f)) (header : MadHeader) :
    (headerError mem f ≠ .none → ∃ header' ptr', decodeHeader mem header stream =
        (false, header', { stream with ptr := ptr', error := headerError mem f }) ∧
      header'.flags.incomplete = false ∧
      AtBit mem ptr' (8 * f + errorBit (headerError mem f)) ∧ 0 < ptr'.left) ∧
    (headerError mem f = .none → ∃ header' ptr', decodeHeader mem header stream =
        (true, header', { stream with ptr := ptr' }) ∧
      SameButCrc header' (headerAt mem f) ∧
      AtBit mem ptr' (8 * f + 32 + if protectionAt mem f then 16 else 0) ∧ 0 < ptr'.left ∧
      (protectionAt mem f = true → ∃ ptr, AtBit mem ptr (8 * f + 16) ∧
        header'.crcCheck = madBitCrc mem ptr 16 0xffff ∧
        header'.crcTarget = UInt16.ofNat (bitsVal mem (8 * f + 32) 16))) := by
  obtain ⟨version, layer, rates, bitrate, samplerate, hpointers, hsteps⟩ :=
    decodeHeader_steps hptr header
  rw [hsteps, headerSteps, headerError]
  constructor
  · split_ifs
    · exact fun _ => ⟨_, version, rfl, rfl, hpointers.version⟩
    · exact fun _ => ⟨_, layer, rfl, rfl, hpointers.layer⟩
    · exact fun _ => ⟨_, bitrate, rfl, rfl, hpointers.bitrate⟩
    · exact fun _ => ⟨_, samplerate, rfl, rfl, hpointers.samplerate⟩
    · exact fun hnone => absurd rfl hnone
  · intro hok
    split_ifs at hok with hversion hlayer hbitrate hsamplerate
    obtain ⟨header', ptr', hrest, hsame, hend, hleft, hcheck, htarget⟩ :=
      decodeHeaderRest_spec hpointers.samplerate.1 (samplerateFields_begun mem f rates header)
    rw [if_neg hversion, if_neg hlayer, if_neg hbitrate, if_neg hsamplerate, hrest]
    refine ⟨header', ptr', rfl, hsame, hend, hleft, fun hprot => ?_⟩
    exact ⟨rates, hpointers.rates, hcheck.trans (if_pos hprot), htarget hprot⟩

theorem decodeHeader_eq {mem : Mem} {stream : MadStream} {f : ℕ}
    (hptr : AtBit mem stream.ptr (8 * f)) (header : MadHeader) :
    (headerError mem f ≠ .none → ∃ header' ptr', decodeHeader mem header stream =
        (false, header', { stream with ptr := ptr', error := headerError mem f }) ∧
      header'.flags.incomplete = false) ∧
      (headerError mem f = .none → ∃ header' ptr', decodeHeader mem header stream =
          (true, header', { stream with ptr := ptr' }) ∧
        SameButCrc header' (headerAt mem f) ∧
        AtBit mem ptr' (8 * f + 32 + if protectionAt mem f then 16 else 0) ∧ 0 < ptr'.left) := by
  obtain ⟨hbad, hgood⟩ := decodeHeader_spec hptr header
  constructor
  · intro herror
    obtain ⟨header', ptr', hdecode, hincomplete, -⟩ := hbad herror
    exact ⟨header', ptr', hdecode, hincomplete⟩
  · intro herror
    obtain ⟨header', ptr', hdecode, hsame, hend, hleft, -⟩ := hgood herror
    exact ⟨header', ptr', hdecode, hsame, hend, hleft⟩

/-! ### Bounds of what a header without an error says -/

theorem samplerateOf_bounds (lsf mpeg25 : Bool) (h : mpeg25 → lsf) : ∀ freq < 3,
    0 < samplerateOf lsf mpeg25 freq ∧
      samplerateOf lsf mpeg25 freq ≤ if lsf then 24000 else 48000 := by
  match lsf, mpeg25, h with
  | false, false, _ => decide
  | true, false, _ => decide
  | true, true, _ => decide
  | false, true, h => exact absurd (h rfl) Bool.false_ne_true

theorem headerError_fields {mem : Mem} {f : ℕ} (hok : headerError mem f = .none) :
    (mpeg25At mem f = true → lsfAt mem f = true) ∧ headerField mem f 20 2 < 3 := by
  have hfreq := bitsVal_lt mem (8 * f + 20) 2
  rw [headerError] at hok
  split_ifs at hok with hmpeg25 _ _ hfreq3
  refine ⟨fun h25 => ?_, ?_⟩
  · by_contra hlsf
    exact hmpeg25 ⟨by simpa using hlsf, h25⟩
  · rw [headerField] at hfreq3 ⊢
    omega

/-- The sample rate is below that of a frame of 1 kbit/s and one byte. -/
theorem samplerate_bounds {mem : Mem} {f : ℕ} (hok : headerError mem f = .none) :
    0 < (headerAt mem f).samplerate ∧
      (headerAt mem f).samplerate < slotsPerFrame (headerAt mem f) * 1000 ∧
      slotsPerFrame (headerAt mem f) ≤ 144 ∧ (headerAt mem f).samplerate ≤ 48000 := by
  obtain ⟨hversion, hfreq⟩ := headerError_fields hok
  obtain ⟨hpos, hle⟩ := samplerateOf_bounds (lsfAt mem f) (mpeg25At mem f) hversion _ hfreq
  show 0 < samplerateOf (lsfAt mem f) (mpeg25At mem f) (headerField mem f 20 2) ∧
    samplerateOf (lsfAt mem f) (mpeg25At mem f) (headerField mem f 20 2) <
      (if layerAt mem f = 3 ∧ lsfAt mem f = true then 72 else 144) * 1000 ∧
    (if layerAt mem f = 3 ∧ lsfAt mem f = true then 72 else 144) ≤ 144 ∧
    samplerateOf (lsfAt mem f) (mpeg25At mem f) (headerField mem f 20 2) ≤ 48000
  refine ⟨hpos, ?_, ?_, ?_⟩
  · by_cases hslots : layerAt mem f = 3 ∧ lsfAt mem f = true
    · rw [if_pos hslots]
      rw [if_pos hslots.2] at hle
      omega
    · rw [if_neg hslots]
      split_ifs at hle <;> omega
  · split_ifs <;> decide
  · split_ifs at hle <;> omega

end Mp3Decoder
