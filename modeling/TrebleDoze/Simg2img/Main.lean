import TrebleDoze.Simg2img.Format
import TrebleDoze.Simg2img.SendFile

/-!
# `main` of `simg2img_simple`

The program from the header to the last chunk, and what an input that it accepts says of the output.

* `handleChunk_ok`: what a chunk that is accepted takes and writes;
* `chunkLoop_ok`: what all of them do;
* `main_faithful_iff`: when an accepted input is expanded faithfully.
-/

namespace TrebleDoze.Simg2img

open Lib

section

variable (K : Kernel)

/-! ### The program -/

/-- `if(read(0, &x, sizeof(x)) != sizeof(x)) exit(code)`, with the bytes of `x`. -/
def readStruct (size code : ℕ) : Proc (List UInt8) := do
  let bytes ← sysRead K.header size
  exitIf (bytes.map List.length ≠ some size) code
  pure (bytes.getD [])

/-- `for(unsigned i=0; i<n; i++) if(write(1, block, size) != size) exit(code)`, for a block of that
size. -/
def writeBlocks (block : List UInt8) (code : ℕ) : ℕ → Proc Unit
  | 0 => pure ()
  | n + 1 => do
    let written ← sysWrite K block
    exitIf (written ≠ some block.length) code
    writeBlocks block code n

variable (hdr : SparseHeader)

/-- The branch of `CHUNK_TYPE_RAW`: both products are of two `uint32_t`, the sum is of a `size_t`. -/
def handleRaw (chunk : ChunkHeader) : Proc Unit := do
  exitIf (chunk.totalSz.toNat ≠ sizeofChunkHeader + (chunk.chunkSz * hdr.blkSz).toNat) 7
  nsendfile K (hdr.blkSz * chunk.chunkSz).toNat

/-- The branch of `CHUNK_TYPE_FILL`. -/
def handleFill (chunk : ChunkHeader) : Proc Unit := do
  exitIf (chunk.totalSz.toNat ≠ 4 + sizeofChunkHeader) 7
  let fill ← readStruct K 4 5
  exitIf (leNat fill ≠ 0) 6
  writeBlocks K (List.replicate hdr.blkSz.toNat (.ofNat (leNat fill))) 8 chunk.chunkSz.toNat

/-- The branch of `CHUNK_TYPE_DONT_CARE`. -/
def handleDontCare (chunk : ChunkHeader) : Proc Unit := do
  exitIf (chunk.totalSz.toNat ≠ sizeofChunkHeader) 9
  writeBlocks K (List.replicate hdr.blkSz.toNat 0) 10 chunk.chunkSz.toNat

/-- The branch of `CHUNK_TYPE_CRC32`. -/
def handleCrc32 (chunk : ChunkHeader) : Proc Unit := do
  exitIf (chunk.totalSz.toNat ≠ 4 + sizeofChunkHeader) 7
  let _ ← readStruct K 4 5

/-- What is done behind a chunk header, by its type. -/
def handleType (chunk : ChunkHeader) : Proc Unit :=
  if chunk.chunkType = chunkTypeRaw then handleRaw K hdr chunk
  else if chunk.chunkType = chunkTypeFill then handleFill K hdr chunk
  else if chunk.chunkType = chunkTypeDontCare then handleDontCare K hdr chunk
  else if chunk.chunkType = chunkTypeCrc32 then handleCrc32 K chunk
  else throw 4

/-- The body of the loop over the chunks. -/
def handleChunk : Proc Unit := do
  let bytes ← readStruct K sizeofChunkHeader 3
  handleType K hdr (ChunkHeader.ofBytes bytes)

/-- The loop over the chunks. -/
def chunkLoop : ℕ → Proc Unit
  | 0 => pure ()
  | n + 1 => do
    handleChunk K hdr
    chunkLoop n

/-- The checks of the header. -/
def checkHeader : Proc Unit := do
  exitIf (hdr.magic ≠ sparseHeaderMagic) 2
  exitIf (hdr.blkSz ≠ 4096) 6
  exitIf (hdr.majorVersion ≠ 1) 11
  exitIf (hdr.minorVersion ≠ 0) 12
  exitIf (hdr.fileHdrSz ≠ 28) 13
  exitIf (hdr.chunkHdrSz ≠ 12) 14

/-- `main`. -/
def main : Proc ℕ := do
  let bytes ← readStruct K sizeofSparseHeader 1
  let hdr := SparseHeader.ofBytes bytes
  checkHeader hdr
  chunkLoop K hdr hdr.totalChunks.toNat
  pure 0

end

/-- The state in which `main` is called. -/
def Os.initial (input : List UInt8) : Os := ⟨⟨input, []⟩, 0, false⟩

/-! ### Reads and writes -/

section

variable {K : Kernel} {size code n : ℕ} {bytes block : List UInt8} {os os' : Os}

theorem readStruct_of_moved
    (hmoved : (K.header os.calls).moved (min size os.files.input.length) = some size) :
    readStruct K size code os = .ok (os.files.input.take size)
      { os with files := os.files.skip size, calls := os.calls + 1 } := by
  have hsize := Answer.moved_le hmoved
  have hlen : (os.files.input.take size).length = size := by
    rw [List.length_take]
    omega
  rw [readStruct, bind_of_ok (sysRead_eq K.header hmoved), bind_of_ok (exitIf_of_not (by simp [hlen]))]
  rfl

theorem readStruct_moved (h : readStruct K size code os = .ok bytes os') :
    (K.header os.calls).moved (min size os.files.input.length) = some size := by
  obtain ⟨read, os₁, hread, hrest⟩ := bind_ok h
  obtain ⟨_, os₂, hexit, -⟩ := bind_ok hrest
  obtain ⟨hall, -⟩ := exitIf_ok hexit
  replace hall := not_not.1 hall
  cases hmoved : (K.header os.calls).moved (min size os.files.input.length) with
  | none =>
    simp only [sysRead, hmoved, Option.map_none, EStateM.Result.ok.injEq] at hread
    rw [← hread.1, Option.map_none] at hall
    exact absurd hall.symm (Option.some_ne_none _)
  | some n =>
    have hn := Answer.moved_le hmoved
    simp only [sysRead_eq K.header hmoved, EStateM.Result.ok.injEq] at hread
    rw [← hread.1, Option.map_some, Option.some.injEq, List.length_take] at hall
    have hsize : n = size := by omega
    rw [hsize]

theorem readStruct_ok (h : readStruct K size code os = .ok bytes os') :
    size ≤ os.files.input.length ∧ bytes = os.files.input.take size ∧
      os'.files = os.files.skip size := by
  have hmoved := readStruct_moved h
  have hsize := Answer.moved_le hmoved
  rw [readStruct_of_moved hmoved] at h
  simp only [EStateM.Result.ok.injEq] at h
  refine ⟨by omega, h.1.symm, ?_⟩
  rw [← h.2]

theorem readStruct_of_all (hheader : ∀ i, K.header i = .all) (hsize : size ≤ os.files.input.length) :
    readStruct K size code os = .ok (os.files.input.take size)
      { os with files := os.files.skip size, calls := os.calls + 1 } :=
  readStruct_of_moved (by rw [hheader, Answer.moved, Nat.min_eq_left hsize])

theorem writeBlocks_ok (h : writeBlocks K block code n os = .ok () os') :
    os'.files = os.files.append (List.replicate n block).flatten := by
  induction n generalizing os with
  | zero =>
    obtain ⟨-, rfl⟩ := pure_ok h
    simp [Files.append]
  | succ n ih =>
    obtain ⟨written, os₁, hwrite, hrest⟩ := bind_ok h
    obtain ⟨_, os₂, hexit, hrun⟩ := bind_ok hrest
    obtain ⟨hall, hos₂⟩ := exitIf_ok hexit
    replace hall := not_not.1 hall
    simp only [sysWrite, EStateM.Result.ok.injEq] at hwrite
    rw [hall] at hwrite
    rw [ih hrun, hos₂, ← hwrite.2, hwrite.1, Option.getD_some, List.take_length, List.replicate_succ,
      List.flatten_cons]
    simp only [Files.append, List.append_assoc]

theorem writeBlocks_of_all (hwrite : ∀ i, K.write i = .all) :
    ∃ os', writeBlocks K block code n os = .ok () os' := by
  induction n generalizing os with
  | zero => exact ⟨os, rfl⟩
  | succ n ih =>
    have hmoved : (K.write os.calls).moved block.length = some block.length := by
      rw [hwrite, Answer.moved]
    obtain ⟨os', hrun⟩ := @ih { os with
      files := os.files.append (block.take block.length), calls := os.calls + 1 }
    refine ⟨os', ?_⟩
    rw [writeBlocks, bind_of_ok (sysWrite_eq hmoved), bind_of_ok (exitIf_of_not (not_not.2 rfl)), hrun]

/-! ### The chunks -/

variable {hdr : SparseHeader} {chunk : ChunkHeader}

/-- The bytes that the program writes for a chunk. -/
def ChunkHeader.written (blkSz : UInt32) (chunk : ChunkHeader) : ℕ :=
  if chunk.chunkType = chunkTypeRaw then (blkSz * chunk.chunkSz).toNat
  else if chunk.HasBlocks then blkSz.toNat * chunk.chunkSz.toNat
  else 0

/-- What the program has checked of a raw chunk: the size, against the product of two `uint32_t`. -/
def ChunkHeader.SizeChecked (blkSz : UInt32) (chunk : ChunkHeader) : Prop :=
  chunk.chunkType = chunkTypeRaw →
    chunk.totalSz.toNat = sizeofChunkHeader + (chunk.chunkSz * blkSz).toNat

theorem handleRaw_ok (h : handleRaw K hdr chunk os = .ok () os') :
    chunk.totalSz.toNat = sizeofChunkHeader + (chunk.chunkSz * hdr.blkSz).toNat ∧
      (hdr.blkSz * chunk.chunkSz).toNat ≤ os.files.input.length ∧
      os'.files = os.files.copy (hdr.blkSz * chunk.chunkSz).toNat := by
  obtain ⟨_, os₁, hexit, hcopy⟩ := bind_ok h
  obtain ⟨hsize, rfl⟩ := exitIf_ok hexit
  exact ⟨not_not.1 hsize, nsendfile_ok _ _ _ hcopy⟩

/-- The output of `n` blocks of zeros. -/
def zeroBlocks (blkSz n : ℕ) : List UInt8 := (List.replicate n (List.replicate blkSz 0)).flatten

theorem length_zeroBlocks (blkSz n : ℕ) : (zeroBlocks blkSz n).length = blkSz * n := by
  simp [zeroBlocks, Nat.mul_comm]

theorem handleFill_ok (h : handleFill K hdr chunk os = .ok () os') :
    os'.files = (os.files.skip 4).append (zeroBlocks hdr.blkSz.toNat chunk.chunkSz.toNat) := by
  obtain ⟨_, os₁, hexit, hrest⟩ := bind_ok h
  obtain ⟨fill, os₂, hread, hrest⟩ := bind_ok hrest
  obtain ⟨_, os₃, hzero, hwrite⟩ := bind_ok hrest
  have hos₁ := (exitIf_ok hexit).2
  have hos₂ := (readStruct_ok hread).2.2
  obtain ⟨hfill, hos₃⟩ := exitIf_ok hzero
  rw [writeBlocks_ok hwrite, hos₃, hos₂, hos₁, not_not.1 hfill]
  rfl

theorem handleDontCare_ok (h : handleDontCare K hdr chunk os = .ok () os') :
    os'.files = os.files.append (zeroBlocks hdr.blkSz.toNat chunk.chunkSz.toNat) := by
  obtain ⟨_, os₁, hexit, hwrite⟩ := bind_ok h
  have hos₁ := (exitIf_ok hexit).2
  rw [writeBlocks_ok hwrite, hos₁]
  rfl

theorem handleCrc32_ok (h : handleCrc32 K chunk os = .ok () os') : os'.files = os.files.skip 4 := by
  obtain ⟨_, os₁, hexit, hrest⟩ := bind_ok h
  obtain ⟨_, os₂, hread, hpure⟩ := bind_ok hrest
  have hos₁ := (exitIf_ok hexit).2
  have hos₂ := (readStruct_ok hread).2.2
  rw [(pure_ok hpure).2, hos₂, hos₁]

/-- What has been done for an accepted chunk whose header stood before `files`. -/
structure Expanded (blkSz : UInt32) (chunk : ChunkHeader) (files files' : Files) : Prop where
  sizeChecked : chunk.SizeChecked blkSz
  input_eq : files'.input = files.input.drop (chunk.payload blkSz)
  length_eq : files'.output.length = files.output.length + chunk.written blkSz

/-- An accepted chunk is expanded: the four kinds, each by what its branch does. -/
theorem handleType_ok (h : handleType K hdr chunk os = .ok () os') :
    Expanded hdr.blkSz chunk os.files os'.files := by
  unfold handleType at h
  by_cases hraw : chunk.chunkType = chunkTypeRaw
  · rw [if_pos hraw] at h
    obtain ⟨hsize, hlen, hcopy⟩ := handleRaw_ok h
    have hpayload : chunk.payload hdr.blkSz = (hdr.blkSz * chunk.chunkSz).toNat := if_pos hraw
    have hwritten : chunk.written hdr.blkSz = (hdr.blkSz * chunk.chunkSz).toNat := if_pos hraw
    refine ⟨fun _ => hsize, by rw [hcopy, hpayload]; rfl, ?_⟩
    rw [hcopy, hwritten, Files.length_output_copy hlen]
  rw [if_neg hraw] at h
  have hchecked : chunk.SizeChecked hdr.blkSz := fun hc => absurd hc hraw
  by_cases hfill : chunk.chunkType = chunkTypeFill
  · rw [if_pos hfill] at h
    have hrun := handleFill_ok h
    have hpayload : chunk.payload hdr.blkSz = 4 := by
      rw [ChunkHeader.payload, if_neg hraw, if_pos (.inl hfill)]
    have hwritten : chunk.written hdr.blkSz = hdr.blkSz.toNat * chunk.chunkSz.toNat := by
      rw [ChunkHeader.written, if_neg hraw, if_pos (.inr (.inl hfill))]
    refine ⟨hchecked, by rw [hrun, hpayload]; rfl, ?_⟩
    rw [hrun, hwritten, Files.length_output_append, length_zeroBlocks]
    rfl
  rw [if_neg hfill] at h
  by_cases hdont : chunk.chunkType = chunkTypeDontCare
  · rw [if_pos hdont] at h
    have hrun := handleDontCare_ok h
    have hpayload : chunk.payload hdr.blkSz = 0 := by
      rw [ChunkHeader.payload, if_neg hraw, if_neg (by rw [hdont]; decide)]
    have hwritten : chunk.written hdr.blkSz = hdr.blkSz.toNat * chunk.chunkSz.toNat := by
      rw [ChunkHeader.written, if_neg hraw, if_pos (.inr (.inr hdont))]
    refine ⟨hchecked, by rw [hrun, hpayload]; rfl, ?_⟩
    rw [hrun, hwritten, Files.length_output_append, length_zeroBlocks]
  rw [if_neg hdont] at h
  by_cases hcrc : chunk.chunkType = chunkTypeCrc32
  · rw [if_pos hcrc] at h
    have hrun := handleCrc32_ok h
    have hpayload : chunk.payload hdr.blkSz = 4 := by
      rw [ChunkHeader.payload, if_neg hraw, if_pos (.inr hcrc)]
    have hwritten : chunk.written hdr.blkSz = 0 := by
      rw [ChunkHeader.written, if_neg hraw, if_neg]
      rintro (hc | hc | hc)
      · exact hraw hc
      · exact hfill hc
      · exact hdont hc
    refine ⟨hchecked, by rw [hrun, hpayload]; rfl, ?_⟩
    rw [hrun, hwritten]
    rfl
  · rw [if_neg hcrc] at h
    exact absurd h throw_ne_ok

theorem handleChunk_ok (h : handleChunk K hdr os = .ok () os') :
    Expanded hdr.blkSz (ChunkHeader.ofBytes (os.files.input.take sizeofChunkHeader))
      (os.files.skip sizeofChunkHeader) os'.files := by
  obtain ⟨bytes, os₁, hread, hrest⟩ := bind_ok h
  obtain ⟨-, hbytes, hfiles⟩ := readStruct_ok hread
  rw [← hfiles, ← hbytes]
  exact handleType_ok hrest

/-- The chunks of an accepted input: every size has been checked, and the output grows by what is
written for each. -/
theorem chunkLoop_ok (h : chunkLoop K hdr n os = .ok () os') :
    (∀ chunk ∈ chunkHeaders hdr.blkSz n os.files.input, chunk.SizeChecked hdr.blkSz) ∧
      os'.files.output.length = os.files.output.length +
        ((chunkHeaders hdr.blkSz n os.files.input).map (·.written hdr.blkSz)).sum := by
  induction n generalizing os with
  | zero =>
    obtain ⟨-, rfl⟩ := pure_ok h
    simp [chunkHeaders]
  | succ n ih =>
    obtain ⟨_, os₁, hchunk, hrest⟩ := bind_ok h
    obtain ⟨hsize, hinput, hlength⟩ := handleChunk_ok hchunk
    obtain ⟨hsizes, hlengths⟩ := ih hrest
    have htail : os₁.files.input = os.files.input.drop (sizeofChunkHeader +
        (ChunkHeader.ofBytes (os.files.input.take sizeofChunkHeader)).payload hdr.blkSz) := by
      rw [hinput]
      exact List.drop_drop ..
    rw [htail] at hsizes hlengths
    refine ⟨List.forall_mem_cons.2 ⟨hsize, hsizes⟩, ?_⟩
    rw [hlengths, hlength, chunkHeaders, List.map_cons, List.sum_cons]
    show os.files.output.length + _ + _ = _
    omega

theorem checkHeader_ok (h : checkHeader hdr os = .ok () os') : hdr.blkSz = 4096 ∧ os' = os := by
  obtain ⟨_, os₁, hmagic, hrest⟩ := bind_ok h
  obtain ⟨_, os₂, hblk, hrest⟩ := bind_ok hrest
  obtain ⟨_, os₃, hmajor, hrest⟩ := bind_ok hrest
  obtain ⟨_, os₄, hminor, hrest⟩ := bind_ok hrest
  obtain ⟨_, os₅, hfile, hchunk⟩ := bind_ok hrest
  refine ⟨not_not.1 (exitIf_ok hblk).1, ?_⟩
  rw [(exitIf_ok hchunk).2, (exitIf_ok hfile).2, (exitIf_ok hminor).2, (exitIf_ok hmajor).2,
    (exitIf_ok hblk).2, (exitIf_ok hmagic).2]

/-- An accepted input: the sizes have been checked, and the output is what is written for its chunks. -/
theorem main_ok {input : List UInt8} {r : ℕ} (h : main K (Os.initial input) = .ok r os) :
    (∀ chunk ∈ chunksOf input, chunk.SizeChecked 4096) ∧
      os.files.output.length = ((chunksOf input).map (·.written 4096)).sum := by
  obtain ⟨bytes, os₁, hread, hrest⟩ := bind_ok h
  obtain ⟨_, os₂, hcheck, hrest⟩ := bind_ok hrest
  obtain ⟨_, os₃, hloop, hpure⟩ := bind_ok hrest
  obtain ⟨-, hbytes, hfiles⟩ := readStruct_ok hread
  obtain ⟨hblk, hos₂⟩ := checkHeader_ok hcheck
  obtain ⟨hsizes, hlength⟩ := chunkLoop_ok hloop
  rw [hos₂, hfiles, hblk, hbytes] at hsizes hlength
  have hchunks : chunksOf input = chunkHeaders 4096
      (SparseHeader.ofBytes (input.take sizeofSparseHeader)).totalChunks.toNat
      (input.drop sizeofSparseHeader) := by
    rw [chunksOf, ← hblk, hbytes]
    rfl
  rw [hchunks, (pure_ok hpure).2]
  refine ⟨hsizes, hlength.trans ?_⟩
  simp [Files.skip, Os.initial]

end

/-! ### When an accepted input is expanded faithfully -/

section

variable {chunk : ChunkHeader} {chunks : List ChunkHeader}

/-- The product with the block size does not wrap around below 2^20 blocks. -/
theorem toNat_blkSz_mul (h : chunk.chunkSz.toNat < 2 ^ 20) :
    (4096 * chunk.chunkSz).toNat = 4096 * chunk.chunkSz.toNat := by
  rw [UInt32.toNat_mul]
  show 4096 * chunk.chunkSz.toNat % 2 ^ 32 = _
  omega

theorem written_eq (h : chunk.chunkType = chunkTypeRaw → chunk.chunkSz.toNat < 2 ^ 20) :
    chunk.written 4096 = if chunk.HasBlocks then 4096 * chunk.chunkSz.toNat else 0 := by
  by_cases hraw : chunk.chunkType = chunkTypeRaw
  · rw [ChunkHeader.written, if_pos hraw, toNat_blkSz_mul (h hraw), if_pos (.inl hraw)]
  · rw [ChunkHeader.written, if_neg hraw]
    rfl

theorem blockCount_cons : blockCount (chunk :: chunks) =
    (if chunk.HasBlocks then chunk.chunkSz.toNat else 0) + blockCount chunks := by
  by_cases h : chunk.HasBlocks <;> simp [blockCount, h]

theorem sum_written
    (h : ∀ chunk ∈ chunks, chunk.chunkType = chunkTypeRaw → chunk.chunkSz.toNat < 2 ^ 20) :
    (chunks.map (·.written 4096)).sum = 4096 * blockCount chunks := by
  induction chunks with
  | nil => rfl
  | cons chunk chunks ih =>
    obtain ⟨hchunk, hrest⟩ := List.forall_mem_cons.1 h
    rw [List.map_cons, List.sum_cons, written_eq hchunk, ih hrest, blockCount_cons]
    split <;> omega

/-- An input that is accepted is expanded faithfully iff no raw chunk has 2^20 blocks or more: from
there on the product that its size is checked against has wrapped around, so that no `total_sz` that
passes can be the true one. -/
theorem main_faithful_iff (K : Kernel) (input : List UInt8) (os : Os)
    (h : main K (Os.initial input) = .ok 0 os) :
    Faithful (chunksOf input) os.files.output ↔
      ∀ chunk ∈ chunksOf input, chunk.chunkType = chunkTypeRaw → chunk.chunkSz.toNat < 2 ^ 20 := by
  obtain ⟨hsizes, hlength⟩ := main_ok h
  constructor
  · intro hfaithful chunk hmem hraw
    have hexact := hfaithful.totalSz_eq chunk hmem hraw
    have hlt := chunk.totalSz.toNat_lt
    unfold sizeofChunkHeader at hexact
    omega
  · intro hsmall
    refine ⟨fun chunk hmem hraw => ?_, hlength.trans (sum_written hsmall)⟩
    rw [hsizes chunk hmem hraw, UInt32.mul_comm, toNat_blkSz_mul (hsmall chunk hmem hraw)]

/-- An image of a raw chunk of one block and of one block that is not stored. -/
def sparseInput : List UInt8 :=
  (SparseHeader.mk sparseHeaderMagic 1 0 28 12 4096 2 2 0).toBytes ++
    (ChunkHeader.mk chunkTypeRaw 0 1 4108).toBytes ++ List.replicate 4096 7 ++
      (ChunkHeader.mk chunkTypeDontCare 0 1 12).toBytes

set_option maxRecDepth 20000 in
theorem main_faithful_sparseInput :
    Faithful (chunksOf sparseInput) (List.replicate 4096 7 ++ List.replicate 4096 0) ↔
      ∀ chunk ∈ chunksOf sparseInput,
        chunk.chunkType = chunkTypeRaw → chunk.chunkSz.toNat < 2 ^ 20 :=
  main_faithful_iff .eager sparseInput ⟨⟨[], List.replicate 4096 7 ++ List.replicate 4096 0⟩, 5, false⟩
    (by decide +kernel)

/-- An image of one raw chunk of 2^20 blocks, that is of 4 GiB, of which none is there. -/
def wrappedInput : List UInt8 :=
  (SparseHeader.mk sparseHeaderMagic 1 0 28 12 4096 0x100000 1 0).toBytes ++
    (ChunkHeader.mk chunkTypeRaw 0 0x100000 12).toBytes

theorem main_unfaithful_wrappedInput : ¬ ∀ (K : Kernel) (input : List UInt8) (os : Os),
    main K (Os.initial input) = .ok 0 os → Faithful (chunksOf input) os.files.output := by
  intro h
  have hrun : main .eager (Os.initial wrappedInput) = .ok 0 ⟨⟨[], []⟩, 2, false⟩ := by decide +kernel
  have hlength := (h _ _ _ hrun).length_eq
  have hblocks : blockCount (chunksOf wrappedInput) = 2 ^ 20 := by decide +kernel
  rw [hblocks] at hlength
  exact absurd hlength (by decide)

end

end TrebleDoze.Simg2img
