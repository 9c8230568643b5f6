import TrebleDoze.Simg2img.Main

/-!
# The number of blocks in the header

The field `total_blks` of the header is read with the others and compared with nothing.

* `headerOf_setTotalBlks`: another number of blocks changes that field only;
* `chunkLoop_totalBlks`: the loop over the chunks does not depend on it;
* `main_blocks`: an accepted input is accepted with any number in the field.
-/

namespace TrebleDoze.Simg2img

open Lib

/-! ### The field -/

/-- The input with another number in the field `total_blks` of its header. -/
def setTotalBlks (totalBlks : UInt32) (input : List UInt8) : List UInt8 :=
  leSetField 16 4 totalBlks.toNat input

/-- The header of an input. -/
def headerOf (input : List UInt8) : SparseHeader :=
  SparseHeader.ofBytes (input.take sizeofSparseHeader)

section

variable {totalBlks : UInt32} {input : List UInt8} (hlen : sizeofSparseHeader ≤ input.length)

include hlen

theorem length_setTotalBlks : (setTotalBlks totalBlks input).length = input.length :=
  length_leSetField (le_trans (by decide) hlen)

theorem drop_setTotalBlks :
    (setTotalBlks totalBlks input).drop sizeofSparseHeader = input.drop sizeofSparseHeader :=
  drop_leSetField (le_trans (by decide) hlen) (by decide)

theorem leField_setTotalBlks {off w : ℕ} (hw : off + w ≤ sizeofSparseHeader)
    (h : off + w ≤ 16 ∨ 20 ≤ off) :
    leField off w ((setTotalBlks totalBlks input).take sizeofSparseHeader) =
      leField off w (input.take sizeofSparseHeader) := by
  rw [leField_take hw, leField_take hw]
  exact leField_leSetField_of_disjoint (le_trans (by decide) hlen) h

theorem headerOf_setTotalBlks :
    headerOf (setTotalBlks totalBlks input) = { headerOf input with totalBlks := totalBlks } := by
  have hset : leField 16 4 ((setTotalBlks totalBlks input).take sizeofSparseHeader) =
      totalBlks.toNat := by
    rw [leField_take (by decide)]
    exact leField_leSetField (le_trans (by decide) hlen) totalBlks.toNat_lt
  simp only [headerOf, SparseHeader.ofBytes, SparseHeader.mk.injEq]
  refine ⟨?_, ?_, ?_, ?_, ?_, ?_, ?_, ?_, ?_⟩
  case refine_7 => rw [hset, UInt32.ofNat_toNat]
  all_goals rw [leField_setTotalBlks hlen (by decide) (by decide)]

theorem chunksOf_setTotalBlks : chunksOf (setTotalBlks totalBlks input) = chunksOf input := by
  show chunkHeaders (headerOf _).blkSz (headerOf _).totalChunks.toNat _ = _
  rw [headerOf_setTotalBlks hlen, drop_setTotalBlks hlen]
  rfl

end

/-! ### The program -/

section

variable {K : Kernel} {hdr : SparseHeader} {input : List UInt8} {os : Os} {r : ℕ}

theorem chunkLoop_totalBlks (totalBlks : UInt32) (n : ℕ) :
    chunkLoop K { hdr with totalBlks := totalBlks } n = chunkLoop K hdr n := by
  induction n with
  | zero => rfl
  | succ n ih =>
    rw [chunkLoop, ih]
    rfl

lemma main_of_moved
    (hmoved : (K.header 0).moved (min sizeofSparseHeader input.length) = some sizeofSparseHeader) :
    main K (Os.initial input) = (do
      checkHeader (headerOf input)
      chunkLoop K (headerOf input) (headerOf input).totalChunks.toNat
      pure 0 : Proc ℕ) ⟨⟨input.drop sizeofSparseHeader, []⟩, 1, false⟩ :=
  have hread : readStruct K sizeofSparseHeader 1 (Os.initial input) =
      .ok (input.take sizeofSparseHeader) ⟨⟨input.drop sizeofSparseHeader, []⟩, 1, false⟩ :=
    readStruct_of_moved hmoved
  bind_of_ok hread

theorem sizeof_le_of_main (h : main K (Os.initial input) = .ok r os) :
    sizeofSparseHeader ≤ input.length := by
  obtain ⟨bytes, os₁, hread, -⟩ := bind_ok h
  exact (readStruct_ok hread).1

/-- A run that is accepted goes the same way with any number of blocks in the header. -/
theorem main_setTotalBlks (totalBlks : UInt32) (h : main K (Os.initial input) = .ok r os) :
    main K (Os.initial (setTotalBlks totalBlks input)) = .ok r os := by
  obtain ⟨bytes, os₁, hread, -⟩ := bind_ok h
  have hmoved : (K.header 0).moved (min sizeofSparseHeader input.length) = some sizeofSparseHeader :=
    readStruct_moved hread
  have hlen := sizeof_le_of_main h
  rw [main_of_moved hmoved] at h
  rw [main_of_moved (by rwa [length_setTotalBlks hlen]), headerOf_setTotalBlks hlen,
    drop_setTotalBlks hlen, chunkLoop_totalBlks, ← h]
  rfl

/-- **The number of blocks in the header is compared with nothing**: an input that is accepted has the
blocks of its chunks in the output, and with any other number of blocks in the header it has the same
chunks and is accepted with the same output. -/
theorem main_blocks (K : Kernel) (input : List UInt8) (os : Os)
    (h : main K (Os.initial input) = .ok 0 os) :
    ((∀ chunk ∈ chunksOf input, chunk.chunkType = chunkTypeRaw → chunk.chunkSz.toNat < 2 ^ 20) →
      os.files.output.length = 4096 * blockCount (chunksOf input)) ∧
    ∀ totalBlks, (headerOf (setTotalBlks totalBlks input)).totalBlks = totalBlks ∧
      chunksOf (setTotalBlks totalBlks input) = chunksOf input ∧
      main K (Os.initial (setTotalBlks totalBlks input)) = .ok 0 os := by
  have hlen := sizeof_le_of_main h
  refine ⟨fun hsmall => (main_ok h).2.trans (sum_written hsmall), fun totalBlks => ⟨?_, ?_, ?_⟩⟩
  · rw [headerOf_setTotalBlks hlen]
  · exact chunksOf_setTotalBlks hlen
  · exact main_setTotalBlks totalBlks h

set_option maxRecDepth 20000 in
theorem main_blocks_sparseInput :
    ((∀ chunk ∈ chunksOf sparseInput, chunk.chunkType = chunkTypeRaw → chunk.chunkSz.toNat < 2 ^ 20) →
      (List.replicate 4096 (7 : UInt8) ++ List.replicate 4096 0).length =
        4096 * blockCount (chunksOf sparseInput)) ∧
    ∀ totalBlks, (headerOf (setTotalBlks totalBlks sparseInput)).totalBlks = totalBlks ∧
      chunksOf (setTotalBlks totalBlks sparseInput) = chunksOf sparseInput ∧
      main .eager (Os.initial (setTotalBlks totalBlks sparseInput)) =
        .ok 0 ⟨⟨[], List.replicate 4096 7 ++ List.replicate 4096 0⟩, 5, false⟩ :=
  main_blocks .eager sparseInput ⟨⟨[], List.replicate 4096 7 ++ List.replicate 4096 0⟩, 5, false⟩
    (by decide +kernel)

/-- An image without a chunk, of which the header says that it has a block. -/
def emptyInput : List UInt8 := (SparseHeader.mk sparseHeaderMagic 1 0 28 12 4096 1 0 0).toBytes

theorem main_blocks_unequal : ¬ ∀ (K : Kernel) (input : List UInt8) (os : Os),
    main K (Os.initial input) = .ok 0 os →
      blockCount (chunksOf input) = (headerOf input).totalBlks.toNat := by
  intro h
  have hblocks := h .eager emptyInput ⟨⟨[], []⟩, 1, false⟩ (by decide)
  exact absurd hblocks (by decide)

end

end TrebleDoze.Simg2img
