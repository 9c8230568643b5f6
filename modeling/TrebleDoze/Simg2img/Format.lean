import TrebleDoze.Lib.LittleEndian

/-!
# The sparse image format

The two headers of `simg2img_simple.cpp` as the records that `read` fills in, and the chunk headers of
an input, which are found by passing over what stands behind each of them.

* `SparseHeader.ofBytes_toBytes`, `ChunkHeader.ofBytes_toBytes`: a header is read as it was written;
* `chunksOf`: the chunk headers of an input;
* `Faithful`: what an accepted input and its output have to do with each other.
-/

namespace TrebleDoze.Simg2img

open Lib

/-! ### The headers -/

/-- `sparse_header_t`. -/
structure SparseHeader where
  magic : UInt32
  majorVersion : UInt16
  minorVersion : UInt16
  fileHdrSz : UInt16
  chunkHdrSz : UInt16
  blkSz : UInt32
  totalBlks : UInt32
  totalChunks : UInt32
  imageChecksum : UInt32
deriving DecidableEq, Repr

/-- `sizeof(sparse_header_t)`. -/
def sizeofSparseHeader : ℕ := 28

/-- `SPARSE_HEADER_MAGIC`. -/
def sparseHeaderMagic : UInt32 := 0xed26ff3a

/-- `chunk_header_t`. -/
structure ChunkHeader where
  chunkType : UInt16
  reserved1 : UInt16
  chunkSz : UInt32
  totalSz : UInt32
deriving DecidableEq, Repr

/-- `sizeof(chunk_header_t)`. -/
def sizeofChunkHeader : ℕ := 12

/-- `CHUNK_TYPE_RAW`. -/
def chunkTypeRaw : UInt16 := 0xCAC1

/-- `CHUNK_TYPE_FILL`. -/
def chunkTypeFill : UInt16 := 0xCAC2

/-- `CHUNK_TYPE_DONT_CARE`. -/
def chunkTypeDontCare : UInt16 := 0xCAC3

/-- `CHUNK_TYPE_CRC32`. -/
def chunkTypeCrc32 : UInt16 := 0xCAC4

/-- The header in the memory that `read` has filled. -/
def SparseHeader.ofBytes (bs : List UInt8) : SparseHeader where
  magic := .ofNat (leField 0 4 bs)
  majorVersion := .ofNat (leField 4 2 bs)
  minorVersion := .ofNat (leField 6 2 bs)
  fileHdrSz := .ofNat (leField 8 2 bs)
  chunkHdrSz := .ofNat (leField 10 2 bs)
  blkSz := .ofNat (leField 12 4 bs)
  totalBlks := .ofNat (leField 16 4 bs)
  totalChunks := .ofNat (leField 20 4 bs)
  imageChecksum := .ofNat (leField 24 4 bs)

/-- The bytes of a header. -/
def SparseHeader.toBytes (hdr : SparseHeader) : List UInt8 :=
  leBytes 4 hdr.magic.toNat ++ (leBytes 2 hdr.majorVersion.toNat ++
    (leBytes 2 hdr.minorVersion.toNat ++ (leBytes 2 hdr.fileHdrSz.toNat ++
      (leBytes 2 hdr.chunkHdrSz.toNat ++ (leBytes 4 hdr.blkSz.toNat ++
        (leBytes 4 hdr.totalBlks.toNat ++ (leBytes 4 hdr.totalChunks.toNat ++
          (leBytes 4 hdr.imageChecksum.toNat ++ []))))))))

/-- The chunk header in the memory that `read` has filled. -/
def ChunkHeader.ofBytes (bs : List UInt8) : ChunkHeader where
  chunkType := .ofNat (leField 0 2 bs)
  reserved1 := .ofNat (leField 2 2 bs)
  chunkSz := .ofNat (leField 4 4 bs)
  totalSz := .ofNat (leField 8 4 bs)

/-- The bytes of a chunk header. -/
def ChunkHeader.toBytes (chunk : ChunkHeader) : List UInt8 :=
  leBytes 2 chunk.chunkType.toNat ++ (leBytes 2 chunk.reserved1.toNat ++
    (leBytes 4 chunk.chunkSz.toNat ++ (leBytes 4 chunk.totalSz.toNat ++ [])))

section

variable {off w v n : ℕ} {x : UInt16} {y : UInt32} {bs : List UInt8}

lemma leField_uint16 : UInt16.ofNat (leField 0 2 (leBytes 2 x.toNat ++ bs)) = x := by
  rw [leField_zero (by simpa using x.toNat_lt), UInt16.ofNat_toNat]

lemma leField_uint32 : UInt32.ofNat (leField 0 4 (leBytes 4 y.toNat ++ bs)) = y := by
  rw [leField_zero (by simpa using y.toNat_lt), UInt32.ofNat_toNat]

end

theorem SparseHeader.length_toBytes (hdr : SparseHeader) : hdr.toBytes.length = sizeofSparseHeader := by
  simp [SparseHeader.toBytes, sizeofSparseHeader]

theorem ChunkHeader.length_toBytes (chunk : ChunkHeader) : chunk.toBytes.length = sizeofChunkHeader := by
  simp [ChunkHeader.toBytes, sizeofChunkHeader]

theorem SparseHeader.ofBytes_toBytes (hdr : SparseHeader) : ofBytes hdr.toBytes = hdr := by
  simp only [ofBytes, toBytes, leField_append, Nat.reduceLeDiff, Nat.reduceSub, Nat.le_refl, Nat.sub_self,
    leField_uint16, leField_uint32]

theorem ChunkHeader.ofBytes_toBytes (chunk : ChunkHeader) : ofBytes chunk.toBytes = chunk := by
  simp only [ofBytes, toBytes, leField_append, Nat.reduceLeDiff, Nat.reduceSub, Nat.le_refl, Nat.sub_self,
    leField_uint16, leField_uint32]

/-! ### The chunks of an input -/

/-- The bytes that stand behind a chunk header: those that the copy of a raw chunk takes, with the
product of two `uint32_t`, the word of a fill or of a CRC32 chunk, none else. -/
def ChunkHeader.payload (blkSz : UInt32) (chunk : ChunkHeader) : ℕ :=
  if chunk.chunkType = chunkTypeRaw then (blkSz * chunk.chunkSz).toNat
  else if chunk.chunkType = chunkTypeFill ∨ chunk.chunkType = chunkTypeCrc32 then 4
  else 0

/-- The first `n` chunk headers of an input that is past its header. -/
def chunkHeaders (blkSz : UInt32) : ℕ → List UInt8 → List ChunkHeader
  | 0, _ => []
  | n + 1, input =>
    let chunk := ChunkHeader.ofBytes (input.take sizeofChunkHeader)
    chunk :: chunkHeaders blkSz n (input.drop (sizeofChunkHeader + chunk.payload blkSz))

/-- The chunk headers of an input, as many as its header counts. -/
def chunksOf (input : List UInt8) : List ChunkHeader :=
  let hdr := SparseHeader.ofBytes (input.take sizeofSparseHeader)
  chunkHeaders hdr.blkSz hdr.totalChunks.toNat (input.drop sizeofSparseHeader)

/-- The chunk stands for blocks of the image. -/
def ChunkHeader.HasBlocks (chunk : ChunkHeader) : Prop :=
  chunk.chunkType = chunkTypeRaw ∨ chunk.chunkType = chunkTypeFill ∨ chunk.chunkType = chunkTypeDontCare

instance (chunk : ChunkHeader) : Decidable chunk.HasBlocks :=
  inferInstanceAs (Decidable (_ ∨ _))

/-- The blocks of the image that the chunks stand for, in exact arithmetic. -/
def blockCount (chunks : List ChunkHeader) : ℕ :=
  ((chunks.filter fun chunk => chunk.HasBlocks).map fun chunk => chunk.chunkSz.toNat).sum

/-- What an accepted input says of its output: the size in each raw chunk is that of its blocks, and
the output has the blocks that the chunks stand for. -/
structure Faithful (chunks : List ChunkHeader) (output : List UInt8) : Prop where
  totalSz_eq : ∀ chunk ∈ chunks, chunk.chunkType = chunkTypeRaw →
    chunk.totalSz.toNat = sizeofChunkHeader + 4096 * chunk.chunkSz.toNat
  length_eq : output.length = 4096 * blockCount chunks

end TrebleDoze.Simg2img
